/-!
# Errors of a search

## Main definitions

* `PatternFault`, `FileFault` — why a pattern or a file is refused; others find these faults.
* `SearchError` — what can go wrong, from a missing collaborator to an unreadable file.
* `SearchError.message` — the text for the user.
-/

namespace FacetedSearch

/-- Why a text cannot be compiled as a pattern. -/
inductive PatternFault where
  | malformed (detail : String)
  /-- The compiled pattern has more bytes than the limit. -/
  | tooLarge (limit : Nat)
deriving DecidableEq, Repr

def PatternFault.message : PatternFault → String
  | malformed detail => detail
  | tooLarge limit => "Compiled regex exceeds size limit of " ++ toString limit ++ " bytes."

inductive FileFault.Kind where
  | notFound
  /-- The content is not a text. -/
  | invalidData
  | other (name : String)
deriving DecidableEq, Repr

/-- Why a file cannot be read. -/
structure FileFault where
  kind : FileFault.Kind
  detail : String
deriving DecidableEq, Repr

inductive SearchError where
  /-- A collaborator or an argument is missing or of no use. -/
  | invalidArgument (detail : String)
  /-- A filter or facet expression cannot be parsed. -/
  | unparsable (detail : String)
  /-- The index cannot answer a request. -/
  | provider (detail : String)
  /-- The configuration can be read but makes no sense. -/
  | invalidConfig (detail : String)
  /-- The pattern of a mapping rule cannot be compiled. -/
  | invalidPattern (fault : PatternFault)
  /-- The text of a configuration cannot be read. -/
  | malformedConfig (detail : String)
  | unreadable (fault : FileFault)
deriving DecidableEq, Repr

namespace SearchError

/-- The error for a collaborator that has not been set. -/
def missing (what : String) : SearchError := .invalidArgument (what ++ " is not set")

def message : SearchError → String
  | invalidArgument detail => "invalid argument: " ++ detail
  | unparsable detail => "failed to parse expression: " ++ detail
  | provider detail => "search provider error: " ++ detail
  | invalidConfig detail => "invalid configuration: " ++ detail
  | invalidPattern fault => "invalid field mapping pattern: " ++ fault.message
  | malformedConfig detail => "failed to parse configuration: " ++ detail
  | unreadable fault => "io error: " ++ fault.detail

end SearchError

end FacetedSearch
