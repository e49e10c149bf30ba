import FacetedSearch.Aggregation
import FacetedSearch.FieldMapping
import FacetedSearch.Request

/-!
# Configuration

## Main definitions

* `Config` — the settings for all queries, the mapping rules and the facets of every search.
* `ConfigFault` — what makes a configuration useless.
* `Config.fault?`, `Config.validate` — look for a fault.
* `Config.mapper` — the configured rules, or those for catalogs when there are none.
-/

namespace FacetedSearch

structure SearchSettings where
  defaultTake : Int64 := FacetedSearch.defaultTake
  contentField : String := defaultContentField
  defaultSortField : String := "score"
  defaultSortDescending : Bool := true
  /-- Facet keywords that get the culture of a query as an ending. -/
  localizedFacetFields : List String := []
  /-- Terms of every request, unless the query restricts their field. -/
  defaultTerms : List String := []
deriving DecidableEq, Repr

structure MappingSettings where
  pattern : String
  replacement : String
  lowercase : Bool := false
deriving DecidableEq, Repr

/-- A facet of every search. -/
structure FacetSettings where
  field : String
  size : UInt64 := 0
deriving DecidableEq, Repr

structure Config where
  search : SearchSettings := {}
  fieldMappings : List MappingSettings := []
  facets : List FacetSettings := []
deriving DecidableEq, Repr

inductive ConfigFault where
  | negativeTake (take : Int64)
  | blankContentField
  | blankSortField
  | facetWithoutField (size : UInt64)
deriving DecidableEq, Repr

def ConfigFault.message : ConfigFault → String
  | negativeTake take => "default_take must not be negative, got " ++ toString take.toInt
  | blankContentField => "content_field must not be empty"
  | blankSortField => "default_sort_field must not be empty"
  | facetWithoutField size => "facet with size " ++ toString size.toNat ++ " has no field"

namespace Config

/-- The first fault, in the order of the settings. -/
def fault? (config : Config) : Option ConfigFault :=
  if config.search.defaultTake < 0 then some (.negativeTake config.search.defaultTake)
  else if Text.blank config.search.contentField then some .blankContentField
  else if Text.blank config.search.defaultSortField then some .blankSortField
  else (config.facets.find? fun f => Text.blank f.field).map fun f => .facetWithoutField f.size

/-- The configured mapping rules, or those for catalogs when none are configured. -/
def mapper (config : Config) (compiler : PatternCompiler) : Except SearchError FieldMapper :=
  if config.fieldMappings.isEmpty then .ok (.catalogWith compiler)
  else FieldMapper.ofTexts compiler
    (config.fieldMappings.map fun m => (m.pattern, m.replacement, m.lowercase))

/-- Refuse a configuration with a fault or with a pattern that the engine refuses. -/
def validate (config : Config) (compiler : PatternCompiler) : Except SearchError Unit :=
  match config.fault? with
  | some fault => .error (.invalidConfig fault.message)
  | none => (config.mapper compiler).map fun _ => ()

def defaultSort (config : Config) : SortField :=
  ⟨config.search.defaultSortField, config.search.defaultSortDescending, none⟩

/-- The aggregations of every search. -/
def predefined (config : Config) : List Aggregation :=
  config.facets.map fun f => .ofField f.field f.size

end Config

end FacetedSearch
