import FacetedSearch.Json.Value

/-!
# Values of configuration texts

## Main definitions

* `Toml` — a value of a configuration text.
* `TableKind` — how a table came to be, which decides who may add to it.
* `Toml.toJson` — the same data as JSON.
-/

namespace FacetedSearch

inductive TableKind where
  /-- Written in braces; complete. -/
  | inline
  /-- Named by a header of its own. -/
  | header
  /-- Only passed through by longer headers. -/
  | passed
  /-- Made by a dotted key. -/
  | dotted
deriving DecidableEq, Repr

inductive Toml where
  | string (s : String)
  | integer (n : Int)
  | float (x : Binary64)
  | boolean (b : Bool)
  /-- A date, a time or both; no setting has one, so its parts are not kept. -/
  | moment
  | array (items : List Toml)
  | table (kind : TableKind) (entries : List (String × Toml))
  /-- Tables that headers in double brackets have begun. -/
  | tables (tables : List (List (String × Toml)))
deriving Inhabited

namespace Toml

mutual

/-- The data as JSON. A date counts as a record none of whose members is a setting. -/
def toJson : Toml → Json
  | string s => .str s
  | integer n => .int n
  | float x => .double x
  | boolean b => .bool b
  | moment => .obj []
  | array items => .arr (itemsToJson items)
  | table _ entries => .obj (entriesToJson entries)
  | tables ts => .arr (tablesToJson ts)

def itemsToJson : List Toml → List Json
  | [] => []
  | t :: ts => toJson t :: itemsToJson ts

def entriesToJson : List (String × Toml) → List (String × Json)
  | [] => []
  | (key, t) :: es => (key, toJson t) :: entriesToJson es

def tablesToJson : List (List (String × Toml)) → List Json
  | [] => []
  | es :: ts => .obj (entriesToJson es) :: tablesToJson ts

end

end Toml

end FacetedSearch
