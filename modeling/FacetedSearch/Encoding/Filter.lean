import FacetedSearch.Filter.Basic
import FacetedSearch.Json.Record

/-!
# Filters as JSON

A filter is a record with a `type`; the root of a request has the form of a conjunction
without a type.
-/

namespace FacetedSearch

open Json

/-! ## Intervals -/

/-- The bounds of an interval, as members of the object that has them. -/
def Interval.toMembers (i : Interval) : Members :=
  [("lower", ofOption str i.lower), ("upper", ofOption str i.upper),
   ("include_lower", .bool i.includeLower), ("include_upper", .bool i.includeUpper)]

def Interval.ofMembers? (ms : Members) : Option Interval := do
  return ⟨← nullable "lower" string? ms, ← nullable "upper" string? ms,
    ← required "include_lower" bool? ms, ← required "include_upper" bool? ms⟩

def Interval.toJson (i : Interval) : Json := .obj i.toMembers

def Interval.ofJson? (j : Json) : Option Interval :=
  (j.record? ["lower", "upper", "include_lower", "include_upper"] 4).bind Interval.ofMembers?

/-! ## Filters -/

namespace Filter

mutual

def toJson : Filter → Json
  | term f vs => .obj [("type", .str "term"), ("field_name", .str f), ("values", ofStrings vs)]
  | wildcard f v =>
    .obj [("type", .str "wildcard_term"), ("field_name", .str f), ("value", .str v)]
  | range f is =>
    .obj [("type", .str "range"), ("field_name", .str f), ("values", ofList Interval.toJson is)]
  | ids vs => .obj [("type", .str "ids"), ("values", ofStrings vs)]
  | all cs => .obj [("type", .str "and"), ("children", .arr (toJsons cs))]
  | any cs => .obj [("type", .str "or"), ("children", .arr (toJsons cs))]

def toJsons : List Filter → List Json
  | [] => []
  | f :: fs => toJson f :: toJsons fs

end

mutual

/-- Read a filter by its type. -/
def ofJson? : Json → Option Filter
  | .obj ms => do
    match ← required "type" string? ms with
    | "term" => return term (← required "field_name" string? ms) (← required "values" strings? ms)
    | "wildcard_term" =>
      return wildcard (← required "field_name" string? ms) (← required "value" string? ms)
    | "range" =>
      return range (← required "field_name" string? ms)
        (← required "values" (list? Interval.ofJson?) ms)
    | "ids" => return ids (← required "values" strings? ms)
    | "and" => return all (← childrenIn? ms)
    | "or" => return any (← childrenIn? ms)
    | _ => none
  | .arr [type, part] => do
    match ← type.string? with
    | "ids" => return ids (← strings? part)
    | "and" => return all (← ofArray? part)
    | "or" => return any (← ofArray? part)
    | _ => none
  | .arr [type, field, part] => do
    match ← type.string? with
    | "term" => return term (← field.string?) (← strings? part)
    | "wildcard_term" => return wildcard (← field.string?) (← part.string?)
    | "range" => return range (← field.string?) (← part.list? Interval.ofJson?)
    | _ => none
  | _ => none

/-- The children of a composite, among its members. -/
def childrenIn? : List (String × Json) → Option (List Filter)
  | [] => none
  | (name, j) :: ms => if name == "children" then ofArray? j else childrenIn? ms

def ofArray? : Json → Option (List Filter)
  | .arr items => ofEach? items
  | _ => none

def ofEach? : List Json → Option (List Filter)
  | [] => some []
  | j :: js => do
    let f ← ofJson? j
    let fs ← ofEach? js
    return f :: fs

end

@[simp] theorem toJsons_eq_map (fs : List Filter) : toJsons fs = fs.map toJson := by
  induction fs <;> simp_all [toJsons]

end Filter

/-! ## Roots -/

def Conjunction.toJson (root : Conjunction) : Json :=
  .obj [("children", ofList Filter.toJson root.conjuncts)]

def Conjunction.ofJson? (j : Json) : Option Conjunction := do
  return ⟨← Filter.childrenIn? (← j.record? ["children"] 1)⟩

end FacetedSearch
