import FacetedSearch.Encoding.Filter
import FacetedSearch.Request

/-!
# Requests as JSON
-/

namespace FacetedSearch

open Json

/-! ## Sorting -/

/-- A double as a number. JSON has no number for infinities and NaN, which become null. -/
def Binary64.toJson (x : Binary64) : Json := if x.isFinite then .double x else .null

def GeoPoint.toJson (p : GeoPoint) : Json :=
  .obj [("latitude", p.latitude.toJson), ("longitude", p.longitude.toJson)]

def GeoPoint.ofJson? (j : Json) : Option GeoPoint := do
  let ms ← j.record? ["latitude", "longitude"] 2
  return ⟨← required "latitude" double? ms, ← required "longitude" double? ms⟩

def SortField.toJson (f : SortField) : Json :=
  .obj ([("field_name", .str f.field), ("descending", .bool f.descending)] ++
    memberOf "geo_point" GeoPoint.toJson f.origin)

def SortField.ofJson? (j : Json) : Option SortField := do
  let ms ← j.record? ["field_name", "descending", "geo_point"] 2
  return ⟨← required "field_name" string? ms, ← required "descending" bool? ms,
    ← nullable "geo_point" GeoPoint.ofJson? ms⟩

/-! ## Aggregations -/

def Bucket.toMembers (b : Bucket) : Members := ("id", .str b.id) :: b.interval.toMembers

def Bucket.ofMembers? (ms : Members) : Option Bucket := do
  return ⟨← required "id" string? ms, ← Interval.ofMembers? ms⟩

def Bucket.toJson (b : Bucket) : Json := .obj b.toMembers

def Bucket.ofJson? (j : Json) : Option Bucket :=
  (j.record? ["id", "lower", "upper", "include_lower", "include_upper"] 5).bind Bucket.ofMembers?

/-- What is counted; values are left out when there are none. -/
def Counting.toMembers : Counting → Members
  | terms size values => ("size", ofCount size) ::
      memberOf "values" ofStrings (if values.isEmpty then none else some values)
  | buckets bs => [("values", ofList Bucket.toJson bs)]

/-- The type of an aggregation. -/
def Counting.type : Counting → String
  | terms .. => "term"
  | buckets _ => "range"

/-- The parts of an aggregation of a type. -/
def Counting.parts (type : String) : List String :=
  if type = "term" then ["id", "field_name", "size", "values", "filter"]
  else ["id", "field_name", "values", "filter"]

def Counting.ofMembers? (type : String) (ms : Members) : Option Counting := do
  match type with
  | "term" => return terms (← required "size" count? ms) (← defaulted "values" [] strings? ms)
  | "range" => return buckets (← required "values" (list? Bucket.ofJson?) ms)
  | _ => none

def Aggregation.toJson (a : Aggregation) : Json :=
  .obj ([("type", .str a.counting.type), ("id", .str a.id), ("field_name", .str a.field)] ++
    a.counting.toMembers ++ memberOf "filter" Filter.toJson a.filter)

def Aggregation.ofJson? (j : Json) : Option Aggregation := do
  let (type, ms) ← j.variant? Counting.parts 3
  let counting ← Counting.ofMembers? type ms
  return ⟨← required "id" string? ms, ← required "field_name" string? ms, counting,
    ← nullable "filter" Filter.ofJson? ms⟩

/-! ## Requests -/

def Request.toJson (r : Request) : Json :=
  .obj [("skip", ofWindow r.skip), ("take", ofWindow r.take),
    ("search_keywords", ofOption str r.keywords), ("search_fields", ofStrings r.searchFields),
    ("filter", r.filter.toJson), ("sorting", ofList SortField.toJson r.sorting),
    ("aggregations", ofList Aggregation.toJson r.aggregations),
    ("include_fields", ofStrings r.includeFields), ("is_fuzzy", .bool r.fuzzy),
    ("fuzziness", ofOption ofLevel r.fuzziness)]

def Request.ofJson? (j : Json) : Option Request := do
  let ms ← j.record? ["skip", "take", "search_keywords", "search_fields", "filter", "sorting",
    "aggregations", "include_fields", "is_fuzzy", "fuzziness"] 10
  return {
    skip := ← required "skip" window? ms
    take := ← required "take" window? ms
    keywords := ← nullable "search_keywords" string? ms
    searchFields := ← required "search_fields" strings? ms
    filter := ← required "filter" Conjunction.ofJson? ms
    sorting := ← required "sorting" (list? SortField.ofJson?) ms
    aggregations := ← required "aggregations" (list? Aggregation.ofJson?) ms
    includeFields := ← required "include_fields" strings? ms
    fuzzy := ← required "is_fuzzy" bool? ms
    fuzziness := ← nullable "fuzziness" level? ms }

end FacetedSearch
