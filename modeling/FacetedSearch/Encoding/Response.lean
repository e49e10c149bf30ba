import FacetedSearch.Catalog
import FacetedSearch.Encoding.Request

/-!
# Queries, answers and results as JSON
-/

namespace FacetedSearch

open Json

/-! ## Parsed expressions -/

def Parsed.toJson (p : Parsed) : Json :=
  .obj [("keyword", .str p.keyword), ("filters", ofList Filter.toJson p.filters)]

def Parsed.ofMembers? (ms : Members) : Option Parsed := do
  return ⟨← defaulted "keyword" "" string? ms,
    ← defaulted "filters" [] (list? Filter.ofJson?) ms⟩

def Parsed.ofJson? (j : Json) : Option Parsed :=
  (j.record? ["keyword", "filters"] 0).bind Parsed.ofMembers?

/-! ## Queries -/

def Query.toJson (q : Query) : Json :=
  .obj [("skip", ofOption ofWindow q.skip), ("take", ofOption ofWindow q.take),
    ("keyword", ofOption str q.keyword), ("filter", ofOption str q.filter),
    ("facet", ofOption str q.facet), ("sort", ofOption str q.sort),
    ("culture", ofOption str q.culture), ("currency", ofOption str q.currency),
    ("object_ids", ofStrings q.objectIds), ("terms", ofStrings q.terms),
    ("fuzzy", .bool q.fuzzy), ("fuzzy_level", ofOption ofLevel q.fuzzyLevel),
    ("include_fields", ofStrings q.includeFields)]

def Query.ofJson? (j : Json) : Option Query := do
  let ms ← j.record? ["skip", "take", "keyword", "filter", "facet", "sort", "culture", "currency",
    "object_ids", "terms", "fuzzy", "fuzzy_level", "include_fields"] 12
  return {
    skip := ← nullable "skip" window? ms
    take := ← nullable "take" window? ms
    keyword := ← nullable "keyword" string? ms
    filter := ← nullable "filter" string? ms
    facet := ← nullable "facet" string? ms
    sort := ← nullable "sort" string? ms
    culture := ← nullable "culture" string? ms
    currency := ← nullable "currency" string? ms
    objectIds := ← defaulted "object_ids" [] strings? ms
    terms := ← defaulted "terms" [] strings? ms
    fuzzy := ← defaulted "fuzzy" false bool? ms
    fuzzyLevel := ← nullable "fuzzy_level" level? ms
    includeFields := ← defaulted "include_fields" [] strings? ms }

/-! ## Answers -/

def Count.toJson (c : Count) : Json := .obj [("id", .str c.id), ("count", ofCount c.count)]

def Count.ofJson? (j : Json) : Option Count := do
  let ms ← j.record? ["id", "count"] 2
  return ⟨← required "id" string? ms, ← required "count" count? ms⟩

def AggregationResponse.toJson (r : AggregationResponse) : Json :=
  .obj [("id", .str r.id), ("values", ofList Count.toJson r.values)]

def AggregationResponse.ofJson? (j : Json) : Option AggregationResponse := do
  let ms ← j.record? ["id", "values"] 1
  return ⟨← required "id" string? ms, ← defaulted "values" [] (list? Count.ofJson?) ms⟩

def Response.toJson (r : Response) : Json :=
  .obj [("documents", .arr r.documents), ("total_count", ofCount r.totalCount),
    ("aggregations", ofList AggregationResponse.toJson r.aggregations)]

def Response.ofJson? (j : Json) : Option Response := do
  let ms ← j.record? ["documents", "total_count", "aggregations"] 2
  return ⟨← defaulted "documents" [] array? ms, ← required "total_count" count? ms,
    ← defaulted "aggregations" [] (list? AggregationResponse.ofJson?) ms⟩

/-! ## Facets and results -/

def TermItem.toJson (i : TermItem) : Json :=
  .obj [("term", .str i.term), ("count", ofCount i.count), ("is_applied", .bool i.isApplied)]

def TermItem.ofJson? (j : Json) : Option TermItem := do
  let ms ← j.record? ["term", "count", "is_applied"] 3
  return ⟨← required "term" string? ms, ← required "count" count? ms,
    ← required "is_applied" bool? ms⟩

def RangeItem.toJson (i : RangeItem) : Json :=
  .obj (i.bucket.toMembers ++ [("count", ofCount i.count), ("is_applied", .bool i.isApplied)])

def RangeItem.ofJson? (j : Json) : Option RangeItem := do
  let ms ← j.record? ["id", "lower", "upper", "include_lower", "include_upper", "count",
    "is_applied"] 7
  return ⟨← Bucket.ofMembers? ms, ← required "count" count? ms, ← required "is_applied" bool? ms⟩

/-- The type of a facet. -/
def FacetItems.type : FacetItems → String
  | terms _ => "term"
  | ranges _ => "range"

def FacetItems.toJson : FacetItems → Json
  | terms items => ofList TermItem.toJson items
  | ranges items => ofList RangeItem.toJson items

def FacetItems.ofJson? (type : String) (j : Json) : Option FacetItems :=
  match type with
  | "term" => (j.list? TermItem.ofJson?).map terms
  | "range" => (j.list? RangeItem.ofJson?).map ranges
  | _ => none

def Facet.toJson (f : Facet) : Json :=
  .obj [("type", .str f.items.type), ("id", .str f.id), ("field_name", .str f.field),
    ("items", f.items.toJson)]

def Facet.ofJson? (j : Json) : Option Facet := do
  let (type, ms) ← j.variant? (fun _ => ["id", "field_name", "items"]) 3
  return ⟨← required "id" string? ms, ← required "field_name" string? ms,
    ← required "items" (FacetItems.ofJson? type) ms⟩

def SearchResult.toJson (r : SearchResult) : Json :=
  .obj [("total_count", ofCount r.totalCount), ("documents", .arr r.documents),
    ("facets", ofList Facet.toJson r.facets)]

def SearchResult.ofJson? (j : Json) : Option SearchResult := do
  let ms ← j.record? ["total_count", "documents", "facets"] 3
  return ⟨← required "total_count" count? ms, ← required "documents" array? ms,
    ← required "facets" (list? Facet.ofJson?) ms⟩

end FacetedSearch
