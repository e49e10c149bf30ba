import FacetedSearch.Aggregation
import FacetedSearch.Sorting

/-!
# Requests to an index

The facets of a request allow several selections. A selection in a facet must not hide the other
values of that facet, while it narrows all other facets. So every aggregation gets the root of the
request as its filter, without the conjuncts on its own field.

A conjunct counts as one on the field of a facet when its name is the beginning of that field,
up to ASCII case: a conjunct on `size` is left out for the facets `size` and `size_extended`,
but not the other way round.

## Main definitions

* `Request` — everything an index has to know to answer a query.
* `Request.aggregation?` — the aggregation with an id.
* `Conjunction.without` — the root without the conjuncts on a field.
* `Aggregation.isolationField` — the field that an aggregation counts.
* `Aggregation.isolate`, `Aggregation.isolateEach` — aggregations with their filters.
-/

namespace FacetedSearch

/-- The field with the text of a document. -/
def defaultContentField : String := "__content"

/-- The number of documents on a page. -/
def defaultTake : Int64 := 20

structure Request where
  /-- The window of documents; the index has bounds of its own. -/
  skip : Int64
  take : Int64
  /-- Words to search for; without them every document matches. -/
  keywords : Option String
  searchFields : List String
  filter : Conjunction
  sorting : List SortField
  aggregations : List Aggregation
  includeFields : List String
  fuzzy : Bool
  fuzziness : Option UInt32
deriving DecidableEq, Repr

/-- The first aggregation with an id. -/
def Request.aggregation? (request : Request) (id : String) : Option Aggregation :=
  request.aggregations.find? (·.id == id)

/-! ## Isolation -/

/-- Keep the conjuncts that have no name or whose name does not begin `field`. -/
def Conjunction.without (root : Conjunction) (field : String) : Conjunction :=
  ⟨root.conjuncts.filter fun f => !f.fieldName?.any (Text.startsWith field)⟩

namespace Aggregation

/-- The field of an aggregation, or that of its own filter when it has none. -/
def isolationField (a : Aggregation) : String :=
  if a.field = "" then (a.filter.bind Filter.fieldName?).getD "" else a.field

/-- Restrict an aggregation to the rest of the root. A filter that it had before stays in force
behind the new one. -/
def isolate (root : Conjunction) (a : Aggregation) : Aggregation :=
  let rest := (root.without a.isolationField).toFilter
  { a with filter := match a.filter with
      | none => some rest
      | some own => some (.all [rest, own]) }

/-- Isolate every aggregation of a list from the root. -/
def isolateEach (root : Conjunction) (as : List Aggregation) : List Aggregation :=
  as.map (isolate root)

@[simp] theorem id_isolate (root : Conjunction) (a : Aggregation) : (a.isolate root).id = a.id :=
  rfl

@[simp] theorem field_isolate (root : Conjunction) (a : Aggregation) :
    (a.isolate root).field = a.field := rfl

@[simp] theorem counting_isolate (root : Conjunction) (a : Aggregation) :
    (a.isolate root).counting = a.counting := rfl

end Aggregation

end FacetedSearch
