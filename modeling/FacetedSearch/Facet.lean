import FacetedSearch.Collaborator

/-!
# Facets

A facet shows the counts of an aggregation, with a mark at the values that the query has
selected. Facets stand in the order of the request; an aggregation that is not answered has
none.

## Main definitions

* `Facet`, `FacetItems` — the counts of a field for display.
* `Conjunction.selections` — the filters in which a selection shows.
* `Conjunction.selectsTerm`, `Conjunction.selectsInterval` — whether a value is selected.
* `Facet.ofResponse`, `Request.facets` — the facets for the answers of an index.
-/

namespace FacetedSearch

structure TermItem where
  term : String
  count : UInt64
  isApplied : Bool
deriving DecidableEq, Repr

structure RangeItem where
  bucket : Bucket
  count : UInt64
  isApplied : Bool
deriving DecidableEq, Repr

inductive FacetItems where
  | terms (items : List TermItem)
  | ranges (items : List RangeItem)
deriving DecidableEq, Repr

structure Facet where
  id : String
  field : String
  items : FacetItems
deriving DecidableEq, Repr

/-! ## Selections -/

/-- The conjuncts, and in place of a choice its parts, since the wildcards of a selection make
one. -/
def Conjunction.selections (root : Conjunction) : List Filter :=
  root.conjuncts.flatMap fun
    | .any children => children
    | f => [f]

/-- Whether a filter selects a value of a field, up to ASCII case. -/
def Filter.selectsTerm (field value : String) : Filter → Bool
  | .term name values => Text.same name field && values.any (Text.same · value)
  | _ => false

/-- Whether a filter selects an interval of a field. -/
def Filter.selectsInterval (field : String) (i : Interval) : Filter → Bool
  | .range name intervals => Text.same name field && intervals.any (·.sameBounds i)
  | _ => false

def Conjunction.selectsTerm (root : Conjunction) (field value : String) : Bool :=
  root.selections.any (Filter.selectsTerm field value)

def Conjunction.selectsInterval (root : Conjunction) (field : String) (i : Interval) : Bool :=
  root.selections.any (Filter.selectsInterval field i)

/-! ## Counts -/

/-- The values with their counts: the requested ones in their order, or else all that the index
has found. Letter case does not count for a requested value. -/
def termCounts (requested : List String) (counts : List Count) : List (String × UInt64) :=
  if requested.isEmpty then counts.map fun c => (c.id, c.count)
  else requested.map fun term =>
    (term, ((counts.find? fun c => Text.same c.id term).map (·.count)).getD 0)

/-- The count of a bucket; the last one counts. -/
def bucketCount (counts : List Count) (id : String) : UInt64 :=
  ((counts.reverse.find? (·.id == id)).map (·.count)).getD 0

namespace Facet

/-- The facet for the answer to an aggregation. -/
def ofResponse (root : Conjunction) (a : Aggregation) (r : AggregationResponse) : Facet where
  id := a.id
  field := a.field
  items := match a.counting with
    | .terms _ requested => .terms ((termCounts requested r.values).map fun (term, count) =>
        ⟨term, count, root.selectsTerm a.field term⟩)
    | .buckets buckets => .ranges (buckets.map fun b =>
        ⟨b, bucketCount r.values b.id, root.selectsInterval a.field b.interval⟩)

end Facet

/-- The facets of a request for the answers of an index. Of several answers with one id the last
counts. -/
def Request.facets (request : Request) (responses : List AggregationResponse) : List Facet :=
  request.aggregations.filterMap fun a =>
    (responses.reverse.find? (·.id == a.id)).map (Facet.ofResponse request.filter a)

end FacetedSearch
