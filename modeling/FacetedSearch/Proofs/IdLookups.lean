import FacetedSearch.Proofs.QueryParts

/-!
# Lookups by id

A query that names documents by their ids asks for as many as it names, whatever number was asked
for. Its page begins where it was asked to begin, and so it reaches all of them only when it
begins at the first.

## Main definitions

* `Query.withPage` — a query for another page.
* `Request.Reaches` — which places are on the page of a request.
-/

namespace FacetedSearch

def Query.withPage (skip take : Option Int64) (query : Query) : Query := { query with skip, take }

/-- Of the documents that pass, counted from zero, the one at place `i` is on the page. -/
def Request.Reaches (request : Request) (i : Nat) : Prop :=
  request.skip.toInt ≤ i ∧ i < request.skip.toInt + request.take.toInt

/-- A page for as many documents as there are reaches them all when it begins at the first. -/
theorem Request.forall_reaches_iff {request : Request} {n : Nat} (hn : 0 < n)
    (hlt : n < 0x8000000000000000) (htake : request.take = Int64.ofNat n) :
    (∀ i < n, request.Reaches i) ↔ request.skip = 0 := by
  have hcount : request.take.toInt = n := by rw [htake, Int64.toInt_ofNat_of_lt hlt]
  simp only [Reaches, hcount]
  constructor
  · intro h
    have hfirst := (h 0 hn).1
    have hlast := (h (n - 1) (by omega)).2
    apply Int64.toInt_inj.1
    rw [Int64.toInt_zero]
    omega
  · intro h i hi
    rw [h, Int64.toInt_zero]
    omega

namespace Catalog

variable {catalog : Catalog} {query : Query}

/-- Of the page of a lookup only its beginning is up to the query. -/
theorem requestOf_withPage (hids : query.objectIds ≠ []) (skip take : Option Int64)
    (filters facets : Parsed) : catalog.requestOf (query.withPage skip take) filters facets =
      { catalog.requestOf query filters facets with skip := skip.getD 0 } := by
  have hids' : (query.withPage skip take).objectIds ≠ [] := hids
  have hfacets : (catalog.prepare (query.withPage skip take)).facetsOf facets =
      (catalog.prepare query).facetsOf facets := by
    refine facetsOf_prepare_congr ?_ ?_ facets <;> rfl
  rw [requestOf_eq, requestOf_eq, if_neg hids, if_neg hids', hfacets]
  rfl

theorem compile_withPage (hids : query.objectIds ≠ []) (skip take : Option Int64) :
    catalog.compile (query.withPage skip take) =
      ⟨(catalog.compile query).asked, (catalog.compile query).sent,
        (catalog.compile query).result.map fun r => { r with skip := skip.getD 0 }⟩ := by
  have hfilter : (query.withPage skip take).filter = query.filter := rfl
  have hfacet : (query.withPage skip take).facet = query.facet := rfl
  rw [compile_eq, compile_eq, hfilter, hfacet]
  cases catalog.parser.found (query.filter.getD "") with
  | error e => rfl
  | ok filters =>
    cases catalog.parser.found (query.facet.getD "") with
    | error e => rfl
    | ok facets => simp only [Except.map, requestOf_withPage hids]

/-- Two lookups of the same documents are compiled alike, whatever pages they ask for, when these
begin at one place, and otherwise only if they do not compile. The page of a lookup is as long as
the list of ids, which is its first conjunct. It reaches each of these documents exactly when it
begins at the first. -/
theorem compile_lookup_iff (catalog : Catalog) (query : Query) (hids : query.objectIds ≠ []) :
    (∀ skip take skip' take', catalog.compile (query.withPage skip take) =
        catalog.compile (query.withPage skip' take') ↔
      skip.getD 0 = skip'.getD 0 ∨ ∃ e, (catalog.compile query).result = .error e) ∧
    ∀ request, (catalog.compile query).result = .ok request →
      request.skip = query.skip.getD 0 ∧
      request.take = Int64.ofNat query.objectIds.length ∧
      (∃ rest, request.filter.conjuncts = .ids query.objectIds :: rest) ∧
      (query.objectIds.length < 0x8000000000000000 →
        ((∀ i < query.objectIds.length, request.Reaches i) ↔ query.skip.getD 0 = 0)) := by
  constructor
  · intro skip take skip' take'
    rw [compile_withPage hids, compile_withPage hids]
    cases (catalog.compile query).result with
    | error e => exact iff_of_true rfl (.inr ⟨e, rfl⟩)
    | ok request =>
      constructor
      · intro h
        have hrequests := Except.ok.inj (congrArg Consulted.result h)
        exact .inl (congrArg Request.skip hrequests)
      · rintro (hskip | ⟨e, he⟩)
        · rw [hskip]
        · cases he
  · intro request hrequest
    obtain ⟨filters, facets, -, -, rfl⟩ := result_compile_eq_ok_iff.1 hrequest
    have hskip : (catalog.requestOf query filters facets).skip = query.skip.getD 0 := by
      rw [requestOf_eq]
    have htake : (catalog.requestOf query filters facets).take =
        Int64.ofNat query.objectIds.length := by
      rw [requestOf_eq, if_neg hids]
    refine ⟨hskip, htake, ?_, fun hlt => ?_⟩
    · rw [conjuncts_requestOf, Query.conjuncts, Draft.idsOf, if_neg hids]
      exact ⟨_, rfl⟩
    · rw [← hskip]
      exact Request.forall_reaches_iff (List.length_pos_of_ne_nil hids) hlt htake

/-- A page of one document that begins at the first becomes one of both. -/
theorem compile_lookup_iff_pair :
    let parser : ExpressionParser := fun _ => .ok {}
    let catalog : Catalog := ⟨{}, .catalog, parser, fun _ => .error (.provider "closed")⟩
    let query : Query := { objectIds := ["p1", "p2"], terms := ["color:red"] }
    catalog.compile (query.withPage none (some 1)) = catalog.compile (query.withPage (some 0) none) ∧
      ∃ request, (catalog.compile query).result = .ok request ∧ request.take = 2 ∧
        request.Reaches 0 ∧ request.Reaches 1 := by
  intro parser catalog query
  obtain ⟨hpages, hrequest⟩ := compile_lookup_iff catalog query (by decide)
  have hcompile : (catalog.compile query).result = .ok (catalog.requestOf query {} {}) :=
    result_compile_eq_ok_iff.2 ⟨_, _, by decide, by decide, rfl⟩
  obtain ⟨-, htake, -, hreaches⟩ := hrequest _ hcompile
  have hall := (hreaches (by decide)).2 rfl
  exact ⟨(hpages ..).2 (.inl rfl), _, hcompile, htake, hall 0 (by decide), hall 1 (by decide)⟩

/-- A lookup that is to skip a document compiles to another request, which does not reach the
first one. -/
theorem compile_lookup_depends_on_skip :
    let parser : ExpressionParser := fun _ => .ok {}
    let catalog : Catalog := ⟨{}, .catalog, parser, fun _ => .error (.provider "closed")⟩
    let query : Query := { objectIds := ["p1", "p2"] }
    let later := query.withPage (some 1) none
    (catalog.compile later).result ≠ (catalog.compile query).result ∧
      ∃ request, (catalog.compile later).result = .ok request ∧ request.skip = 1 ∧
        ¬ request.Reaches 0 := by
  intro parser catalog query later
  have hcompile : ∀ query : Query, query.filter = none → query.facet = none →
      (catalog.compile query).result = .ok (catalog.requestOf query {} {}) := by
    intro query hfilter hfacet
    rw [result_compile_eq_ok_iff, hfilter, hfacet]
    exact ⟨_, _, by decide, by decide, rfl⟩
  have hskip : ∀ query : Query, (catalog.requestOf query {} {}).skip = query.skip.getD 0 := by
    intro query
    rw [requestOf_eq]
  refine ⟨fun h => ?_, _, hcompile later rfl rfl, hskip later, fun h => ?_⟩
  · rw [hcompile later rfl rfl, hcompile query rfl rfl] at h
    have hsame := congrArg Request.skip (Except.ok.inj h)
    rw [hskip, hskip] at hsame
    exact absurd hsame (by decide)
  · have hfirst := h.1
    rw [hskip] at hfirst
    exact absurd hfirst (by decide)

end Catalog

end FacetedSearch
