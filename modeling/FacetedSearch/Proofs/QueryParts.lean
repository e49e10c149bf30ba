import FacetedSearch.Proofs.CompiledRequest

/-!
# Which parts of a query a request depends on

A request is written out part by part, in terms of the parts of its query and of what the parser
finds in the expressions. So two queries that agree on some parts get requests that agree on all
that is made from these.

## Main definitions

* `Aggregation.erase` — an aggregation without its filter.
* `Request.AgreesWith` — which parts of two requests agree when parts of their queries do.
-/

namespace FacetedSearch

def Aggregation.erase (a : Aggregation) : Aggregation := { a with filter := none }

/-- Whatever else two queries ask for, a part of their requests is the same when they agree on the
few parts that it is made from. -/
structure Request.AgreesWith (query query' : Query) (r r' : Request) : Prop where
  skip : query.skip = query'.skip → r.skip = r'.skip
  take : query.take = query'.take → query.objectIds = query'.objectIds → r.take = r'.take
  keywords : query.keyword = query'.keyword → query.filter = query'.filter →
    r.keywords = r'.keywords
  searchFields : query.culture = query'.culture → r.searchFields = r'.searchFields
  filter : query.objectIds = query'.objectIds → query.terms = query'.terms →
    query.filter = query'.filter → query.currency = query'.currency → r.filter = r'.filter
  sorting : query.sort = query'.sort → query.currency = query'.currency → r.sorting = r'.sorting
  counted : query.facet = query'.facet → query.culture = query'.culture →
    query.currency = query'.currency →
    r.aggregations.map Aggregation.erase = r'.aggregations.map Aggregation.erase
  aggregations : query.facet = query'.facet → query.culture = query'.culture →
    query.currency = query'.currency → query.objectIds = query'.objectIds →
    query.terms = query'.terms → query.filter = query'.filter → r.aggregations = r'.aggregations
  includeFields : query.includeFields = query'.includeFields → r.includeFields = r'.includeFields
  fuzzy : query.fuzzy = query'.fuzzy → r.fuzzy = r'.fuzzy
  fuzziness : query.fuzzyLevel = query'.fuzzyLevel → r.fuzziness = r'.fuzziness

/-! ## Aggregations -/

theorem Aggregation.map_erase_isolateEach (root : Conjunction) (as : List Aggregation) :
    (isolateEach root as).map erase = as.map erase := by
  rw [isolateEach, List.map_map]
  rfl

namespace Draft

/-- The facets of an expression depend on how names are mapped and localized and on the
currency. -/
theorem facetsOf_congr {d d' : Draft} (hmapper : d.mapper = d'.mapper)
    (hcurrency : d.currency = d'.currency) (hculture : d.culture = d'.culture)
    (hlocalized : d.localizedFacetFields = d'.localizedFacetFields) (parsed : Parsed) :
    d.facetsOf parsed = d'.facetsOf parsed := by
  have hfilter : d.filterFacet? = d'.filterFacet? := by
    funext f
    unfold filterFacet?
    rw [hmapper, hcurrency]
  have hkeyword : d.keywordFacet = d'.keywordFacet := by
    funext keyword
    unfold keywordFacet localize
    rw [hmapper, hculture, hlocalized]
  rw [facetsOf, facetsOf, hfilter, hkeyword]

/-- Sorting goes by the items of the expression, if there are any. -/
theorem sortBy_eq (d : Draft) (expression : String) : d.sortBy expression =
    { d with sorting := match SortField.ofExpression d.currency expression with
        | [] => d.sorting
        | fields => fields } := by
  unfold sortBy
  split <;> simp_all

end Draft

/-! ## The request of a query -/

namespace Catalog

variable {catalog : Catalog} {query query' : Query} {filters facets : Parsed}

/-- The request of a query, written out. -/
theorem requestOf_eq (catalog : Catalog) (query : Query) (filters facets : Parsed) :
    let content := catalog.config.search.contentField
    let culture := (query.culture.bind Draft.nonBlank).map Text.lowercase
    let own := query.conjuncts catalog.mapper filters
    let root : Conjunction := ⟨own ++ Conjunction.newTo ⟨own⟩
      (Draft.termsOf catalog.mapper catalog.config.search.defaultTerms)⟩
    catalog.requestOf query filters facets =
      { skip := query.skip.getD 0
        take := if query.objectIds = [] then query.take.getD catalog.config.search.defaultTake
          else Int64.ofNat query.objectIds.length
        keywords := (query.keyword.bind Draft.nonBlank).or (Draft.nonBlank filters.keyword)
        searchFields := content :: (culture.map (content ++ "_" ++ ·)).toList
        filter := root
        sorting :=
          match SortField.ofExpression (query.currency.bind Draft.nonBlank)
            (query.sort.getD "") with
          | [] => [catalog.config.defaultSort]
          | fields => fields
        aggregations := Aggregation.isolateEach root (Aggregation.unique
          (catalog.config.predefined ++ (catalog.prepare query).facetsOf facets))
        includeFields := query.includeFields
        fuzzy := query.fuzzy
        fuzziness := query.fuzzyLevel } := by
  simp only [requestOf, Draft.isolateFacets, Draft.sortBy_eq, Draft.acceptFacets,
    Draft.addTerms_true, prepare_eq, settings_eq]
  rfl

theorem facetsOf_prepare_congr (hculture : query.culture = query'.culture)
    (hcurrency : query.currency = query'.currency) (facets : Parsed) :
    (catalog.prepare query).facetsOf facets = (catalog.prepare query').facetsOf facets := by
  refine Draft.facetsOf_congr ?_ ?_ ?_ ?_ facets
  · rw [mapper_prepare, mapper_prepare]
  · rw [currency_prepare, currency_prepare, hcurrency]
  · rw [prepare_eq, prepare_eq, settings_eq, settings_eq]
    simp only [Draft.restrict, hculture]
  · rw [prepare_eq, prepare_eq, settings_eq, settings_eq]
    rfl

theorem conjuncts_congr {mapper : FieldMapper} (hids : query.objectIds = query'.objectIds)
    (hterms : query.terms = query'.terms) (hcurrency : query.currency = query'.currency)
    (filters : Parsed) : query.conjuncts mapper filters = query'.conjuncts mapper filters := by
  rw [Query.conjuncts, Query.conjuncts, hids, hterms, hcurrency]

/-- Equal expressions enter by what is found in them. -/
theorem agreesWith_requestOf {filters' facets' : Parsed}
    (hfilters : query.filter = query'.filter → filters = filters')
    (hfacets : query.facet = query'.facet → facets = facets') :
    Request.AgreesWith query query' (catalog.requestOf query filters facets)
      (catalog.requestOf query' filters' facets') := by
  rw [requestOf_eq, requestOf_eq]
  constructor <;> dsimp only
  case skip =>
    intro hskip
    rw [hskip]
  case take =>
    intro htake hids
    rw [htake, hids]
  case keywords =>
    intro hkeyword hfilter
    rw [hkeyword, hfilters hfilter]
  case searchFields =>
    intro hculture
    rw [hculture]
  case filter =>
    intro hids hterms hfilter hcurrency
    rw [hfilters hfilter, conjuncts_congr hids hterms hcurrency]
  case sorting =>
    intro hsort hcurrency
    rw [hsort, hcurrency]
  case counted =>
    -- The root is only in the filters, which are erased.
    intro hfacet hculture hcurrency
    rw [Aggregation.map_erase_isolateEach, Aggregation.map_erase_isolateEach, hfacets hfacet,
      facetsOf_prepare_congr hculture hcurrency]
  case aggregations =>
    intro hfacet hculture hcurrency hids hterms hfilter
    rw [hfacets hfacet, facetsOf_prepare_congr hculture hcurrency, hfilters hfilter,
      conjuncts_congr hids hterms hcurrency]
  case includeFields => exact id
  case fuzzy => exact id
  case fuzziness => exact id

/-- Two queries are compiled alike part by part: where they agree, so do their requests, and
whether they compile at all is decided by their filter and facet expressions. -/
theorem compile_agreesWith (catalog : Catalog) (query query' : Query) :
    (∀ r r', (catalog.compile query).result = .ok r → (catalog.compile query').result = .ok r' →
      Request.AgreesWith query query' r r') ∧
    (query.filter = query'.filter → query.facet = query'.facet →
      ((catalog.compile query).result.map fun _ => ()) =
        (catalog.compile query').result.map fun _ => ()) := by
  constructor
  · intro r r' hr hr'
    obtain ⟨filters, facets, hfilters, hfacets, rfl⟩ := result_compile_eq_ok_iff.1 hr
    obtain ⟨filters', facets', hfilters', hfacets', rfl⟩ := result_compile_eq_ok_iff.1 hr'
    apply agreesWith_requestOf
    · intro hfilter
      rw [hfilter] at hfilters
      exact Except.ok.inj (hfilters.symm.trans hfilters')
    · intro hfacet
      rw [hfacet] at hfacets
      exact Except.ok.inj (hfacets.symm.trans hfacets')
  · intro hfilter hfacet
    rw [compile_eq, compile_eq, hfilter, hfacet]
    cases catalog.parser.found (query'.filter.getD "") with
    | error e => rfl
    | ok filters => cases catalog.parser.found (query'.facet.getD "") <;> rfl

/-- Another culture and another keyword leave the root, the order and the page of a request as they
are. -/
theorem compile_agreesWith_cultures :
    let parser : ExpressionParser := fun _ => .ok { filters := [.range "price" [.below "5"]] }
    let catalog : Catalog := ⟨{}, .catalog, parser, fun _ => .error (.provider "closed")⟩
    let query : Query :=
      { take := some 5, keyword := some "shoes", filter := some "cheap", culture := some "de",
        currency := some "EUR" }
    let query' : Query := { query with keyword := none, culture := some "fr" }
    ∃ r r', (catalog.compile query).result = .ok r ∧ (catalog.compile query').result = .ok r' ∧
      r.filter = r'.filter ∧ r.sorting = r'.sorting ∧ r.take = r'.take ∧
      r.keywords ≠ r'.keywords ∧ r.searchFields ≠ r'.searchFields := by
  intro parser catalog query query'
  let parsed : Parsed := { filters := [.range "price" [.below "5"]] }
  have hr : (catalog.compile query).result = .ok (catalog.requestOf query parsed {}) :=
    result_compile_eq_ok_iff.2 ⟨_, _, by decide, by decide, rfl⟩
  have hr' : (catalog.compile query').result = .ok (catalog.requestOf query' parsed {}) :=
    result_compile_eq_ok_iff.2 ⟨_, _, by decide, by decide, rfl⟩
  have hagree := (compile_agreesWith catalog query query').1 _ _ hr hr'
  refine ⟨_, _, hr, hr', hagree.filter rfl rfl rfl rfl, hagree.sorting rfl rfl,
    hagree.take rfl rfl, ?_⟩
  rw [requestOf_eq, requestOf_eq]
  decide +kernel

end Catalog

end FacetedSearch
