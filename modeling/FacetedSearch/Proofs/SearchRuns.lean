import FacetedSearch.Proofs.CompiledRequest

/-!
# Runs of searches

A catalog can be set up with every usable configuration and with no other one; which patterns are
of use is up to the engine that compiles them. The catalog asks its parser and its index for what
a query needs and for nothing else, and every error of a search is one that the parser or the
index has answered. A query that fails leaves nothing behind for the queries after it.

## Main definitions

* `Config.Usable` — what is asked of a configuration.
* `Query.calls` — the expressions of a query that a parser has to see.
* `Catalog.Serves` — the calls and the result of one search.
* `Journal`, `Catalog.searchAll` — what a run of searches has led to.
-/

namespace FacetedSearch

structure Config.Usable (compiler : PatternCompiler) (config : Config) : Prop where
  take : 0 ≤ config.search.defaultTake
  contentField : Text.blank config.search.contentField = false
  sortField : Text.blank config.search.defaultSortField = false
  facets : ∀ f ∈ config.facets, Text.blank f.field = false
  patterns : ∀ m ∈ config.fieldMappings, ∃ p, compiler m.pattern = .ok p

/-- The expressions for which a parser is called, as they are typed: the filter expression, and
then the facet expression unless the first call fails. Blank ones do not count. -/
def Query.calls (parser : ExpressionParser) (query : Query) : List String :=
  let first := (query.filter.filter fun e => !Text.blank e).toList
  if first.all fun e => (parser e).isOk then
    first ++ (query.facet.filter fun e => !Text.blank e).toList
  else first

/-- A search makes the calls of its query. It fails with the error of a call, or else the index
gets the compiled request, once, and its answer is passed on. -/
structure Catalog.Serves (catalog : Catalog) (parser : ExpressionParser) (provider : Provider)
    (query : Query) (o : Consulted SearchResult) : Prop where
  asked : o.asked = query.calls parser
  error : ∀ e, (catalog.compile query).result = .error e ↔
    ∃ expression ∈ query.calls parser, parser expression = .error e
  sent : o.sent = (catalog.compile query).result.toOption.toList
  failed : ∀ e, (catalog.compile query).result = .error e → o.result = .error e
  refused : ∀ request e, (catalog.compile query).result = .ok request →
    provider request = .error e → o.result = .error e
  answered : ∀ request response, (catalog.compile query).result = .ok request →
    provider request = .ok response → o.result = .ok
      ⟨response.totalCount, response.documents, request.facets response.aggregations⟩

/-- The notes of a run of searches: the expressions that the parser was asked for, the requests
that the index has received, and the results. -/
structure Journal where
  asked : List String := []
  sent : List Request := []
  results : List (Except SearchError SearchResult) := []

/-- Search, and take note of what it leads to. -/
def Catalog.searchNext (catalog : Catalog) (journal : Journal) (query : Query) : Journal :=
  let o := catalog.search query
  ⟨journal.asked ++ o.asked, journal.sent ++ o.sent, journal.results ++ [o.result]⟩

/-- Search for one query after the other. -/
def Catalog.searchAll (catalog : Catalog) (queries : List Query) : Journal :=
  queries.foldl catalog.searchNext {}

/-! ## Usable configurations -/

theorem exists_mapM_eq_ok_iff {α β : Type} {f : α → Except SearchError β} {xs : List α} :
    (∃ ys, xs.mapM f = .ok ys) ↔ ∀ x ∈ xs, ∃ y, f x = .ok y := by
  induction xs with
  | nil => simp [pure, Except.pure]
  | cons x xs ih =>
    rw [List.forall_mem_cons, ← ih, List.mapM_cons]
    cases f x <;> cases xs.mapM f <;> simp [bind, Except.bind, pure, Except.pure]

theorem MappingRule.exists_ofTexts_eq_ok_iff {compiler : PatternCompiler}
    {pattern replacement : String} {lowercase : Bool} :
    (∃ rule, ofTexts compiler pattern replacement lowercase = .ok rule) ↔
      ∃ p, compiler pattern = .ok p := by
  unfold ofTexts
  cases compiler pattern <;> simp

namespace Config

variable {config : Config} {compiler : PatternCompiler}

/-- Rules can be compiled when all their patterns can. Without rules there is always a mapper,
since of those for catalogs the refused ones are left out. -/
theorem exists_mapper_eq_ok_iff : (∃ mapper, config.mapper compiler = .ok mapper) ↔
    ∀ m ∈ config.fieldMappings, ∃ p, compiler m.pattern = .ok p := by
  unfold mapper
  split
  · rename_i hempty
    simp [List.isEmpty_iff.1 hempty]
  · have hrules : ∀ rules, (∃ mapper, FieldMapper.ofTexts compiler rules = .ok mapper) ↔
        ∃ compiled, rules.mapM (fun r => MappingRule.ofTexts compiler r.1 r.2.1 r.2.2) =
          .ok compiled := by
      intro rules
      unfold FieldMapper.ofTexts
      cases rules.mapM (m := Except SearchError) fun r =>
          MappingRule.ofTexts compiler r.1 r.2.1 r.2.2 <;>
        simp [bind, Except.bind, pure, Except.pure]
    rw [hrules, exists_mapM_eq_ok_iff, List.forall_mem_map]
    exact forall₂_congr fun _ _ => MappingRule.exists_ofTexts_eq_ok_iff

theorem fault?_eq_none_iff : config.fault? = none ↔ 0 ≤ config.search.defaultTake ∧
    Text.blank config.search.contentField = false ∧
    Text.blank config.search.defaultSortField = false ∧
    ∀ f ∈ config.facets, Text.blank f.field = false := by
  unfold fault?
  by_cases htake : config.search.defaultTake < 0
  · simp [htake, Int64.not_le.2 htake]
  · rw [if_neg htake]
    cases Text.blank config.search.contentField <;>
      cases Text.blank config.search.defaultSortField <;> simp [Int64.not_lt.1 htake]

theorem validate_eq_ok_iff : config.validate compiler = .ok () ↔
    config.fault? = none ∧ ∃ mapper, config.mapper compiler = .ok mapper := by
  unfold validate
  cases config.fault? <;> cases config.mapper compiler <;> simp [Except.map]

end Config

theorem Catalog.exists_ofConfig_eq_ok_iff {config : Config} {compiler : PatternCompiler}
    {parser : ExpressionParser} {provider : Provider} :
    (∃ catalog, ofConfig config compiler parser provider = .ok catalog) ↔
      config.Usable compiler := by
  simp only [ofConfig_eq_ok_iff, Config.validate_eq_ok_iff, Config.fault?_eq_none_iff]
  constructor
  · rintro ⟨_, ⟨⟨htake, hcontent, hsort, hfacets⟩, hmapper⟩, -⟩
    exact ⟨htake, hcontent, hsort, hfacets, Config.exists_mapper_eq_ok_iff.1 hmapper⟩
  · rintro ⟨htake, hcontent, hsort, hfacets, hpatterns⟩
    obtain ⟨mapper, hmapper⟩ := Config.exists_mapper_eq_ok_iff.2 hpatterns
    exact ⟨_, ⟨⟨htake, hcontent, hsort, hfacets⟩, mapper, hmapper⟩, mapper, hmapper, rfl⟩

/-! ## One search -/

namespace Consulted

variable {parser : ExpressionParser} {expression? : Option String}

/-- A missing expression is treated like a blank one. -/
theorem calls_getD (expression? : Option String) :
    calls (expression?.getD "") = (expression?.filter fun e => !Text.blank e).toList := by
  cases expression? with
  | none => rfl
  | some e => cases h : Text.blank e <;> simp [calls, Option.filter, h]

/-- Something is found in an expression unless a call for it fails, which happens at most once. -/
theorem found_eq_error_iff {expression : String} {e : SearchError} :
    parser.found expression = .error e ↔ ∃ x ∈ calls expression, parser x = .error e := by
  unfold ExpressionParser.found calls
  split <;> simp

theorem isOk_found (parser : ExpressionParser) (expression : String) :
    (parser.found expression).isOk = (calls expression).all fun x => (parser x).isOk := by
  unfold ExpressionParser.found calls
  split <;> simp [Except.isOk, Except.toBool]

end Consulted

namespace Catalog

variable {catalog : Catalog} {query : Query}

theorem calls_eq (parser : ExpressionParser) (query : Query) :
    query.calls parser = Consulted.calls (query.filter.getD "") ++
      if (parser.found (query.filter.getD "")).isOk then Consulted.calls (query.facet.getD "")
      else [] := by
  rw [Consulted.isOk_found, Consulted.calls_getD, Consulted.calls_getD]
  unfold Query.calls
  dsimp only
  split
  · rfl
  · rw [List.append_nil]

theorem asked_compile (catalog : Catalog) (query : Query) :
    (catalog.compile query).asked = query.calls catalog.parser := by
  rw [compile_eq, calls_eq]
  cases catalog.parser.found (query.filter.getD "") <;> simp [Except.isOk, Except.toBool]

/-- No error arises but those of the calls. -/
theorem result_compile_eq_error_iff {e : SearchError} :
    (catalog.compile query).result = .error e ↔
      ∃ expression ∈ query.calls catalog.parser, catalog.parser expression = .error e := by
  rw [compile_eq, calls_eq]
  simp only [List.mem_append, or_and_right, exists_or, ← Consulted.found_eq_error_iff]
  cases hfilters : catalog.parser.found (query.filter.getD "") with
  | error e' => simp [Except.isOk, Except.toBool]
  | ok filters =>
    simp only [Except.isOk, Except.toBool, if_true, reduceCtorEq, false_or,
      ← Consulted.found_eq_error_iff]
    cases catalog.parser.found (query.facet.getD "") <;> simp [Except.map]

/-- Nothing reaches the index while a query is compiled. -/
theorem sent_compile (catalog : Catalog) (query : Query) : (catalog.compile query).sent = [] := by
  rw [compile_eq]
  cases catalog.parser.found (query.filter.getD "") <;> rfl

/-- A query that does not compile does not reach the index. -/
theorem search_of_error {e : SearchError} (h : (catalog.compile query).result = .error e) :
    catalog.search query = ⟨query.calls catalog.parser, [], .error e⟩ := by
  rw [search, Consulted.bind_of_error h, asked_compile, sent_compile]

/-- A compiled request reaches the index once. -/
theorem search_of_ok {request : Request} (h : (catalog.compile query).result = .ok request) :
    catalog.search query = ⟨query.calls catalog.parser, [request],
      (catalog.provider request).map fun response =>
        ⟨response.totalCount, response.documents, request.facets response.aggregations⟩⟩ := by
  rw [search, Consulted.bind_of_ok h, asked_compile, sent_compile, Consulted.bind_pure_comp]
  simp [Consulted.send]

theorem serves_search (catalog : Catalog) (query : Query) :
    catalog.Serves catalog.parser catalog.provider query (catalog.search query) := by
  refine ⟨?_, fun _ => result_compile_eq_error_iff, ?_, ?_, ?_, ?_⟩
  · cases h : (catalog.compile query).result with
    | error e => rw [search_of_error h]
    | ok request => rw [search_of_ok h]
  · cases h : (catalog.compile query).result with
    | error e =>
      rw [search_of_error h]
      rfl
    | ok request =>
      rw [search_of_ok h]
      rfl
  · intro e h
    rw [search_of_error h]
  · intro request e h hprovider
    rw [search_of_ok h, hprovider]
    rfl
  · intro request response h hprovider
    rw [search_of_ok h, hprovider]
    rfl

/-! ## Runs -/

/-- One more search adds its own notes and touches no others. -/
theorem searchNext_eq (catalog : Catalog) (journal : Journal) (query : Query) :
    catalog.searchNext journal query =
      ⟨journal.asked ++ query.calls catalog.parser,
        journal.sent ++ (catalog.compile query).result.toOption.toList,
        journal.results ++ [(catalog.search query).result]⟩ := by
  have hserves := serves_search catalog query
  rw [searchNext, hserves.asked, hserves.sent]

/-- A run adds the notes of its queries in order, whatever has been noted before. -/
theorem foldl_searchNext (catalog : Catalog) (journal : Journal) (queries : List Query) :
    queries.foldl catalog.searchNext journal =
      ⟨journal.asked ++ queries.flatMap (Query.calls catalog.parser),
        journal.sent ++ queries.filterMap fun q => (catalog.compile q).result.toOption,
        journal.results ++ queries.map fun q => (catalog.search q).result⟩ := by
  induction queries generalizing journal with
  | nil => simp
  | cons query queries ih =>
    rw [List.foldl_cons, ih, searchNext_eq]
    simp [List.filterMap_eq_flatMap_toList]

theorem sent_searchAll (catalog : Catalog) (queries : List Query) :
    (catalog.searchAll queries).sent =
      queries.filterMap fun q => (catalog.compile q).result.toOption := by
  rw [searchAll, foldl_searchNext]
  exact List.nil_append _

/-- Queries that fail leave nothing behind at the index. -/
theorem sent_searchAll_filter_isOk (catalog : Catalog) (queries : List Query) :
    (catalog.searchAll (queries.filter fun q => (catalog.compile q).result.isOk)).sent =
      (catalog.searchAll queries).sent := by
  rw [sent_searchAll, sent_searchAll, List.filterMap_filter]
  congr 1
  funext query
  cases (catalog.compile query).result <;> rfl

/-- Whatever patterns the engine accepts, a catalog can be set up exactly with a usable
configuration. Then every search of a run makes the calls of its query and no others, fails only
with the error of a call or of the index, and passes on what the index answers. The index receives
the compiled requests of the queries that compile, in their order, as if there had been no other
queries. -/
theorem searchAll_serves {config : Config} {compiler : PatternCompiler}
    {parser : ExpressionParser} {provider : Provider} :
    ((∃ catalog, ofConfig config compiler parser provider = .ok catalog) ↔
      config.Usable compiler) ∧
    ∀ catalog, ofConfig config compiler parser provider = .ok catalog → ∀ queries,
      (∀ query ∈ queries, catalog.Serves parser provider query (catalog.search query)) ∧
      catalog.searchAll queries =
        ⟨queries.flatMap (Query.calls parser),
          queries.filterMap fun q => (catalog.compile q).result.toOption,
          queries.map fun q => (catalog.search q).result⟩ ∧
      (catalog.searchAll (queries.filter fun q => (catalog.compile q).result.isOk)).sent =
        (catalog.searchAll queries).sent := by
  refine ⟨exists_ofConfig_eq_ok_iff, ?_⟩
  intro catalog hcatalog queries
  obtain ⟨-, _, -, rfl⟩ := ofConfig_eq_ok_iff.1 hcatalog
  refine ⟨fun query _ => serves_search _ query, ?_, sent_searchAll_filter_isOk _ queries⟩
  exact foldl_searchNext _ {} queries

/-- A pattern with an open bracket is refused. With the other one there is a catalog: its second
query fails at its filter expression, so its facet expression is not parsed, and the index does not
hear of it. -/
theorem searchAll_serves_three :
    let parser : ExpressionParser := .scripted [("color:red", {}), (" size ", {})]
    let provider : Provider := fun _ => .ok { totalCount := 3 }
    let refused : Config := { fieldMappings := [⟨"([", "code", false⟩] }
    let accepted : Config := { fieldMappings := [⟨"^sku$", "code", false⟩] }
    let first : Query := { filter := some "color:red", facet := some "  " }
    let second : Query := { filter := some "color:", facet := some " size " }
    let third : Query := { facet := some " size " }
    (¬ ∃ catalog, ofConfig refused Pattern.compile parser provider = .ok catalog) ∧
      ∃ catalog, ofConfig accepted Pattern.compile parser provider = .ok catalog ∧
        let journal := catalog.searchAll [first, second, third]
        journal.asked = ["color:red", "color:", " size "] ∧
          journal.sent = [catalog.requestOf first {} {}, catalog.requestOf third {} {}] ∧
          (catalog.search second).result =
            .error (.unparsable "no script for expression \"color:\"") := by
  intro parser provider refused accepted first second third
  constructor
  · intro h
    obtain ⟨p, hp⟩ := (searchAll_serves.1.1 h).patterns _ (List.mem_singleton.2 rfl)
    have hrefused : (Pattern.compile "([").isOk = false := by decide +kernel
    rw [hp] at hrefused
    cases hrefused
  · obtain ⟨p, hp⟩ : ∃ p, Pattern.compile "^sku$" = .ok p := by
      have hread : (Pattern.ofText? "^sku$").isSome = true := by decide +kernel
      obtain ⟨p, hp⟩ := Option.isSome_iff_exists.1 hread
      exact ⟨_, Pattern.compile_of_ofText? hp⟩
    have husable : accepted.Usable Pattern.compile :=
      ⟨by decide, by decide, by decide, nofun, by simp [accepted, hp]⟩
    obtain ⟨catalog, hcatalog⟩ : ∃ catalog, ofConfig accepted Pattern.compile parser provider =
        .ok catalog := searchAll_serves.1.2 husable
    obtain ⟨hserves, hjournal, -⟩ := searchAll_serves.2 catalog hcatalog [first, second, third]
    have hparser : catalog.parser = parser := by
      obtain ⟨-, _, -, rfl⟩ := ofConfig_eq_ok_iff.1 hcatalog
      rfl
    have hfirst : (catalog.compile first).result = .ok (catalog.requestOf first {} {}) :=
      result_compile_eq_ok_iff.2 ⟨{}, {}, by rw [hparser]; decide, by rw [hparser]; decide, rfl⟩
    have hthird : (catalog.compile third).result = .ok (catalog.requestOf third {} {}) :=
      result_compile_eq_ok_iff.2 ⟨{}, {}, by rw [hparser]; decide, by rw [hparser]; decide, rfl⟩
    have hsecond := hserves second (by simp)
    have herror := (hsecond.error (.unparsable "no script for expression \"color:\"")).2
      ⟨"color:", by decide +kernel, by decide +kernel⟩
    refine ⟨catalog, hcatalog, ?_, ?_, hsecond.failed _ herror⟩
    · rw [hjournal]
      change [first, second, third].flatMap (Query.calls parser) = _
      decide +kernel
    · rw [hjournal]
      simp [hfirst, herror, hthird, Except.toOption]

end Catalog

end FacetedSearch
