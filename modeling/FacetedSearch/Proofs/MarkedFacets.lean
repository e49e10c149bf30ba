import FacetedSearch.Proofs.CompiledRequest
import FacetedSearch.Proofs.FilterMeaning

/-!
# Marked facets

A facet marks the values that the query has selected. The marks are read off the root, and the
counts come from the rest of the root after isolation. What is marked because of a conjunct does
not narrow the counts beside the mark; what is marked because of a part of a choice does, since
choices stay.

## Main definitions

* `Selection` — a value or an interval that can be marked.
* `Filter.Carries` — a filter names the selection, on a field.
* `Conjunction.selects` — whether a root is found to select it.
* `FacetItems.marks` — the selections of a facet with their marks.
* `Request.Shows` — what an answered aggregation shows, whatever the answer is.
* `FacetItems.MarkAll` — the items that a parsed filter names are marked.
-/

namespace FacetedSearch

inductive Selection where
  | value (v : String)
  | interval (i : Interval)
deriving DecidableEq, Repr

/-- The filter is a term with the value, up to ASCII case, or a range with an interval of the same
bounds; and its name is that of the field, up to ASCII case. -/
def Filter.Carries (field : String) (f : Filter) : Selection → Prop
  | .value v => ∃ name values, f = .term name values ∧ Text.fold name = Text.fold field ∧
      ∃ u ∈ values, Text.fold u = Text.fold v
  | .interval i => ∃ name intervals, f = .range name intervals ∧
      Text.fold name = Text.fold field ∧ ∃ j ∈ intervals, j.sameBounds i = true

/-- The mark of a selection in a facet on the field. -/
def Conjunction.selects (root : Conjunction) (field : String) : Selection → Bool
  | .value v => root.selectsTerm field v
  | .interval i => root.selectsInterval field i

/-- The selections that a facet offers, each with its mark. -/
def FacetItems.marks : FacetItems → List (Selection × Bool)
  | .terms items => items.map fun item => (.value item.term, item.isApplied)
  | .ranges items => items.map fun item => (.interval item.bucket.interval, item.isApplied)

/-- Whenever `a` is answered there is one facet for it, with items of which `good` holds. -/
def Request.Shows (request : Request) (a : Aggregation) (good : FacetItems → Prop) : Prop :=
  ∀ responses : List AggregationResponse, (∃ r ∈ responses, r.id = a.id) →
    ∃ items, (request.facets responses).filter (·.id = a.id) = [⟨a.id, a.field, items⟩] ∧
      good items

/-- Both filters are terms, or both are ranges, with the same name. -/
def Filter.SameFacet : Filter → Filter → Prop
  | .term name _, .term name' _ | .range name _, .range name' _ => name = name'
  | _, _ => False

/-- The items that a filter names are marked: values that are equal to a literal one of a term up
to ASCII case, and buckets with the bounds of an interval of a range. -/
def FacetItems.MarkAll : FacetItems → Filter → Prop
  | .terms items, .term _ values => ∀ item ∈ items, ∀ v ∈ values, '*' ∉ v.toList →
      '?' ∉ v.toList → Text.fold v = Text.fold item.term → item.isApplied = true
  | .ranges items, .range _ intervals => ∀ item ∈ items, ∀ i ∈ intervals,
      i.sameBounds item.bucket.interval = true → item.isApplied = true
  | _, _ => False

/-! ## Selections -/

variable {root : Conjunction} {field : String} {s : Selection}

namespace Filter

variable {f : Filter}

theorem selectsTerm_iff {v : String} :
    f.selectsTerm field v = true ↔ f.Carries field (.value v) := by
  cases f <;> simp [selectsTerm, Carries, Text.same_iff]

theorem selectsInterval_iff {i : Interval} :
    f.selectsInterval field i = true ↔ f.Carries field (.interval i) := by
  cases f <;> simp [selectsInterval, Carries, Text.same_iff]

theorem not_carries_any (field : String) (parts : List Filter) (s : Selection) :
    ¬ (any parts).Carries field s := by
  cases s <;> simp [Carries]

/-- A filter that carries a selection in a facet is isolated from that facet. -/
theorem isOn_of_carries (h : f.Carries field s) : f.IsOn field := by
  have hprefix : ∀ name : String, Text.fold name = Text.fold field →
      Text.fold name <+: Text.fold field := by
    intro name hname
    exact hname ▸ List.prefix_refl _
  cases s with
  | value v =>
    obtain ⟨name, values, rfl, hname, -⟩ := h
    exact hprefix name hname
  | interval i =>
    obtain ⟨name, intervals, rfl, hname, -⟩ := h
    exact hprefix name hname

end Filter

namespace Conjunction

variable {f : Filter}

theorem selects_iff :
    root.selects field s = true ↔ ∃ f ∈ root.selections, f.Carries field s := by
  cases s <;> simp [selects, selectsTerm, selectsInterval, Filter.selectsTerm_iff,
    Filter.selectsInterval_iff]

/-- A selection is carried by a conjunct, or by a part of a choice among the conjuncts. -/
theorem selects_iff_or :
    root.selects field s = true ↔ (∃ f ∈ root.conjuncts, f.Carries field s) ∨
      ∃ parts, .any parts ∈ root.conjuncts ∧ ∃ f ∈ parts, f.Carries field s := by
  rw [selects_iff]
  simp only [selections, List.mem_flatMap]
  constructor
  · rintro ⟨f, ⟨c, hc, hf⟩, hcarries⟩
    cases c with
    | any parts => exact .inr ⟨parts, hc, f, hf, hcarries⟩
    | _ =>
      obtain rfl := List.mem_singleton.1 hf
      exact .inl ⟨_, hc, hcarries⟩
  · rintro (⟨f, hf, hcarries⟩ | ⟨parts, hparts, f, hf, hcarries⟩)
    · refine ⟨f, ⟨f, hf, ?_⟩, hcarries⟩
      cases f with
      | any parts => exact (Filter.not_carries_any _ _ _ hcarries).elim
      | _ => exact List.mem_singleton_self _
    · exact ⟨f, ⟨_, hparts, hf⟩, hcarries⟩

theorem any_mem_others {parts : List Filter} :
    .any parts ∈ root.others field ↔ .any parts ∈ root.conjuncts := by
  rw [mem_others]
  simp [Filter.IsOn]

/-- Of the selections in a facet, isolation from it leaves those within choices. -/
theorem selects_others_iff :
    (⟨root.others field⟩ : Conjunction).selects field s = true ↔
      ∃ parts, .any parts ∈ root.conjuncts ∧ ∃ f ∈ parts, f.Carries field s := by
  rw [selects_iff_or]
  simp only [any_mem_others]
  refine or_iff_right ?_
  rintro ⟨f, hf, hcarries⟩
  exact (mem_others.1 hf).2 (Filter.isOn_of_carries hcarries)

/-- A literal value of a term stays selected when the patterns among the values are split off. -/
theorem selectsTerm_of_splitWildcards {name value v : String} {values : List String}
    (h : .splitWildcards name values ∈ root.conjuncts) (hv : v ∈ values)
    (hliteral : isWildcard v = false) (hsame : Text.same v value = true) :
    root.selectsTerm name value = true := by
  have hcarries : ∀ us, v ∈ us → (Filter.term name us).Carries name (.value value) :=
    fun us hus => ⟨name, us, rfl, rfl, v, hus, Text.same_iff.1 hsame⟩
  refine selects_iff_or (s := .value value).2 ?_
  by_cases hpatterns : values.filter isWildcard = []
  · rw [Filter.splitWildcards_of_eq_nil hpatterns] at h
    exact .inl ⟨_, h, hcarries _ hv⟩
  · have hmem : v ∈ values.filter (!isWildcard ·) := by simp [hv, hliteral]
    rw [Filter.splitWildcards_of_ne_nil hpatterns, if_neg (List.ne_nil_of_mem hmem)] at h
    exact .inr ⟨_, h, _, by simp, hcarries _ hmem⟩

end Conjunction

/-! ## Facets -/

/-- Every mark of a facet is read off the root. -/
theorem Facet.marks_ofResponse (root : Conjunction) (a : Aggregation) (r : AggregationResponse) :
    ∀ mark ∈ (ofResponse root a r).items.marks, mark.2 = root.selects a.field mark.1 := by
  unfold ofResponse
  cases a.counting with
  | terms size requested =>
    simp only [FacetItems.marks, List.map_map, List.forall_mem_map]
    exact fun _ _ => rfl
  | buckets buckets =>
    simp only [FacetItems.marks, List.map_map, List.forall_mem_map]
    exact fun _ _ => rfl

/-- A facet for a parsed filter marks what another parsed filter on that field has selected: both
have gone through the same mapping of names and the same currency. -/
theorem Facet.markAll_ofResponse {d : Draft} {f g : Filter} {a : Aggregation}
    (hsame : f.SameFacet g) (hg : d.filterFacet? g = some a)
    (hf : d.compileFilter f ∈ root.conjuncts) (r : AggregationResponse) :
    (ofResponse root a r).items.MarkAll f := by
  cases f with
  | term name values =>
    cases g with
    | term name' _ =>
      obtain rfl : name = name' := hsame
      obtain rfl := Option.some.inj hg
      intro item hitem v hv hstar hquestion hfold
      obtain ⟨_, -, rfl⟩ := List.mem_map.1 hitem
      have hliteral : isWildcard v = false := by
        rw [← Bool.not_eq_true, isWildcard_iff]
        exact not_or.2 ⟨hstar, hquestion⟩
      exact Conjunction.selectsTerm_of_splitWildcards hf hv hliteral (Text.same_iff.2 hfold)
    | _ => exact hsame.elim
  | range name intervals =>
    cases g with
    | range name' _ =>
      obtain rfl : name = name' := hsame
      obtain rfl := Option.some.inj hg
      intro item hitem i hi hbounds
      obtain ⟨_, -, rfl⟩ := List.mem_map.1 hitem
      refine Conjunction.selects_iff_or (s := .interval _).2 (.inl ⟨_, hf, ?_⟩)
      exact ⟨_, _, rfl, rfl, i, hi, hbounds⟩
    | _ => exact hsame.elim
  | _ => exact hsame.elim

theorem Aggregation.filter_id_eq_singleton {as : List Aggregation} {a : Aggregation}
    (hids : (as.map (·.id)).Nodup) (ha : a ∈ as) : as.filter (·.id = a.id) = [a] := by
  obtain ⟨before, after, rfl⟩ := List.append_of_mem ha
  simp only [List.map_append, List.map_cons, List.nodup_append, List.nodup_cons, List.mem_map,
    List.mem_cons, not_exists, not_and] at hids
  obtain ⟨-, ⟨hafter, -⟩, hbefore⟩ := hids
  have hbefore : before.filter (·.id = a.id) = [] := by
    rw [List.filter_eq_nil_iff]
    intro b hb
    simpa using hbefore _ ⟨b, hb, rfl⟩ _ (.inl rfl)
  have hafter : after.filter (·.id = a.id) = [] := by
    rw [List.filter_eq_nil_iff]
    intro b hb
    simpa using hafter b hb
  rw [List.filter_append, hbefore, List.filter_cons_of_pos (by simp), hafter, List.nil_append]

namespace Request

variable {request : Request} {a : Aggregation}

/-- The facets under an id are those of the aggregations with that id. -/
theorem filter_id_facets (request : Request) (responses : List AggregationResponse)
    (id : String) :
    (request.facets responses).filter (·.id = id) =
      (request.aggregations.filter (·.id = id)).filterMap fun a =>
        (responses.reverse.find? (·.id == a.id)).map (Facet.ofResponse request.filter a) := by
  rw [facets, List.filter_filterMap, List.filterMap_filter]
  congr 1
  funext a
  have hid : ∀ r, (Facet.ofResponse request.filter a r).id = a.id := fun _ => rfl
  cases responses.reverse.find? (·.id == a.id) <;> simp [Option.filter, hid]

/-- What holds of the items for every answer is shown, when the id stands for one aggregation. -/
theorem shows_of_mem {good : FacetItems → Prop}
    (hids : (request.aggregations.map (·.id)).Nodup) (ha : a ∈ request.aggregations)
    (h : ∀ r, good (Facet.ofResponse request.filter a r).items) : request.Shows a good := by
  rintro responses ⟨r, hr, hid⟩
  rw [filter_id_facets, Aggregation.filter_id_eq_singleton hids ha]
  obtain ⟨answer, hanswer⟩ : ∃ answer, responses.reverse.find? (·.id == a.id) = some answer := by
    rw [← Option.isSome_iff_exists, List.find?_isSome]
    exact ⟨r, List.mem_reverse.2 hr, by simpa using hid⟩
  exact ⟨_, by simp only [List.filterMap_cons, hanswer, Option.map_some]; rfl, h answer⟩

/-- What is shown holds of every facet with the id. -/
theorem Shows.good_of_mem {good : FacetItems → Prop} {responses : List AggregationResponse}
    {facet : Facet} (h : request.Shows a good) (hfacet : facet ∈ request.facets responses)
    (hid : facet.id = a.id) : good facet.items := by
  obtain ⟨b, -, hb⟩ := List.mem_filterMap.1 hfacet
  obtain ⟨r, hr, rfl⟩ := Option.map_eq_some_iff.1 hb
  have hrid : r.id = b.id := by simpa using List.find?_some hr
  obtain ⟨items, hitems, hgood⟩ :=
    h responses ⟨r, List.mem_reverse.1 (List.mem_of_find?_eq_some hr), hrid.trans hid⟩
  have hmem : Facet.ofResponse request.filter b r ∈ [⟨a.id, a.field, items⟩] :=
    hitems ▸ List.mem_filter.2 ⟨hfacet, by simpa using hid⟩
  rw [List.mem_singleton.1 hmem]
  exact hgood

end Request

/-! ## Marks of a compiled request -/

namespace Catalog

variable {catalog : Catalog} {query : Query} {request : Request} {filters facets : Parsed}
  {a : Aggregation} {f g : Filter}

theorem compile_mem_conjuncts (hf : f ∈ filters.filters) :
    (catalog.prepare query).compileFilter f ∈
      (catalog.requestOf query filters facets).filter.conjuncts := by
  rw [conjuncts_requestOf, Draft.compileFilter, mapper_prepare, currency_prepare]
  exact List.mem_append_left _ (List.mem_append_right _ (List.mem_map_of_mem hf))

/-- The aggregation for a filter of the facet expression is in the request, or there is another
one under its id. -/
theorem exists_mem_aggregations (hg : g ∈ facets.filters)
    (ha : (catalog.prepare query).filterFacet? g = some a) :
    ∃ b ∈ (catalog.requestOf query filters facets).aggregations, b.id = a.id := by
  have hmem : a ∈ (catalog.prepare query).facetsOf facets :=
    List.mem_append_left _ (List.mem_filterMap.2 ⟨g, hg, ha⟩)
  obtain ⟨b, hb, hid⟩ := Aggregation.exists_mem_unique
    (List.mem_append_right catalog.config.predefined hmem)
  rw [aggregations_requestOf]
  exact ⟨_, List.mem_map_of_mem hb, hid⟩

/-- The facet expression and the filter expression agree on what is selected. The facet for a
term or range of the one marks all that a filter of the same kind and name in the other selects,
literal values also where patterns among them have made a choice of the term. -/
theorem facet_marks_filter (hrequest : (catalog.compile query).result = .ok request)
    (hfilters : catalog.parser.found (query.filter.getD "") = .ok filters)
    (hfacets : catalog.parser.found (query.facet.getD "") = .ok facets)
    (hf : f ∈ filters.filters) (hg : g ∈ facets.filters) (hsame : f.SameFacet g) :
    ∃ a, (catalog.prepare query).filterFacet? g = some a ∧
      (∃ b ∈ request.aggregations, b.id = a.id) ∧
      (a.isolate request.filter ∈ request.aggregations →
        request.Shows a fun items => items.MarkAll f) := by
  obtain ⟨filters', facets', hfilters', hfacets', rfl⟩ := result_compile_eq_ok_iff.1 hrequest
  obtain rfl := Except.ok.inj (hfilters.symm.trans hfilters')
  obtain rfl := Except.ok.inj (hfacets.symm.trans hfacets')
  obtain ⟨a, ha⟩ : ∃ a, (catalog.prepare query).filterFacet? g = some a := by
    cases f <;> cases g <;> first | exact hsame.elim | exact ⟨_, rfl⟩
  refine ⟨a, ha, exists_mem_aggregations hg ha, ?_⟩
  intro hmem
  -- Isolation leaves alone all that a facet shows of its aggregation.
  refine Request.shows_of_mem (a := a.isolate _) (nodup_ids_requestOf ..) hmem ?_
  exact Facet.markAll_ofResponse (a := a) hsame ha (compile_mem_conjuncts hf)

/-- The literal blue is marked in its facet, beside a pattern and in another letter case, and so is
the cheap bucket in the facet for the price, which both expressions mean in euros. -/
theorem facet_marks_filter_blue :
    let colors : Filter := .term "properties.Color" ["gr*", "Blue"]
    let prices : Filter := .range "Price" [.below "5 "]
    let facets : List Filter :=
      [.term "properties.Color" ["green", "blue"], .range "Price" [.below "5", .atLeast "5"]]
    let parser : ExpressionParser := fun e =>
      .ok ⟨"", if e = "facets" then facets else [colors, prices]⟩
    let catalog : Catalog := ⟨{}, .catalog, parser, fun _ => .error (.provider "closed")⟩
    let query : Query := { filter := some "color", facet := some "facets", currency := some "EUR" }
    let request := catalog.requestOf query ⟨"", [colors, prices]⟩ ⟨"", facets⟩
    let a := Aggregation.ofTerm "Color" ["green", "blue"]
    let b := Aggregation.ofRange "price_eur" [.below "5", .atLeast "5"]
    (catalog.compile query).result = .ok request ∧
      request.aggregations = [a.isolate request.filter, b.isolate request.filter] ∧
      (request.Shows a fun items => items.MarkAll colors) ∧
      (request.Shows b fun items => items.MarkAll prices) ∧
      request.facets [⟨b.id, []⟩, ⟨a.id, [⟨"BLUE", 4⟩]⟩] =
        [⟨a.id, "Color", .terms [⟨"green", 0, false⟩, ⟨"blue", 4, true⟩]⟩,
          ⟨"price_eur", "price_eur", .ranges [⟨Aggregation.bucketOf (.below "5"), 0, true⟩,
            ⟨Aggregation.bucketOf (.atLeast "5"), 0, false⟩]⟩] := by
  intro colors prices facets parser catalog query request a b
  have hfilters : parser.found "color" = .ok ⟨"", [colors, prices]⟩ := by decide
  have hfacets : parser.found "facets" = .ok ⟨"", facets⟩ := by decide
  have hrequest : (catalog.compile query).result = .ok request :=
    result_compile_eq_ok_iff.2 ⟨_, _, hfilters, hfacets, rfl⟩
  obtain ⟨hroot, haggregations, ha, hb⟩ : request.filter =
      ⟨[.any [.wildcard "Color" "gr*", .term "Color" ["Blue"]],
        .range "price_eur" [.below "5 "]]⟩ ∧
      request.aggregations = [a.isolate request.filter, b.isolate request.filter] ∧
      (catalog.prepare query).filterFacet? facets[0] = some a ∧
      (catalog.prepare query).filterFacet? facets[1] = some b := by decide +kernel
  refine ⟨hrequest, haggregations, ?_, ?_, ?_⟩
  · obtain ⟨a', ha', -, hshows⟩ := facet_marks_filter (f := colors) hrequest hfilters hfacets
      List.mem_cons_self List.mem_cons_self rfl
    obtain rfl := Option.some.inj (ha.symm.trans ha')
    exact hshows (by rw [haggregations]; exact List.mem_cons_self)
  · obtain ⟨b', hb', -, hshows⟩ := facet_marks_filter (f := prices) hrequest hfilters hfacets
      (List.mem_cons_of_mem _ List.mem_cons_self) (List.mem_cons_of_mem _ List.mem_cons_self) rfl
    obtain rfl := Option.some.inj (hb.symm.trans hb')
    exact hshows (by rw [haggregations]; exact List.mem_cons_of_mem _ List.mem_cons_self)
  · rw [Request.facets, haggregations, hroot]
    decide +kernel

/-- Marks and isolation agree. Every aggregation counts what passes the conjuncts that are no
selections in its facet, and choices are always among these. A mark says whether the root selects
the item; the conjuncts that are left select it exactly when a part of a choice does, and a
conjunct that does so itself is not among them. -/
theorem marks_agree_with_isolation (hrequest : (catalog.compile query).result = .ok request)
    (ha : a ∈ request.aggregations) :
    let kept := request.filter.others a.field
    a.filter = some (.all kept) ∧
      (∀ parts, .any parts ∈ request.filter.conjuncts → .any parts ∈ kept) ∧
      request.Shows a fun items => ∀ s applied, (s, applied) ∈ items.marks →
        applied = request.filter.selects a.field s ∧
        ((⟨kept⟩ : Conjunction).selects a.field s = true ↔
          ∃ parts, .any parts ∈ request.filter.conjuncts ∧
            ∃ c ∈ parts, c.Carries a.field s) ∧
        ∀ c ∈ request.filter.conjuncts, c.Carries a.field s → c ∉ kept := by
  intro kept
  obtain ⟨filters, facets, -, -, rfl⟩ := result_compile_eq_ok_iff.1 hrequest
  refine ⟨filter_of_mem_requestOf ha, fun parts => Conjunction.any_mem_others.2, ?_⟩
  refine Request.shows_of_mem (nodup_ids_requestOf ..) ha ?_
  intro r s applied hmark
  refine ⟨Facet.marks_ofResponse _ a r _ hmark, Conjunction.selects_others_iff, ?_⟩
  intro c _ hcarries hkept
  exact (Conjunction.mem_others.1 hkept).2 (Filter.isOn_of_carries hcarries)

/-- A color and a size are marked because of a conjunct, which does not narrow the counts beside
them, and one of each because of the choice, which stays. -/
theorem marks_agree_with_isolation_colors :
    let red : Filter := .term "color" ["red"]
    let choice : Filter := .any [.term "Color" ["BLUE"], .range "SIZE" [.between "5" "10"]]
    let small : Filter := .range "size" [.below "5 "]
    let facets : List Filter := [.term "color" ["red", "blue"],
      .range "size" [.below "5", .between "5" " 10", .atLeast "10"]]
    let parser : ExpressionParser := fun e =>
      .ok ⟨"", if e = "facets" then facets else [red, choice, small]⟩
    let catalog : Catalog := ⟨{}, .catalog, parser, fun _ => .error (.provider "closed")⟩
    let query : Query := { filter := some "color", facet := some "facets" }
    let request := catalog.requestOf query ⟨"", [red, choice, small]⟩ ⟨"", facets⟩
    (catalog.compile query).result = .ok request ∧
      ∃ colors ∈ request.aggregations, ∃ sizes ∈ request.aggregations,
        colors.filter = some (.all [choice, small]) ∧ sizes.filter = some (.all [red, choice]) ∧
        (request.facets [⟨colors.id, []⟩, ⟨sizes.id, []⟩]).map (·.items.marks) =
          [[(.value "red", true), (.value "blue", true)],
            [(.interval (.below "5"), true), (.interval (.between "5" " 10"), true),
              (.interval (.atLeast "10"), false)]] ∧
        (⟨[choice, small]⟩ : Conjunction).selects "color" (.value "red") = false ∧
        (⟨[choice, small]⟩ : Conjunction).selects "color" (.value "blue") = true ∧
        (⟨[red, choice]⟩ : Conjunction).selects "size" (.interval (.below "5")) = false ∧
        (⟨[red, choice]⟩ : Conjunction).selects "size" (.interval (.between "5" " 10")) = true := by
  intro red choice small facets parser catalog query request
  have hrequest : (catalog.compile query).result = .ok request :=
    result_compile_eq_ok_iff.2 ⟨_, _, by decide, by decide, rfl⟩
  let colors : Aggregation :=
    ⟨"color:red,blue", "color", .terms 2 ["red", "blue"], some (.all [choice, small])⟩
  let sizes : Aggregation := ⟨"size", "size", .buckets ([.below "5", .between "5" " 10",
    .atLeast "10"].map Aggregation.bucketOf), some (.all [red, choice])⟩
  let colorFacet : Facet :=
    ⟨colors.id, "color", .terms [⟨"red", 0, true⟩, ⟨"blue", 0, true⟩]⟩
  let sizeFacet : Facet := ⟨sizes.id, "size", .ranges
    [⟨Aggregation.bucketOf (.below "5"), 0, true⟩,
      ⟨Aggregation.bucketOf (.between "5" " 10"), 0, true⟩,
      ⟨Aggregation.bucketOf (.atLeast "10"), 0, false⟩]⟩
  obtain ⟨hroot, haggregations⟩ : request.filter = ⟨[red, choice, small]⟩ ∧
      request.aggregations = [colors, sizes] := by decide +kernel
  have hcolors : colors ∈ request.aggregations := by simp [haggregations]
  have hsizes : sizes ∈ request.aggregations := by simp [haggregations]
  have hfacets : request.facets [⟨colors.id, []⟩, ⟨sizes.id, []⟩] = [colorFacet, sizeFacet] := by
    rw [Request.facets, haggregations, hroot]
    decide +kernel
  obtain ⟨-, -, hcolorsShown⟩ := marks_agree_with_isolation hrequest hcolors
  obtain ⟨-, -, hsizesShown⟩ := marks_agree_with_isolation hrequest hsizes
  have hcolorMarks := hcolorsShown.good_of_mem (hfacets ▸ List.mem_cons_self) rfl
  have hsizeMarks := hsizesShown.good_of_mem
    (hfacets ▸ List.mem_cons_of_mem _ List.mem_cons_self) rfl
  rw [hroot] at hcolorMarks hsizeMarks
  obtain ⟨-, hred, -⟩ := hcolorMarks (.value "red") true (by decide)
  obtain ⟨-, hblue, -⟩ := hcolorMarks (.value "blue") true (by decide)
  obtain ⟨-, hlow, -⟩ := hsizeMarks (.interval (.below "5")) true (by decide)
  obtain ⟨-, hmiddle, -⟩ := hsizeMarks (.interval (.between "5" " 10")) true (by decide)
  have hkept : Conjunction.others ⟨[red, choice, small]⟩ "color" = [choice, small] ∧
      Conjunction.others ⟨[red, choice, small]⟩ "size" = [red, choice] := by decide
  rw [hkept.1] at hred hblue
  rw [hkept.2] at hlow hmiddle
  have hchoice : .any [.term "Color" ["BLUE"], .range "SIZE" [.between "5" "10"]] ∈
      [red, choice, small] := by simp [choice]
  refine ⟨hrequest, colors, hcolors, sizes, hsizes, rfl, rfl, congrArg _ hfacets, ?_,
    hblue.2 ⟨_, hchoice, _, List.mem_cons_self, _, _, rfl, by decide, _, List.mem_cons_self,
      by decide⟩, ?_,
    hmiddle.2 ⟨_, hchoice, _, List.mem_cons_of_mem _ List.mem_cons_self, _, _, rfl, by decide, _,
      List.mem_cons_self, by decide⟩⟩
  · have hother : Text.fold "BLUE" ≠ Text.fold "red" := by decide
    rw [Bool.eq_false_iff, Ne, hred]
    simp [red, choice, small, Filter.Carries, hother]
  · have hother : (Interval.between "5" "10").sameBounds (.below "5") = false := by decide
    rw [Bool.eq_false_iff, Ne, hlow]
    simp [red, choice, small, Filter.Carries, hother]

end Catalog

end FacetedSearch
