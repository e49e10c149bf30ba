import FacetedSearch.Proofs.DraftSteps

/-!
# Sessions

A session begins with a new draft and does one step after the other. Whatever the steps are, every
draft on the way is sound, and what is restricted or included stays so to the end.

## Main definitions

* `Draft.Begins` — the drafts with which a session can begin.
* `Draft.Sound` — what holds of every draft of a session.
* `Draft.Extends` — what a draft keeps of an earlier one.
* `Draft.Follows` — what one step can do.
-/

namespace FacetedSearch

namespace Draft

/-- A session begins with a mapper, or with a configuration whose rules can be compiled. -/
inductive Begins : Draft → Prop where
  | ofMapper (mapper : FieldMapper) : Begins (ofMapper mapper)
  | ofConfig {config : Config} {compiler : PatternCompiler} {mapper : FieldMapper}
      (h : config.mapper compiler = .ok mapper) : Begins (ofConfig config mapper)

/-- The fields in which words are searched: one for the text, and one for it in the culture. -/
def fieldsFor (contentField : String) : Option String → List String
  | none => [contentField]
  | some culture => [contentField, contentField ++ "_" ++ culture]

structure Sound (d : Draft) : Prop where
  ids : (d.aggregations.map (·.id)).Nodup
  sorting : d.sorting ≠ []
  keywords : ∀ words ∈ d.keywords, words ≠ "" ∧ Text.trim words = words
  culture : ∀ name ∈ d.culture, Text.blank name = false
  searchFields : d.searchFields = fieldsFor d.contentField d.culture

/-- Later conjuncts and included fields stand behind the earlier ones, and the text stays in its
field. -/
structure Extends (d d' : Draft) : Prop where
  conjuncts : d.filter.conjuncts <+: d'.filter.conjuncts
  includeFields : d.includeFields <+: d'.includeFields
  contentField : d'.contentField = d.contentField

/-- All that one step can do to the parts that the drafts of a session keep in order. -/
structure Follows (d d' : Draft) : Prop extends Extends d d' where
  ids : d'.aggregations.map (·.id) = d.aggregations.map (·.id) ∨
    ∃ as, d'.aggregations = Aggregation.unique as
  sorting : d.sorting ≠ [] → d'.sorting ≠ []
  keywords : d'.keywords = d.keywords ∨ ∃ text, d'.keywords = nonBlank text
  search : d'.culture = d.culture ∧ d'.searchFields = d.searchFields ∨
    ∃ name, d'.culture = (nonBlank name).map Text.lowercase ∧
      d'.searchFields = fieldsFor d.contentField d'.culture

variable {d d' d'' : Draft} {step : Step} {steps steps' : List Step}

theorem Extends.refl (d : Draft) : d.Extends d :=
  ⟨List.prefix_refl _, List.prefix_refl _, rfl⟩

theorem Extends.trans (h : d.Extends d') (h' : d'.Extends d'') : d.Extends d'' :=
  ⟨h.conjuncts.trans h'.conjuncts, h.includeFields.trans h'.includeFields,
    h'.contentField.trans h.contentField⟩

/-! ## One step -/

theorem nonBlank_eq_some_iff {s t : String} :
    nonBlank s = some t ↔ Text.blank s = false ∧ Text.trim s = t := by
  unfold nonBlank
  split <;> simp_all

theorem keywords_acceptFilters (d : Draft) (parsed : Parsed) :
    (d.acceptFilters parsed).keywords = d.keywords.or (nonBlank parsed.keyword) := rfl

theorem Follows.refl (d : Draft) : d.Follows d where
  toExtends := .refl d
  ids := .inl rfl
  sorting := id
  keywords := .inl rfl
  search := .inl ⟨rfl, rfl⟩

theorem follows_restrict (d : Draft) (fs : List Filter) : d.Follows (d.restrict fs) :=
  { Follows.refl d with conjuncts := List.prefix_append _ _ }

theorem follows_addTerms (d : Draft) (tokens : List String) (onlyNew : Bool) :
    d.Follows (d.addTerms tokens onlyNew) := by
  cases onlyNew with
  | false =>
    rw [addTerms_false]
    exact follows_restrict d _
  | true =>
    rw [addTerms_true]
    exact follows_restrict d _

theorem follows_withCulture (d : Draft) (name : String) : d.Follows (d.withCulture name) := by
  refine { Follows.refl d with search := .inr ⟨name, rfl, ?_⟩ }
  unfold withCulture
  cases (nonBlank name).map Text.lowercase <;> rfl

theorem follows_acceptFilters (d : Draft) (parsed : Parsed) :
    d.Follows (d.acceptFilters parsed) := by
  have hkeywords : (d.acceptFilters parsed).keywords = d.keywords ∨
      ∃ text, (d.acceptFilters parsed).keywords = nonBlank text := by
    rw [keywords_acceptFilters]
    cases d.keywords with
    | none => exact .inr ⟨_, Option.none_or⟩
    | some words => exact .inl Option.some_or
  exact { Follows.refl d with conjuncts := List.prefix_append _ _, keywords := hkeywords }

theorem follows_sortBy (d : Draft) (expression : String) : d.Follows (d.sortBy expression) := by
  unfold sortBy
  split
  · exact .refl d
  · rename_i hne
    exact { Follows.refl d with sorting := fun _ => hne }

theorem follows_isolateFacets (d : Draft) : d.Follows d.isolateFacets := by
  refine { Follows.refl d with ids := .inl ?_ }
  simp [isolateFacets, Aggregation.isolateEach]

/-- A step that succeeds does no more than `Follows` allows. -/
theorem follows_apply (h : (d.apply step).result = .ok d') : d.Follows d' := by
  cases step with
  | culture name =>
    obtain rfl := Except.ok.inj h
    exact follows_withCulture d name
  | terms tokens onlyNew =>
    obtain rfl := Except.ok.inj h
    exact follows_addTerms d tokens onlyNew
  | filters expression =>
    obtain ⟨_, parsed, -, -, rfl⟩ := result_addFilters_eq_ok_iff.1 h
    exact follows_acceptFilters d parsed
  | facets expression predefined =>
    obtain ⟨_, parsed, -, -, rfl⟩ := result_addFacets_eq_ok_iff.1 h
    exact { Follows.refl d with ids := .inr ⟨_, rfl⟩ }
  | sorting expression =>
    obtain rfl := Except.ok.inj h
    exact follows_sortBy d expression
  | isolation =>
    obtain rfl := Except.ok.inj h
    exact follows_isolateFacets d
  | ids ids =>
    obtain rfl := Except.ok.inj h
    rw [addIds_eq]
    exact { follows_restrict d (idsOf ids) with }
  | keywords text =>
    obtain rfl := Except.ok.inj h
    exact { Follows.refl d with keywords := .inr ⟨text, rfl⟩ }
  | includeFields fields =>
    obtain rfl := Except.ok.inj h
    exact { Follows.refl d with includeFields := List.prefix_append _ _ }
  | paging | currency | fuzziness | localizedFacetFields | parser =>
    obtain rfl := Except.ok.inj h
    exact { Follows.refl d with }

theorem Sound.of_follows (hd : d.Sound) (h : d.Follows d') : d'.Sound where
  ids := by
    rcases h.ids with hids | ⟨as, has⟩
    · rw [hids]
      exact hd.ids
    · rw [has]
      exact Aggregation.nodup_unique as
  sorting := h.sorting hd.sorting
  keywords := by
    rcases h.keywords with hsame | ⟨text, htext⟩
    · rw [hsame]
      exact hd.keywords
    · intro words hwords
      rw [htext] at hwords
      obtain ⟨hblank, rfl⟩ := nonBlank_eq_some_iff.1 hwords
      exact ⟨by simp [hblank], Text.trim_trim text⟩
  culture := by
    rcases h.search with ⟨hsame, -⟩ | ⟨name, hname, -⟩
    · rw [hsame]
      exact hd.culture
    · intro culture hculture
      rw [hname, Option.mem_def, Option.map_eq_some_iff] at hculture
      obtain ⟨trimmed, htrimmed, rfl⟩ := hculture
      obtain ⟨hblank, rfl⟩ := nonBlank_eq_some_iff.1 htrimmed
      rw [Text.blank_lowercase, ← Bool.not_eq_true, ← Text.trim_eq_empty_iff, Text.trim_trim,
        Text.trim_eq_empty_iff, hblank]
      simp
  searchFields := by
    rcases h.search with ⟨hculture, hfields⟩ | ⟨_, -, hfields⟩
    · rw [hfields, h.contentField, hculture]
      exact hd.searchFields
    · rw [hfields, h.contentField]

/-! ## Sessions -/

theorem Begins.sound (h : d.Begins) : d.Sound := by
  cases h with
  | ofMapper mapper => exact ⟨List.nodup_nil, List.cons_ne_nil _ _, nofun, nofun, rfl⟩
  | ofConfig h => exact ⟨List.nodup_nil, List.cons_ne_nil _ _, nofun, nofun, rfl⟩

theorem result_applyAll_cons_eq_ok_iff :
    (d.applyAll (step :: steps)).result = .ok d'' ↔
      ∃ d', (d.apply step).result = .ok d' ∧ (d'.applyAll steps).result = .ok d'' :=
  Consulted.result_bind_eq_ok_iff

/-- Steps can be done in two parts. -/
theorem result_applyAll_append_eq_ok_iff :
    (d.applyAll (steps ++ steps')).result = .ok d'' ↔
      ∃ d', (d.applyAll steps).result = .ok d' ∧ (d'.applyAll steps').result = .ok d'' := by
  induction steps generalizing d with
  | nil =>
    constructor
    · exact fun h => ⟨d, rfl, h⟩
    · rintro ⟨_, h, h'⟩
      obtain rfl := Except.ok.inj h
      exact h'
  | cons step steps ih =>
    simp only [List.cons_append, result_applyAll_cons_eq_ok_iff, ih]
    constructor
    · rintro ⟨e, he, d', hd', h⟩
      exact ⟨d', ⟨e, he, hd'⟩, h⟩
    · rintro ⟨d', ⟨e, he, hd'⟩, h⟩
      exact ⟨e, he, d', hd', h⟩

theorem Sound.applyAll (hd : d.Sound) (h : (d.applyAll steps).result = .ok d') :
    d'.Sound ∧ d.Extends d' := by
  induction steps generalizing d with
  | nil =>
    obtain rfl := Except.ok.inj h
    exact ⟨hd, .refl d⟩
  | cons step steps ih =>
    obtain ⟨e, he, h⟩ := result_applyAll_cons_eq_ok_iff.1 h
    have hfollows : d.Follows e := follows_apply he
    obtain ⟨hsound, hextends⟩ := ih (hd.of_follows hfollows) h
    exact ⟨hsound, hfollows.toExtends.trans hextends⟩

/-- A filter expression leaves keywords that are set as they are. -/
theorem keywords_addFilters {expression words : String}
    (h : (d.addFilters expression).result = .ok d') (hwords : d.keywords = some words) :
    d'.keywords = some words := by
  obtain ⟨_, parsed, -, -, rfl⟩ := result_addFilters_eq_ok_iff.1 h
  rw [keywords_acceptFilters, hwords, Option.some_or]

/-- In a session that meets no error every draft on the way is sound: the aggregations have ids of
their own, there is something to sort by, the keywords are trimmed, and words are searched in the
field for the text and in that for the culture. Each draft extends those before it, and a filter
expression leaves keywords that are set as they are. -/
theorem session_sound (hbegins : d.Begins)
    (hrun : (d.applyAll (steps ++ steps')).result = .ok d'') :
    ∃ d', (d.applyAll steps).result = .ok d' ∧ (d'.applyAll steps').result = .ok d'' ∧
      d'.Sound ∧ d''.Sound ∧ d'.Extends d'' ∧
      ∀ expression e, (d'.apply (.filters expression)).result = .ok e →
        ∀ words ∈ d'.keywords, e.keywords = some words := by
  obtain ⟨d', hbefore, hafter⟩ := result_applyAll_append_eq_ok_iff.1 hrun
  obtain ⟨hsound, -⟩ := hbegins.sound.applyAll hbefore
  obtain ⟨hsound', hextends⟩ := hsound.applyAll hafter
  exact ⟨d', hbefore, hafter, hsound, hsound', hextends,
    fun _ _ he _ hwords => keywords_addFilters he hwords⟩

/-- The keyword of the expression does not replace the words of the user, and the second facet of
brands gives way to the first. -/
theorem session_sound_shoes :
    let start : Draft := ofConfig { search := { contentField := "body" } } .catalog
    let parser : ExpressionParser := fun _ => .ok { keyword := "boots", filters := [.ids ["p1"]] }
    let before : List Step := [.parser parser, .culture " EN ", .keywords " red shoes "]
    let after : List Step :=
      [.filters "boots", .facets "" [.ofField "brand" 5, .ofField "brand" 0], .isolation]
    let d := ((start.withParser parser).withCulture " EN ").withKeywords " red shoes "
    start.Begins ∧ (start.applyAll before).result = .ok d ∧ d.searchFields = ["body", "body_en"] ∧
      (d.acceptFilters { keyword := "boots", filters := [.ids ["p1"]] }).keywords =
        some "red shoes" ∧
      ∃ last, (start.applyAll (before ++ after)).result = .ok last ∧
        (last.aggregations.map (·.id)).Nodup := by
  intro start parser before after d
  have hbegins : start.Begins := .ofConfig rfl
  have hd : (start.applyAll before).result = .ok d := rfl
  obtain ⟨last, hrun⟩ : ∃ last, (start.applyAll (before ++ after)).result = .ok last := ⟨_, rfl⟩
  obtain ⟨_, hbefore, -, hsound, hsound', -, hkeywords⟩ := session_sound hbegins hrun
  obtain rfl := Except.ok.inj (hd.symm.trans hbefore)
  refine ⟨hbegins, hd, ?_, ?_, last, hrun, hsound'.ids⟩
  · have hfields : fieldsFor d.contentField d.culture = ["body", "body_en"] := by decide +kernel
    exact hsound.searchFields.trans hfields
  · have hwords : d.keywords = some "red shoes" := by decide +kernel
    exact hkeywords "boots" _ rfl "red shoes" hwords

end Draft

end FacetedSearch
