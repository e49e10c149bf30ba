import FacetedSearch.Proofs.FilterMeaning
import FacetedSearch.Proofs.PriceNames

/-!
# Normal filters

Compiling a filter leaves no pattern among the values of a term and, in a currency, no plain price,
however deep in the tree. Each term is replaced where it stands, and all its values are found
again, patterns and literals each in their order. Where names are not mapped the normal filters are
those that compiling leaves alone.

## Main definitions

* `Filter.EveryPart` — a property of a tree and of all that is in it.
* `Filter.IsNormal` — no patterns in terms, and no plain price in a currency.
* `Splits` — values, the patterns among them and the others.
* `Filter.StandsFor` — what can take the place of a term.
-/

namespace FacetedSearch

/-- The patterns among values and the literal ones. No value is lost or comes twice, and those of
either kind keep their order. -/
structure Splits (values patterns literals : List String) : Prop where
  isPattern : ∀ v ∈ patterns, '*' ∈ v.toList ∨ '?' ∈ v.toList
  isLiteral : ∀ v ∈ literals, '*' ∉ v.toList ∧ '?' ∉ v.toList
  perm : (patterns ++ literals).Perm values
  patterns_sublist : patterns.Sublist values
  literals_sublist : literals.Sublist values

theorem FieldMapper.mapName_of_rules_eq_nil {mapper : FieldMapper} (h : mapper.rules = [])
    (name : String) : mapper.mapName name = name :=
  mapName_eq_self (by simp [h])

namespace Filter

def EveryPart (p : Filter → Prop) (f : Filter) : Prop :=
  ∀ path g, f.part? path = some g → p g

def IsNormalPart (currency : Option String) : Filter → Prop
  | .term _ values => ∀ v ∈ values, '*' ∉ v.toList ∧ '?' ∉ v.toList
  | .range field _ => currency ≠ none → Text.fold field ≠ "price".toList
  | .wildcard .. | .ids _ | .all _ | .any _ => True

def IsNormal (currency : Option String) (f : Filter) : Prop :=
  f.EveryPart (IsNormalPart currency)

/-- The term itself when no value is a pattern, or a choice of a wildcard for each pattern, in front
of the term of the literal values if there are any. -/
inductive StandsFor (field : String) (values : List String) : Filter → Prop
  | term (h : Splits values [] values) : StandsFor field values (.term field values)
  | wildcards {patterns : List String} (h : Splits values patterns []) (hne : patterns ≠ []) :
      StandsFor field values (.any (patterns.map (.wildcard field)))
  | both {patterns literals : List String} (h : Splits values patterns literals)
      (hne : patterns ≠ []) (hne' : literals ≠ []) :
      StandsFor field values (.any (patterns.map (.wildcard field) ++ [.term field literals]))

variable {currency : Option String} {mapper : FieldMapper} {f g : Filter} {field : String}
  {values : List String} {p : Filter → Prop} {path : List Nat}

/-! ## Parts -/

/-- A property of every part is one of the root and of every part of its children. -/
theorem everyPart_iff : f.EveryPart p ↔ p f ∧ ∀ c ∈ f.children, c.EveryPart p := by
  constructor
  · refine fun h => ⟨h [] f rfl, fun c hc path g hg => ?_⟩
    obtain ⟨i, hi, rfl⟩ := List.getElem_of_mem hc
    refine h (i :: path) g ?_
    rw [part?, List.getElem?_eq_getElem hi, Option.bind_some, hg]
  · rintro ⟨hroot, hchildren⟩ (_ | ⟨i, path⟩) g hg
    · exact Option.some.inj hg ▸ hroot
    · obtain ⟨c, hc, hg⟩ := Option.bind_eq_some_iff.1 hg
      exact hchildren c (List.mem_of_getElem? hc) path g hg

theorem everyPart_of_children_eq_nil (h : f.children = []) (hp : p f) : f.EveryPart p :=
  everyPart_iff.2 ⟨hp, by simp [h]⟩

theorem isNormal_all {parts : List Filter} :
    (all parts).IsNormal currency ↔ ∀ c ∈ parts, c.IsNormal currency := by
  rw [IsNormal, everyPart_iff]
  exact and_iff_right trivial

theorem isNormal_any {parts : List Filter} :
    (any parts).IsNormal currency ↔ ∀ c ∈ parts, c.IsNormal currency := by
  rw [IsNormal, everyPart_iff]
  exact and_iff_right trivial

/-! ## Terms -/

theorem splits_filter (values : List String) :
    Splits values (values.filter isWildcard) (values.filter (!isWildcard ·)) where
  isPattern v hv := isWildcard_iff.1 (List.mem_filter.1 hv).2
  isLiteral v hv := by
    rw [← not_or, ← isWildcard_iff, Bool.not_eq_true]
    simpa using (List.mem_filter.1 hv).2
  perm := List.filter_append_perm isWildcard values
  patterns_sublist := List.filter_sublist
  literals_sublist := List.filter_sublist

theorem standsFor_splitWildcards (field : String) (values : List String) :
    StandsFor field values (splitWildcards field values) := by
  have hsplits := splits_filter values
  by_cases hpatterns : values.filter isWildcard = []
  · have hliterals : values.filter (!isWildcard ·) = values := by
      rw [List.filter_eq_self]
      simpa using hpatterns
    rw [hpatterns, hliterals] at hsplits
    rw [splitWildcards_of_eq_nil hpatterns]
    exact .term hsplits
  · rw [splitWildcards_of_ne_nil hpatterns]
    by_cases hliterals : values.filter (!isWildcard ·) = []
    · rw [hliterals] at hsplits
      rw [if_pos hliterals, List.append_nil]
      exact .wildcards hsplits hpatterns
    · rw [if_neg hliterals]
      exact .both hsplits hpatterns hliterals

theorem isNormal_term (h : ∀ v ∈ values, '*' ∉ v.toList ∧ '?' ∉ v.toList) :
    (term field values).IsNormal currency :=
  everyPart_of_children_eq_nil rfl h

theorem isNormal_wildcard (field pattern : String) : (wildcard field pattern).IsNormal currency :=
  everyPart_of_children_eq_nil rfl trivial

/-- What takes the place of a term is normal in every currency. -/
theorem StandsFor.isNormal (h : StandsFor field values g) : g.IsNormal currency := by
  cases h with
  | term h => exact isNormal_term h.isLiteral
  | wildcards h =>
    rw [isNormal_any, List.forall_mem_map]
    exact fun v _ => isNormal_wildcard field v
  | both h =>
    rw [isNormal_any, List.forall_mem_append, List.forall_mem_map, List.forall_mem_singleton]
    exact ⟨fun v _ => isNormal_wildcard field v, isNormal_term h.isLiteral⟩

/-- What takes the place of a term has no parts but leaves. -/
theorem StandsFor.children_eq_nil (h : StandsFor field values g) :
    ∀ c ∈ g.children, c.children = [] := by
  cases h with
  | term => exact fun c hc => absurd hc List.not_mem_nil
  | wildcards =>
    rw [children, List.forall_mem_map]
    exact fun _ _ => rfl
  | both =>
    rw [children, List.forall_mem_append, List.forall_mem_map, List.forall_mem_singleton]
    exact ⟨fun _ _ => rfl, rfl⟩

/-! ## Compiled filters -/

theorem fold_rangeField_ne (h : currency ≠ none) (field : String) :
    Text.fold (rangeField currency field) ≠ "price".toList := by
  obtain ⟨code, rfl⟩ := Option.ne_none_iff_exists'.1 h
  rw [rangeField_eq_fieldInCurrency, fieldInCurrency]
  split
  · -- The name of the prices in a currency is longer.
    intro hprice
    have hlength := congrArg List.length hprice
    simp [Text.fold] at hlength
  · assumption

theorem rangeField_eq_self (h : currency ≠ none → Text.fold field ≠ "price".toList) :
    rangeField currency field = field := by
  rw [rangeField_eq_fieldInCurrency]
  cases currency with
  | none => rfl
  | some code => exact if_neg (h nofun)

/-- Compiled filters are normal. -/
theorem isNormal_compile (mapper : FieldMapper) (currency : Option String) (f : Filter) :
    (f.compile mapper currency).IsNormal currency := by
  induction f with
  | term field values => exact (standsFor_splitWildcards _ values).isNormal
  | wildcard field pattern => exact isNormal_wildcard _ pattern
  | range field intervals =>
    exact everyPart_of_children_eq_nil rfl fun h => fold_rangeField_ne h (mapper.mapName field)
  | ids => exact everyPart_of_children_eq_nil rfl trivial
  | all parts ih =>
    rw [compile, compileEach_eq_map, isNormal_all, List.forall_mem_map]
    exact ih
  | any parts ih =>
    rw [compile, compileEach_eq_map, isNormal_any, List.forall_mem_map]
    exact ih

/-- Where no name is mapped, the normal filters are those that compiling leaves alone. -/
theorem compile_eq_self_iff (h : mapper.rules = []) :
    f.compile mapper currency = f ↔ f.IsNormal currency := by
  refine ⟨fun hfixed => hfixed ▸ isNormal_compile mapper currency f, fun hnormal => ?_⟩
  have hmap : ∀ {parts : List Filter}, (∀ c ∈ parts, c.IsNormal currency →
      c.compile mapper currency = c) → (∀ c ∈ parts, c.IsNormal currency) →
      compileEach mapper currency parts = parts := by
    intro parts ih hparts
    rw [compileEach_eq_map]
    exact (List.map_congr_left fun c hc => ih c hc (hparts c hc)).trans (List.map_id _)
  induction f with
  | term field values =>
    have hliterals : ∀ v ∈ values, '*' ∉ v.toList ∧ '?' ∉ v.toList := hnormal [] _ rfl
    rw [compile, FieldMapper.mapName_of_rules_eq_nil h, splitWildcards_of_eq_nil]
    rw [List.filter_eq_nil_iff]
    intro v hv
    rw [isWildcard_iff, not_or]
    exact hliterals v hv
  | wildcard field pattern => rw [compile, FieldMapper.mapName_of_rules_eq_nil h]
  | range field intervals =>
    have hprice : currency ≠ none → Text.fold field ≠ "price".toList := hnormal [] _ rfl
    rw [compile, FieldMapper.mapName_of_rules_eq_nil h, rangeField_eq_self hprice]
  | ids => rfl
  | all parts ih => rw [compile, hmap ih (isNormal_all.1 hnormal)]
  | any parts ih => rw [compile, hmap ih (isNormal_any.1 hnormal)]

/-! ## Places -/

theorem children_compile (h : ∀ field values, f ≠ .term field values) :
    (f.compile mapper currency).children = f.children.map (compile mapper currency) := by
  cases f with
  | term field values => exact absurd rfl (h field values)
  | all | any => rw [compile, compileEach_eq_map, children, children]
  | wildcard | range | ids => rfl

/-- A part of a compiled filter stands where there was a part before, or right below the place of a
term. -/
theorem isSome_part?_of_compile (h : ((f.compile mapper currency).part? path).isSome = true) :
    (f.part? path).isSome = true ∨ ∃ place i field values, path = place ++ [i] ∧
      f.part? place = some (.term field values) := by
  induction path generalizing f with
  | nil => exact .inl rfl
  | cons i path ih =>
    obtain ⟨g, hg⟩ := Option.isSome_iff_exists.1 h
    obtain ⟨c, hc, hpart⟩ := Option.bind_eq_some_iff.1 hg
    by_cases hterm : ∃ field values, f = .term field values
    · obtain ⟨field, values, rfl⟩ := hterm
      have hleaf : c.children = [] := (standsFor_splitWildcards _ values).children_eq_nil c
        (List.mem_of_getElem? hc)
      cases path with
      | nil => exact .inr ⟨[], i, field, values, rfl, rfl⟩
      | cons j path => simp [part?, hleaf] at hpart
    · rw [children_compile fun field values hf => hterm ⟨field, values, hf⟩, List.getElem?_map,
        Option.map_eq_some_iff] at hc
      obtain ⟨e, he, rfl⟩ := hc
      have hstep : ∀ place, f.part? (i :: place) = e.part? place := by
        intro place
        rw [part?, he, Option.bind_some]
      rcases ih (Option.isSome_iff_exists.2 ⟨g, hpart⟩) with
        hsome | ⟨place, j, field, values, rfl, hplace⟩
      · exact .inl (by rwa [hstep])
      · exact .inr ⟨i :: place, j, field, values, rfl, by rwa [hstep]⟩

end Filter

/-- A compiled filter is normal. Each term is replaced where it stands, by itself or by a choice
that holds its patterns and its literal values, and nothing comes about elsewhere. Where names are
not mapped the normal filters are those that stay as they are, and compiling again changes
nothing. -/
theorem compileFilter_normalizes (d : Draft) (f : Filter) :
    (d.compileFilter f).IsNormal d.currency ∧
    (∀ path field values, f.part? path = some (.term field values) →
      ∃ g, (d.compileFilter f).part? path = some g ∧
        Filter.StandsFor (d.mapper.mapName field) values g) ∧
    (∀ path, ((d.compileFilter f).part? path).isSome = true → (f.part? path).isSome = true ∨
      ∃ place i field values, path = place ++ [i] ∧ f.part? place = some (.term field values)) ∧
    (d.mapper.rules = [] → (d.compileFilter f = f ↔ f.IsNormal d.currency) ∧
      d.compileFilter (d.compileFilter f) = d.compileFilter f) := by
  refine ⟨Filter.isNormal_compile d.mapper d.currency f, fun path field values hpart => ?_,
    fun path => Filter.isSome_part?_of_compile, fun hrules => ?_⟩
  · exact ⟨_, Filter.part?_compile hpart, Filter.standsFor_splitWildcards _ values⟩
  · exact ⟨Filter.compile_eq_self_iff hrules,
      (Filter.compile_eq_self_iff hrules).2 (Filter.isNormal_compile d.mapper d.currency f)⟩

/-- Patterns come in front of the other values of a term that stands two levels down. -/
theorem compileFilter_normalizes_sizes :
    let d : Draft := (Draft.ofMapper ⟨[]⟩).withCurrency "EUR"
    let f : Filter := .any [.range "Price" [.below "5"], .all [.term "size" ["M", "X*", "L", "?S"]]]
    let g : Filter := .any [.range "price_eur" [.below "5"],
      .all [.any [.wildcard "size" "X*", .wildcard "size" "?S", .term "size" ["M", "L"]]]]
    d.compileFilter f = g ∧ d.compileFilter g = g ∧ g.IsNormal d.currency ∧
      ∃ choice, g.part? [1, 0] = some choice ∧
        Filter.StandsFor "size" ["M", "X*", "L", "?S"] choice := by
  intro d f g
  obtain ⟨hnormal, hplaces, -, hagain⟩ := compileFilter_normalizes d f
  have hcompiled : d.compileFilter f = g := by decide +kernel
  rw [hcompiled] at hnormal hplaces hagain
  exact ⟨hcompiled, (hagain rfl).2, hnormal, hplaces [1, 0] _ _ rfl⟩

end FacetedSearch
