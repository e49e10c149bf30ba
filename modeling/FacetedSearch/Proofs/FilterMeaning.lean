import FacetedSearch.Filter.Meaning
import FacetedSearch.Proofs.DraftSteps

/-!
# Compiling filters keeps their meaning

What a parsed filter is meant to say is laid down leaf by leaf, in terms of mapped names. A
compiled filter says the same of every document, and a filter expression restricts a draft by
what its filters are meant to say.

## Main definitions

* `fieldInCurrency` — the field that a range is meant for.
* `Document.intends` — the leaves of a parsed filter that hold of a document as they are meant.
-/

namespace FacetedSearch

/-- The field that a range is meant for. A plain price is one in the currency. -/
def fieldInCurrency : Option String → String → String
  | some code, field =>
    if Text.fold field = "price".toList then "price_" ++ Text.lowercase code else field
  | none, field => field

/-- The leaves of a parsed filter that hold of a document as they are meant. The values of a term
are taken one by one, and one with `*` or `?` in it is a pattern. -/
def Document.intends (d : Document) (mapper : FieldMapper) (currency : Option String) :
    Filter → Prop
  | .term field values => ∃ v ∈ values,
      if '*' ∈ v.toList ∨ '?' ∈ v.toList then d.meets (mapper.mapName field) v
      else d.has (mapper.mapName field) v
  | .wildcard field pattern => d.meets (mapper.mapName field) pattern
  | .range field intervals =>
    ∃ i ∈ intervals, d.within (fieldInCurrency currency (mapper.mapName field)) i
  | .ids ids => ∃ v ∈ ids, d.isOne v
  | .all _ | .any _ => False

theorem isWildcard_iff {v : String} : isWildcard v = true ↔ '*' ∈ v.toList ∨ '?' ∈ v.toList := by
  simp only [isWildcard, List.any_eq_true, Bool.or_eq_true, beq_iff_eq]
  constructor
  · rintro ⟨c, hc, rfl | rfl⟩
    · exact .inl hc
    · exact .inr hc
  · rintro (h | h)
    · exact ⟨_, h, .inl rfl⟩
    · exact ⟨_, h, .inr rfl⟩

theorem rangeField_eq_fieldInCurrency (currency : Option String) (field : String) :
    rangeField currency field = fieldInCurrency currency field := by
  have hprice : Text.fold "price" = "price".toList := by decide
  cases currency with
  | none => rfl
  | some code => simp only [rangeField, fieldInCurrency, priceField, Text.same_iff, hprice]

variable {d : Document}

namespace Filter

@[simp] theorem holds_term (field : String) (values : List String) :
    (term field values).Holds d ↔ ∃ v ∈ values, d.has field v := holdsFor_term _ _

@[simp] theorem holds_wildcard (field pattern : String) :
    (wildcard field pattern).Holds d ↔ d.meets field pattern := holdsFor_wildcard _ _

@[simp] theorem holds_range (field : String) (intervals : List Interval) :
    (range field intervals).Holds d ↔ ∃ i ∈ intervals, d.within field i := holdsFor_range _ _

@[simp] theorem holds_ids (vs : List String) :
    (ids vs).Holds d ↔ ∃ v ∈ vs, d.isOne v := holdsFor_ids _

@[simp] theorem holds_all (fs : List Filter) : (all fs).Holds d ↔ ∀ f ∈ fs, f.Holds d :=
  holdsFor_all

@[simp] theorem holds_any (fs : List Filter) : (any fs).Holds d ↔ ∃ f ∈ fs, f.Holds d :=
  holdsFor_any

theorem exists_mem_map_holds {α : Type} {g : α → Filter} {xs : List α} :
    (∃ f ∈ xs.map g, f.Holds d) ↔ ∃ x ∈ xs, (g x).Holds d := by
  constructor
  · rintro ⟨_, hmem, hd⟩
    obtain ⟨x, hx, rfl⟩ := List.mem_map.1 hmem
    exact ⟨x, hx, hd⟩
  · rintro ⟨x, hx, hd⟩
    exact ⟨_, List.mem_map_of_mem hx, hd⟩

/-- The patterns among the values are tested as patterns and the others literally, whichever
form the split term has. -/
theorem holds_splitWildcards_iff_or (field : String) (values : List String) :
    (splitWildcards field values).Holds d ↔
      (∃ v ∈ values.filter isWildcard, d.meets field v) ∨
        ∃ v ∈ values.filter (!isWildcard ·), d.has field v := by
  by_cases hpat : values.filter isWildcard = []
  · have hlit : values.filter (!isWildcard ·) = values := by
      rw [List.filter_eq_self]
      simpa using hpat
    rw [splitWildcards_of_eq_nil hpat, hpat, hlit, holds_term]
    simp
  · rw [splitWildcards_of_ne_nil hpat, holds_any]
    split
    · rename_i hlit
      rw [hlit, List.append_nil, exists_mem_map_holds]
      simp
    · simp only [List.mem_append, or_and_right, exists_or, exists_mem_map_holds, holds_wildcard,
        List.mem_singleton, exists_eq_left, holds_term]

/-- Splitting moves no value to another test. -/
theorem holds_splitWildcards (field : String) (values : List String) :
    (splitWildcards field values).Holds d ↔
      ∃ v ∈ values, if isWildcard v then d.meets field v else d.has field v := by
  simp only [holds_splitWildcards_iff_or, List.mem_filter, Bool.not_eq_true']
  constructor
  · rintro (⟨v, ⟨hv, hw⟩, hd⟩ | ⟨v, ⟨hv, hw⟩, hd⟩)
    · exact ⟨v, hv, by rwa [if_pos hw]⟩
    · exact ⟨v, hv, by rwa [if_neg (by simp [hw])]⟩
  · rintro ⟨v, hv, hd⟩
    split at hd
    · rename_i hw
      exact .inl ⟨v, ⟨hv, hw⟩, hd⟩
    · rename_i hw
      exact .inr ⟨v, ⟨hv, by simpa using hw⟩, hd⟩

/-- A compiled filter says what the parsed filter is meant to say. -/
theorem holds_compile (mapper : FieldMapper) (currency : Option String) (f : Filter) :
    (f.compile mapper currency).Holds d ↔ f.HoldsFor (d.intends mapper currency) := by
  induction f with
  | term field values =>
    rw [compile, holds_splitWildcards, holdsFor_term, Document.intends]
    simp only [isWildcard_iff]
  | wildcard field pattern => exact Iff.rfl
  | range field intervals =>
    rw [compile, rangeField_eq_fieldInCurrency]
    exact Iff.rfl
  | ids ids => exact Iff.rfl
  | all children ih =>
    rw [compile, compileEach_eq_map, holds_all, holdsFor_all, List.forall_mem_map]
    exact forall_congr' fun f => forall_congr' (ih f)
  | any children ih =>
    rw [compile, compileEach_eq_map, holds_any, holdsFor_any, exists_mem_map_holds]
    exact exists_congr fun f => and_congr_right (ih f)

end Filter

/-- Taking over a parsed expression restricts the root by what its filters are meant to say. -/
theorem holds_filter_acceptFilters (draft : Draft) (parsed : Parsed) :
    (draft.acceptFilters parsed).filter.Holds d ↔ draft.filter.Holds d ∧
      ∀ f ∈ parsed.filters, f.HoldsFor (d.intends draft.mapper draft.currency) := by
  simp only [Conjunction.Holds, Draft.acceptFilters, List.forall_mem_append, List.forall_mem_map,
    Draft.compileFilter, Filter.holds_compile]

/-- For every document, a compiled filter holds exactly when the parsed one is meant to, at any
depth of the tree; and a filter expression that is not blank narrows the root down to what all
its filters are meant to say. -/
theorem compileFilter_means_intended (d : Document) :
    (∀ (draft : Draft) (f : Filter), (draft.compileFilter f).Holds d ↔
      f.HoldsFor (d.intends draft.mapper draft.currency)) ∧
    ∀ (draft draft' : Draft) (expression : String), Text.blank expression = false →
      (draft.addFilters expression).result = .ok draft' →
      ∃ parser parsed, draft.parser = some parser ∧ parser expression = .ok parsed ∧
        (draft'.filter.Holds d ↔ draft.filter.Holds d ∧
          ∀ f ∈ parsed.filters, f.HoldsFor (d.intends draft.mapper draft.currency)) := by
  refine ⟨fun draft f => f.holds_compile draft.mapper draft.currency, ?_⟩
  intro draft draft' expression hblank hresult
  obtain ⟨parser, parsed, hparser, hfound, rfl⟩ :=
    Draft.result_addFilters_eq_ok_iff.1 hresult
  have hparsed : parser expression = .ok parsed := by
    simpa [ExpressionParser.found, hblank] using hfound
  exact ⟨parser, parsed, hparser, hparsed, holds_filter_acceptFilters draft parsed⟩

/-- A choice between a term with a pattern and a price: a document with the literal value of the
term passes. -/
theorem compileFilter_means_intended_choice :
    let filters : List Filter := [.any [.term "sku" ["A*", "B"], .range "Price" [.below "2"]]]
    let draft := ((Draft.ofMapper ⟨[]⟩).withCurrency "EUR").withParser fun _ => .ok { filters }
    let d : Document := ⟨fun field v => field = "sku" ∧ v = "B", fun _ _ => False,
      fun _ _ => False, fun _ => False⟩
    Text.blank "sku:A*,B" = false ∧
      (draft.addFilters "sku:A*,B").result = .ok (draft.acceptFilters { filters }) ∧
      (draft.acceptFilters { filters }).filter.Holds d := by
  intro filters draft d
  have hblank : Text.blank "sku:A*,B" = false := by decide
  have hresult : (draft.addFilters "sku:A*,B").result = .ok (draft.acceptFilters { filters }) :=
    Draft.result_addFilters_eq_ok_iff.2 ⟨_, _, rfl, by simp [ExpressionParser.found, hblank], rfl⟩
  obtain ⟨parser, parsed, hparser, hparsed, hholds⟩ :=
    (compileFilter_means_intended d).2 draft _ _ hblank hresult
  cases hparser
  cases hparsed
  refine ⟨hblank, hresult, hholds.2 ⟨fun f hf => (List.not_mem_nil hf).elim, ?_⟩⟩
  have hsku : FieldMapper.mapName ⟨[]⟩ "sku" = "sku" := FieldMapper.mapName_nil "sku"
  intro f hf
  obtain rfl := List.mem_singleton.1 hf
  refine Filter.holdsFor_any.2 ⟨_, List.mem_cons_self, ?_⟩
  refine (Filter.holdsFor_term _ _).2 ⟨"B", by simp, ?_⟩
  rw [if_neg (by decide)]
  exact ⟨hsku, rfl⟩

end FacetedSearch
