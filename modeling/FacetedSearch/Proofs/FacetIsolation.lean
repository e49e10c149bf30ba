import Mathlib.Data.List.Forall2
import Mathlib.Logic.Function.Iterate
import FacetedSearch.Filter.Meaning
import FacetedSearch.Request

/-!
# Isolated facets

An isolated aggregation counts the documents that pass its own filter and the conjuncts on other
fields. Isolating it again from the same root changes neither that set of documents nor what the
set depends on.

## Main definitions

* `Filter.IsOn` — whether a filter is a selection in the facet of a field.
* `Conjunction.others` — the conjuncts that are no selections in the facet of a field.
* `Aggregation.IsolatedFrom` — how an isolated aggregation comes from the one before.
* `Aggregation.Counts` — whether an aggregation counts the documents with the given leaves.
* `Aggregation.filterAfter` — the filter of an aggregation after several runs.
-/

namespace FacetedSearch

/-- A selection in the facet of `field` is a named leaf whose name begins `field`, up to ASCII
case. -/
def Filter.IsOn (field : String) : Filter → Prop
  | .term name _ | .wildcard name _ | .range name _ => Text.fold name <+: Text.fold field
  | .ids _ | .all _ | .any _ => False

theorem Filter.isOn_iff {field : String} {f : Filter} :
    f.IsOn field ↔ f.fieldName?.any (Text.startsWith field) = true := by
  cases f <;> simp [IsOn, fieldName?, Text.startsWith_iff]

instance (field : String) : DecidablePred (Filter.IsOn field) :=
  fun _ => decidable_of_iff' _ Filter.isOn_iff

/-- The conjuncts that are no selections in the facet of a field. -/
def Conjunction.others (root : Conjunction) (field : String) : List Filter :=
  root.conjuncts.filter fun f => ¬ f.IsOn field

theorem Conjunction.mem_others {root : Conjunction} {field : String} {f : Filter} :
    f ∈ root.others field ↔ f ∈ root.conjuncts ∧ ¬ f.IsOn field := by
  simp [others]

theorem Conjunction.toFilter_without (root : Conjunction) (field : String) :
    (root.without field).toFilter = .all (root.others field) := by
  simp only [without, toFilter, others, Filter.isOn_iff]
  congr 2
  funext f
  simp

namespace Aggregation

/-- The field whose selections an aggregation leaves out: its own one, or that of the leaf which
is its filter. -/
def facetField (a : Aggregation) : String :=
  if a.field ≠ "" then a.field
  else match a.filter with
    | some (.term name _) | some (.wildcard name _) | some (.range name _) => name
    | some (.ids _) | some (.all _) | some (.any _) | none => ""

/-- `b` is `a` with the other conjuncts as its filter, before the filter that `a` has. -/
structure IsolatedFrom (root : Conjunction) (a b : Aggregation) : Prop where
  id : b.id = a.id
  field : b.field = a.field
  counting : b.counting = a.counting
  filter : b.filter = some (match a.filter with
    | none => .all (root.others a.facetField)
    | some own => .all [.all (root.others a.facetField), own])

/-- Whether documents in which the given leaves hold are counted. -/
def Counts (leaf : Filter → Prop) (a : Aggregation) : Prop :=
  ∀ f ∈ a.filter, f.HoldsFor leaf

variable {root root' : Conjunction} {a b : Aggregation}

/-! ## One run -/

theorem isolationField_eq_facetField (a : Aggregation) : a.isolationField = a.facetField := by
  unfold isolationField facetField
  by_cases h : a.field = ""
  · rw [if_pos h, if_neg (not_not.2 h)]
    cases hf : a.filter with
    | none => rfl
    | some f => cases f <;> rfl
  · rw [if_neg h, if_pos h]

theorem facetField_of_ne_empty (h : a.field ≠ "") : a.facetField = a.field := if_pos h

theorem isolatedFrom_isolate (root : Conjunction) (a : Aggregation) :
    IsolatedFrom root a (a.isolate root) := by
  refine ⟨id_isolate root a, field_isolate root a, counting_isolate root a, ?_⟩
  cases h : a.filter <;>
    simp [isolate, isolationField_eq_facetField, Conjunction.toFilter_without, h]

theorem IsolatedFrom.eq_isolate (h : IsolatedFrom root a b) : b = a.isolate root := by
  obtain ⟨hid, hfield, hcounting, hfilter⟩ := h
  have hiso := isolatedFrom_isolate root a
  cases b
  simp only at hid hfield hcounting hfilter
  rw [hid, hfield, hcounting, hfilter, ← hiso.filter]
  rfl

/-- One run lets an aggregation count what passes its filter and the other conjuncts. -/
theorem counts_isolate {leaf : Filter → Prop} :
    (a.isolate root).Counts leaf ↔
      a.Counts leaf ∧ ∀ c ∈ root.others a.facetField, c.HoldsFor leaf := by
  unfold Counts
  rw [(isolatedFrom_isolate root a).filter]
  cases a.filter with
  | none => simp
  | some own => simp [and_comm]

/-- Only the conjuncts on other fields matter. -/
theorem isolate_congr (h : root.others a.facetField = root'.others a.facetField) :
    a.isolate root = a.isolate root' := by
  have hiso := isolatedFrom_isolate root a
  refine IsolatedFrom.eq_isolate ⟨hiso.id, hiso.field, hiso.counting, ?_⟩
  rw [hiso.filter, h]

/-- Isolation goes aggregation by aggregation. Each one keeps what it counts and under which id
and field; its filter becomes the conjuncts that are no selections in its facet, in their order
and as often as they stand in the root, followed by the filter that it had. The others around it
play no part. -/
theorem isolateEach_exact (root : Conjunction) (as : List Aggregation) :
    (isolateEach root as).length = as.length ∧
    List.Forall₂ (IsolatedFrom root) as (isolateEach root as) ∧
    ∀ before a after, isolateEach root (before ++ a :: after) =
      isolateEach root before ++ isolateEach root [a] ++ isolateEach root after := by
  refine ⟨List.length_map _, ?_, ?_⟩
  · rw [isolateEach, List.forall₂_map_right_iff, List.forall₂_same]
    exact fun a _ => isolatedFrom_isolate root a
  · intro before a after
    simp [isolateEach]

/-! ## Several runs -/

theorem field_iterate_isolate (n : ℕ) : ((isolate root)^[n] a).field = a.field := by
  induction n generalizing a with
  | zero => rfl
  | succ n ih => rw [Function.iterate_succ_apply, ih, field_isolate]

/-- After the first run nothing changes for the documents: the conjuncts that a further run puts
in front are in force already. -/
theorem counts_iterate_isolate {leaf : Filter → Prop} (hfield : a.field ≠ "") (n : ℕ) :
    ((isolate root)^[n + 1] a).Counts leaf ↔
      a.Counts leaf ∧ ∀ c ∈ root.others a.field, c.HoldsFor leaf := by
  induction n with
  | zero => rw [Function.iterate_one, counts_isolate, facetField_of_ne_empty hfield]
  | succ n ih =>
    have hn : ((isolate root)^[n + 1] a).field = a.field := field_iterate_isolate (n + 1)
    have hne : ((isolate root)^[n + 1] a).field ≠ "" := by rwa [hn]
    rw [Function.iterate_succ_apply', counts_isolate, facetField_of_ne_empty hne, hn, ih]
    tauto

theorem iterate_isolate_congr (hfield : a.field ≠ "")
    (h : root.others a.field = root'.others a.field) (n : ℕ) :
    (isolate root)^[n] a = (isolate root')^[n] a := by
  induction n generalizing a with
  | zero => rfl
  | succ n ih =>
    have hone : a.isolate root = a.isolate root' :=
      isolate_congr (by rwa [facetField_of_ne_empty hfield])
    rw [Function.iterate_succ_apply, Function.iterate_succ_apply, hone]
    exact ih hfield h

theorem exists_filter_iterate_isolate (root : Conjunction) (a : Aggregation) (n : ℕ) :
    ∃ f, ((isolate root)^[n + 1] a).filter = some f := by
  rw [Function.iterate_succ_apply']
  exact ⟨_, (isolatedFrom_isolate root _).filter⟩

theorem iterate_isolateEach (n : ℕ) (as : List Aggregation) :
    (isolateEach root)^[n] as = as.map ((isolate root)^[n]) := by
  induction n generalizing as with
  | zero => simp
  | succ n ih =>
    rw [Function.iterate_succ_apply, ih, isolateEach, List.map_map, Function.iterate_succ]

/-- The filter of the aggregation at place `i` of a list after `n` runs. -/
def filterAfter (root : Conjunction) (n : ℕ) (as : List Aggregation) (i : ℕ) : Option Filter :=
  ((isolateEach root)^[n] as)[i]?.bind (·.filter)

theorem filterAfter_eq {as : List Aggregation} {i : ℕ} (ha : as[i]? = some a) (n : ℕ) :
    filterAfter root n as i = ((isolate root)^[n] a).filter := by
  simp [filterAfter, iterate_isolateEach, ha]

/-- However often a facet with a field is isolated, it counts the documents that pass its own
filter and every conjunct that is no selection in it. So the number of runs does not matter, a
document that passes the root and that filter is counted, and two roots that differ in selections
of the facet only give it the same filter. -/
theorem filterAfter_means_others {as : List Aggregation} {i n : ℕ} (ha : as[i]? = some a)
    (hfield : a.field ≠ "") (hn : 1 ≤ n) (root : Conjunction) :
    ∃ g, filterAfter root n as i = some g ∧
      (∀ leaf, g.HoldsFor leaf ↔ (∀ own ∈ a.filter, own.HoldsFor leaf) ∧
        ∀ c ∈ root.conjuncts, ¬ c.IsOn a.field → c.HoldsFor leaf) ∧
      (∀ m g', 1 ≤ m → filterAfter root m as i = some g' →
        ∀ leaf, g'.HoldsFor leaf ↔ g.HoldsFor leaf) ∧
      (∀ leaf, (∀ c ∈ root.conjuncts, c.HoldsFor leaf) →
        (∀ own ∈ a.filter, own.HoldsFor leaf) → g.HoldsFor leaf) ∧
      ∀ root' : Conjunction, root'.others a.field = root.others a.field →
        filterAfter root' n as i = some g := by
  have hmeaning : ∀ m g, 1 ≤ m → filterAfter root m as i = some g → ∀ leaf,
      g.HoldsFor leaf ↔ (∀ own ∈ a.filter, own.HoldsFor leaf) ∧
        ∀ c ∈ root.conjuncts, ¬ c.IsOn a.field → c.HoldsFor leaf := by
    intro m g hm hg leaf
    obtain ⟨m, rfl⟩ := Nat.exists_eq_add_of_le' hm
    rw [filterAfter_eq ha] at hg
    have hcounts : ((isolate root)^[m + 1] a).Counts leaf ↔ _ := counts_iterate_isolate hfield m
    unfold Counts at hcounts
    rw [hg] at hcounts
    simpa [Conjunction.mem_others] using hcounts
  obtain ⟨m, rfl⟩ := Nat.exists_eq_add_of_le' hn
  obtain ⟨g, hg⟩ := exists_filter_iterate_isolate root a m
  rw [← filterAfter_eq ha] at hg
  refine ⟨g, hg, hmeaning _ g hn hg, ?_, ?_, ?_⟩
  · intro k g' hk hg' leaf
    rw [hmeaning k g' hk hg', hmeaning _ g hn hg]
  · intro leaf hroot hown
    exact (hmeaning _ g hn hg leaf).2 ⟨hown, fun c hc _ => hroot c hc⟩
  · intro root' hothers
    rw [filterAfter_eq ha, iterate_isolate_congr hfield hothers, ← filterAfter_eq ha, hg]

/-- After two runs a facet of colors with a filter of its own does not see the selected color. -/
theorem filterAfter_means_others_colors :
    let colors : Aggregation := ⟨"color", "Color", .terms 0 [], some (.wildcard "size" "L*")⟩
    let root : Conjunction := ⟨[.term "COLOR" ["red"], .ids ["p1"]]⟩
    let leaf : Filter → Prop := (· ≠ .term "COLOR" ["red"])
    [colors][0]? = some colors ∧ colors.field ≠ "" ∧ 1 ≤ 2 ∧
      ∃ g, filterAfter root 2 [colors] 0 = some g ∧ g.HoldsFor leaf ∧
        filterAfter ⟨[.ids ["p1"]]⟩ 2 [colors] 0 = some g := by
  intro colors root leaf
  have ha : [colors][0]? = some colors := rfl
  have hfield : colors.field ≠ "" := by decide
  have hn : 1 ≤ 2 := by decide
  obtain ⟨g, hg, hmeaning, -, -, hroots⟩ := filterAfter_means_others ha hfield hn root
  refine ⟨ha, hfield, hn, g, hg, (hmeaning leaf).2 ⟨?_, ?_⟩, hroots _ (by decide)⟩
  · intro own hown
    obtain rfl := Option.some.inj hown
    simp [leaf]
  · intro c hc hother
    rcases List.mem_pair.1 hc with rfl | rfl
    · exact absurd (by decide) hother
    · simp [leaf]

end Aggregation

end FacetedSearch
