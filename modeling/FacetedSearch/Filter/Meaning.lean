import FacetedSearch.Filter.Basic

/-!
# What a filter says of a document

A tree of filters holds when its leaves do as its composites ask. Which leaves hold is up to the
document, which is seen through the tests that an index can make on it.

## Main definitions

* `Filter.HoldsFor` — the meaning of a tree, given which leaves hold.
* `Document` — the outcome of every test an index can make.
* `Filter.Holds`, `Conjunction.Holds` — the meaning of a tree and of the root for a document.
-/

namespace FacetedSearch

namespace Filter

mutual

/-- The meaning of a tree when `leaf` tells which leaves hold. -/
def HoldsFor (leaf : Filter → Prop) : Filter → Prop
  | all cs => AllHoldFor leaf cs
  | any cs => AnyHoldsFor leaf cs
  | f => leaf f

/-- Every tree of a list holds. -/
def AllHoldFor (leaf : Filter → Prop) : List Filter → Prop
  | [] => True
  | f :: fs => HoldsFor leaf f ∧ AllHoldFor leaf fs

/-- Some tree of a list holds. -/
def AnyHoldsFor (leaf : Filter → Prop) : List Filter → Prop
  | [] => False
  | f :: fs => HoldsFor leaf f ∨ AnyHoldsFor leaf fs

end

variable {leaf : Filter → Prop}

theorem allHoldFor_iff {fs : List Filter} : AllHoldFor leaf fs ↔ ∀ f ∈ fs, HoldsFor leaf f := by
  induction fs <;> simp_all [AllHoldFor]

theorem anyHoldsFor_iff {fs : List Filter} :
    AnyHoldsFor leaf fs ↔ ∃ f ∈ fs, HoldsFor leaf f := by
  induction fs <;> simp_all [AnyHoldsFor]

@[simp] theorem holdsFor_term (field : String) (values : List String) :
    HoldsFor leaf (term field values) ↔ leaf (term field values) := by simp [HoldsFor]

@[simp] theorem holdsFor_wildcard (field pattern : String) :
    HoldsFor leaf (wildcard field pattern) ↔ leaf (wildcard field pattern) := by simp [HoldsFor]

@[simp] theorem holdsFor_range (field : String) (intervals : List Interval) :
    HoldsFor leaf (range field intervals) ↔ leaf (range field intervals) := by simp [HoldsFor]

@[simp] theorem holdsFor_ids (vs : List String) : HoldsFor leaf (ids vs) ↔ leaf (ids vs) := by
  simp [HoldsFor]

@[simp] theorem holdsFor_all {fs : List Filter} :
    HoldsFor leaf (all fs) ↔ ∀ f ∈ fs, HoldsFor leaf f := by
  rw [HoldsFor, allHoldFor_iff]

@[simp] theorem holdsFor_any {fs : List Filter} :
    HoldsFor leaf (any fs) ↔ ∃ f ∈ fs, HoldsFor leaf f := by
  rw [HoldsFor, anyHoldsFor_iff]

end Filter

/-- A document as an index sees it: which values its fields have, which shapes and intervals
they meet, and which ids are its own. -/
structure Document where
  has : String → String → Prop
  meets : String → String → Prop
  within : String → Interval → Prop
  isOne : String → Prop

/-- The leaves that hold of a document: those of which it passes some test. -/
def Document.passes (d : Document) : Filter → Prop
  | .term field values => ∃ v ∈ values, d.has field v
  | .wildcard field pattern => d.meets field pattern
  | .range field intervals => ∃ i ∈ intervals, d.within field i
  | .ids ids => ∃ v ∈ ids, d.isOne v
  | .all _ | .any _ => False

/-- The meaning of a filter for a document. -/
def Filter.Holds (d : Document) (f : Filter) : Prop := f.HoldsFor d.passes

/-- The root holds when every conjunct does. -/
def Conjunction.Holds (d : Document) (root : Conjunction) : Prop :=
  ∀ f ∈ root.conjuncts, f.Holds d

end FacetedSearch
