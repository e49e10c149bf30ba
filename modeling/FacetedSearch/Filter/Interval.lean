import FacetedSearch.Text.Blank

/-!
# Intervals of values

Bounds are texts, since only the index knows how to compare the values of a field; a missing
bound leaves its side open.

## Main definitions

* `Interval` — two optional bounds and whether each belongs to the interval.
* `Interval.canonical` — the written form, such as `[10 TO 20)`.
* `Interval.sameBounds` — equality up to blank ends of the bounds.
-/

namespace FacetedSearch

structure Interval where
  lower : Option String
  upper : Option String
  includeLower : Bool
  includeUpper : Bool
deriving DecidableEq, Repr

namespace Interval

/-- The half-open interval from `lo` up to `hi`, the usual shape of a price bucket. -/
def between (lo hi : String) : Interval := ⟨some lo, some hi, true, false⟩

/-- All values from `lo` on. -/
def atLeast (lo : String) : Interval := ⟨some lo, none, true, false⟩

/-- All values before `hi`. -/
def below (hi : String) : Interval := ⟨none, some hi, false, false⟩

/-- The characters of a bound; an open side has none. -/
def boundChars (bound : Option String) : List Char := (bound.getD "").toList

/-- The written form as characters: bracket, bound, ` TO `, bound, bracket. -/
def chars (i : Interval) : List Char :=
  (if i.includeLower then '[' else '(') ::
    (boundChars i.lower ++ " TO ".toList ++ boundChars i.upper ++
      [if i.includeUpper then ']' else ')'])

def canonical (i : Interval) : String := String.ofList i.chars

/-- What a bound says: blank ends do not count, and a blank bound is none. -/
def effectiveBound (bound : Option String) : Option String :=
  (bound.map Text.trim).filter (· ≠ "")

def sameBounds (i j : Interval) : Bool :=
  effectiveBound i.lower == effectiveBound j.lower &&
    effectiveBound i.upper == effectiveBound j.upper &&
    i.includeLower == j.includeLower && i.includeUpper == j.includeUpper

theorem sameBounds_iff {i j : Interval} :
    i.sameBounds j = true ↔
      effectiveBound i.lower = effectiveBound j.lower ∧
        effectiveBound i.upper = effectiveBound j.upper ∧
        i.includeLower = j.includeLower ∧ i.includeUpper = j.includeUpper := by
  simp [sameBounds, and_assoc]

@[simp] theorem sameBounds_self (i : Interval) : i.sameBounds i = true :=
  sameBounds_iff.2 ⟨rfl, rfl, rfl, rfl⟩

end Interval

end FacetedSearch
