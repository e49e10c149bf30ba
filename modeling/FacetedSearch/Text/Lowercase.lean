import FacetedSearch.Text.Blank
import FacetedSearch.Unicode.Case
import FacetedSearch.Unicode.CaseContext

/-!
# Lower-casing a text

Every character is replaced by its lower-case form. Two capitals need more than their own
character: `İ` has a form of two characters, and `Σ` at the end of a word becomes `ς`.

## Main definitions

* `Text.lowerFrom` — lower-case the characters that follow a given reversed beginning.
* `Text.lowercase` — the same for a whole string.
-/

namespace FacetedSearch

namespace Text

/-- Whether the first character that a case rule does not look through is a cased letter. -/
def meetsCased (cs : List Char) : Bool :=
  match cs.dropWhile Unicode.isCaseIgnorable with
  | [] => false
  | c :: _ => Unicode.isCased c

/-- The lower-case form of `c` between `before`, read backwards, and `after`. -/
def lowerBetween (before : List Char) (c : Char) (after : List Char) : List Char :=
  if c = 'Σ' then [if meetsCased before && !meetsCased after then 'ς' else 'σ']
  else if c = 'İ' then ['i', Char.ofNat 0x307]
  else [Unicode.lower c]

def lowerFrom (before : List Char) : List Char → List Char
  | [] => []
  | c :: cs => lowerBetween before c cs ++ lowerFrom (c :: before) cs

def lowercase (s : String) : String := String.ofList (lowerFrom [] s.toList)

example : lowercase "EN-us ΟΔΟΣ Σ. Straße" = "en-us οδος σ. straße" := by decide +kernel

/-! ## Texts without sigma -/

theorem lowerBetween_of_ne {c : Char} (h : c ≠ 'Σ') (before after : List Char) :
    lowerBetween before c after = lowerBetween [] c [] := by
  rw [lowerBetween, if_neg h, lowerBetween, if_neg h]

/-- Without `Σ` every character is lower-cased on its own. -/
theorem lowerFrom_eq_flatMap {cs : List Char} (h : 'Σ' ∉ cs) (before : List Char) :
    lowerFrom before cs = cs.flatMap fun c => lowerBetween [] c [] := by
  induction cs generalizing before with
  | nil => rfl
  | cons c cs ih =>
    rw [List.mem_cons, not_or] at h
    rw [lowerFrom, lowerBetween_of_ne (Ne.symm h.1), ih h.2, List.flatMap_cons]

theorem lowercase_append {s t : String} (hs : 'Σ' ∉ s.toList) (ht : 'Σ' ∉ t.toList) :
    lowercase (s ++ t) = lowercase s ++ lowercase t := by
  have hst : 'Σ' ∉ s.toList ++ t.toList := by simp [hs, ht]
  rw [lowercase, lowercase, lowercase, String.toList_append, lowerFrom_eq_flatMap hst,
    lowerFrom_eq_flatMap hs, lowerFrom_eq_flatMap ht, List.flatMap_append, String.ofList_append]

/-! ## Blank characters -/

/-- The first and the last code points of the spans of blank characters. -/
def blankSpans : List (Nat × Nat) :=
  [(0x09, 0x0D), (0x20, 0x20), (0x85, 0x85), (0xA0, 0xA0), (0x1680, 0x1680), (0x2000, 0x200A),
   (0x2028, 0x2029), (0x202F, 0x202F), (0x205F, 0x205F), (0x3000, 0x3000)]

theorem isBlank_iff_exists_span {c : Char} :
    isBlank c = true ↔ ∃ span ∈ blankSpans, span.1 ≤ c.toNat ∧ c.toNat ≤ span.2 := by
  simp only [isBlank, blankSpans, Bool.or_eq_true, Bool.and_eq_true, decide_eq_true_eq, beq_iff_eq,
    List.mem_cons, List.not_mem_nil, or_false, exists_eq_or_imp, exists_eq_left]
  omega

/-- No run of letters meets a span of blank characters, and neither do the lower-case forms. -/
theorem lowerRuns_avoid_blankSpans : ∀ r ∈ Unicode.lowerRuns, ∀ span ∈ blankSpans,
    (r.last < span.1 ∨ span.2 < r.first) ∧
      (r.image + (r.last - r.first) < span.1 ∨ span.2 < r.image) := by
  decide +kernel

theorem isBlank_lower (c : Char) : isBlank (Unicode.lower c) = isBlank c := by
  unfold Unicode.lower
  cases h : Unicode.lowerRuns.findSome? (·.apply c.toNat) with
  | none => rfl
  | some n =>
    obtain ⟨r, hr, hn⟩ := List.exists_of_findSome?_eq_some h
    obtain ⟨⟨hfirst, hlast, -⟩, rfl⟩ : (r.first ≤ c.toNat ∧ c.toNat ≤ r.last ∧ _) ∧ _ = n := by
      simpa [Unicode.CaseRun.apply] using hn
    have hc : isBlank c = false := by
      rw [← Bool.not_eq_true, isBlank_iff_exists_span]
      rintro ⟨span, hspan, hlo, hhi⟩
      have hapart := (lowerRuns_avoid_blankSpans r hr span hspan).1
      omega
    have himage : isBlank (Char.ofNat (r.image + (c.toNat - r.first))) = false := by
      rw [← Bool.not_eq_true, isBlank_iff_exists_span,
        Unicode.toNat_ofNat_eq_ite]
      split
      · rintro ⟨span, hspan, hlo, hhi⟩
        have hapart := (lowerRuns_avoid_blankSpans r hr span hspan).2
        omega
      · decide
    rw [himage, hc]

/-- The special forms, too, are blank only when the character is. -/
theorem all_isBlank_lowerBetween (before after : List Char) (c : Char) :
    (lowerBetween before c after).all isBlank = isBlank c := by
  unfold lowerBetween
  split
  · rename_i h
    subst h
    split <;> decide
  · split
    · rename_i h
      subst h
      decide
    · simp [isBlank_lower]

theorem all_isBlank_lowerFrom (before cs : List Char) :
    (lowerFrom before cs).all isBlank = cs.all isBlank := by
  induction cs generalizing before with
  | nil => rfl
  | cons c cs ih =>
    rw [lowerFrom, List.all_append, all_isBlank_lowerBetween, ih, List.all_cons]

/-- A lower-cased text is blank exactly when the text is. -/
@[simp] theorem blank_lowercase (s : String) : blank (lowercase s) = blank s := by
  rw [blank, lowercase, String.toList_ofList, all_isBlank_lowerFrom, blank]

end Text

end FacetedSearch
