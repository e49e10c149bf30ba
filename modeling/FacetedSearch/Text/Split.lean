/-!
# Cutting texts at separators

## Main definitions

* `Text.pieces` — all pieces between separators; there is one more piece than separators.
* `Text.cut` — the parts before and after the first separator.
-/

namespace FacetedSearch

namespace Text

/-- The pieces of a text between the characters that satisfy `sep`, empty ones included. -/
def pieces (sep : Char → Bool) : List Char → List (List Char)
  | [] => [[]]
  | c :: cs =>
    if sep c then [] :: pieces sep cs
    else match pieces sep cs with
      | [] => [[c]]
      | p :: ps => (c :: p) :: ps

/-- The parts before and after the first character that satisfies `sep`. -/
def cut (sep : Char → Bool) : List Char → Option (List Char × List Char)
  | [] => none
  | c :: cs => if sep c then some ([], cs) else (cut sep cs).map fun (a, b) => (c :: a, b)

/-! ## Laws -/

variable {sep : Char → Bool}

@[simp] theorem pieces_ne_nil (cs : List Char) : pieces sep cs ≠ [] := by
  fun_induction pieces sep cs <;> simp

/-- The pieces are those of the list library. -/
theorem pieces_eq_splitOnP (cs : List Char) : pieces sep cs = cs.splitOnP sep := by
  induction cs with
  | nil => rfl
  | cons c cs ih =>
    have hne : pieces sep cs ≠ [] := pieces_ne_nil cs
    rw [List.splitOnP_cons_eq_if_modifyHead, pieces, ← ih]
    cases h : pieces sep cs with
    | nil => exact absurd h hne
    | cons p ps => rfl

/-- A text without separators is its only piece. -/
theorem pieces_eq_singleton {cs : List Char} (h : ∀ c ∈ cs, sep c = false) :
    pieces sep cs = [cs] := by
  induction cs with
  | nil => rfl
  | cons c cs ih => simp_all [pieces]

/-- Cutting distributes over a separator. -/
theorem pieces_append_cons (a b : List Char) {s : Char} (hs : sep s = true) :
    pieces sep (a ++ s :: b) = pieces sep a ++ pieces sep b := by
  induction a with
  | nil => simp [pieces, hs]
  | cons c a ih =>
    by_cases hc : sep c
    · simp [pieces, hc, ih]
    · have : pieces sep a ≠ [] := pieces_ne_nil a
      cases h : pieces sep a <;> simp_all [pieces]

/-- Joined pieces without separators are cut apart again. -/
theorem pieces_intercalate {s : Char} (hs : sep s = true) {parts : List (List Char)}
    (hne : parts ≠ []) (h : ∀ p ∈ parts, ∀ c ∈ p, sep c = false) :
    pieces sep (List.intercalate [s] parts) = parts := by
  induction parts with
  | nil => exact absurd rfl hne
  | cons p parts ih =>
    have hp : pieces sep p = [p] := pieces_eq_singleton (h p List.mem_cons_self)
    cases parts with
    | nil => rw [List.intercalate_singleton, hp]
    | cons q parts =>
      have hrest := ih (by simp) fun r hr => h r (List.mem_cons_of_mem p hr)
      rw [List.intercalate_cons_cons, List.append_assoc, List.singleton_append,
        pieces_append_cons _ _ hs, hp, hrest, List.singleton_append]

/-- No text is lost: the first separator stands between the two parts, and the part before
it has none. -/
theorem cut_eq_some_iff {cs a b : List Char} :
    cut sep cs = some (a, b) ↔ ∃ s, sep s = true ∧ (∀ c ∈ a, sep c = false) ∧ cs = a ++ s :: b := by
  induction cs generalizing a with
  | nil => simp [cut]
  | cons c cs ih =>
    by_cases hc : sep c = true
    · rw [cut, if_pos hc]
      constructor
      · intro h
        obtain ⟨rfl, rfl⟩ := Prod.mk.inj (Option.some.inj h)
        exact ⟨c, hc, by simp, rfl⟩
      · rintro ⟨s, -, ha, h⟩
        cases a with
        | nil => rw [(List.cons.inj h).2]
        | cons x a =>
          have hx := ha x List.mem_cons_self
          rw [← (List.cons.inj h).1, hc] at hx
          contradiction
    · rw [cut, if_neg hc, Option.map_eq_some_iff]
      constructor
      · rintro ⟨⟨p, q⟩, hp, h⟩
        obtain ⟨rfl, rfl⟩ := Prod.mk.inj h
        obtain ⟨s, hs, hq, rfl⟩ := ih.1 hp
        exact ⟨s, hs, by simpa [hc] using hq, rfl⟩
      · rintro ⟨s, hs, ha, h⟩
        cases a with
        | nil =>
          rw [(List.cons.inj h).1] at hc
          contradiction
        | cons x a =>
          obtain ⟨rfl, hcs⟩ := List.cons.inj h
          exact ⟨(a, b), ih.2 ⟨s, hs, fun y hy => ha y (List.mem_cons_of_mem _ hy), hcs⟩, rfl⟩

/-- The first `s` is the one with no `s` before it. -/
theorem cut_beq_eq_some_iff {s : Char} {cs a b : List Char} :
    cut (· == s) cs = some (a, b) ↔ cs = a ++ s :: b ∧ s ∉ a := by
  rw [cut_eq_some_iff]
  simp only [beq_iff_eq, exists_eq_left, beq_eq_false_iff_ne]
  rw [and_comm]
  exact and_congr_right fun _ => ⟨fun h hs => h s hs rfl, fun h c hc hcs => h (hcs ▸ hc)⟩

/-- Parts that are joined at the first separator are cut apart there. -/
theorem cut_append_cons {s : Char} {a : List Char} (h : s ∉ a) (b : List Char) :
    cut (· == s) (a ++ s :: b) = some (a, b) := cut_beq_eq_some_iff.2 ⟨rfl, h⟩

theorem cut_eq_none_iff {cs : List Char} : cut sep cs = none ↔ ∀ c ∈ cs, sep c = false := by
  induction cs with
  | nil => simp [cut]
  | cons c cs ih => by_cases hc : sep c <;> simp_all [cut]

theorem cut_beq_eq_none_iff {s : Char} {cs : List Char} : cut (· == s) cs = none ↔ s ∉ cs := by
  rw [cut_eq_none_iff]
  simp only [beq_eq_false_iff_ne]
  exact ⟨fun h hs => h s hs rfl, fun h c hc hcs => h (hcs ▸ hc)⟩

end Text

end FacetedSearch
