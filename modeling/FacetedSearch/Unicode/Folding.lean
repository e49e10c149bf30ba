import FacetedSearch.Unicode.Case

/-!
# Case variants

The variants of a character are all the characters that fold as it does. Of the characters that
are not ASCII only two fold to an ASCII character: the long s and the Kelvin sign.
-/

namespace FacetedSearch

namespace Unicode

/-- A character folds to itself or through a run. -/
theorem foldCase_eq_or (c : Char) :
    foldCase c = c ∨
      ∃ r ∈ foldRuns ++ lowerRuns, ∃ n, r.apply c.toNat = some n ∧ foldCase c = Char.ofNat n := by
  unfold foldCase
  cases hfold : foldRuns.findSome? (·.apply c.toNat) with
  | some n =>
    obtain ⟨r, hr, hn⟩ := List.exists_of_findSome?_eq_some hfold
    exact .inr ⟨r, List.mem_append_left _ hr, n, hn, rfl⟩
  | none =>
    unfold lower
    cases hlower : lowerRuns.findSome? (·.apply c.toNat) with
    | some n =>
      obtain ⟨r, hr, hn⟩ := List.exists_of_findSome?_eq_some hlower
      exact .inr ⟨r, List.mem_append_right _ hr, n, hn, rfl⟩
    | none => exact .inl rfl

theorem CaseRun.apply_eq_some_iff {r : CaseRun} {m n : Nat} :
    r.apply m = some n ↔ r.first ≤ m ∧ m ≤ r.last ∧ (m - r.first) % r.step = 0 ∧
      r.image + (m - r.first) = n := by
  simp [apply, and_assoc]

/-- The images of runs are characters. -/
theorem toNat_ofNat_of_apply {r : CaseRun} (hr : r ∈ foldRuns ++ lowerRuns) {m n : Nat}
    (h : r.apply m = some n) : (Char.ofNat n).toNat = n := by
  have himages : ∀ r ∈ foldRuns ++ lowerRuns, r.image + (r.last - r.first) < 0xD800 ∨
      0xDFFF < r.image ∧ r.image + (r.last - r.first) < 0x110000 := by decide +kernel
  obtain ⟨hfirst, hlast, -, rfl⟩ := CaseRun.apply_eq_some_iff.1 h
  have himage := himages r hr
  have hvalid : (r.image + (m - r.first)).isValidChar := by
    unfold Nat.isValidChar
    omega
  rw [toNat_ofNat_eq_ite, if_pos hvalid]

theorem mem_variants_iff {c d : Char} : d ∈ variants c ↔ foldCase d = foldCase c := by
  simp only [variants, List.mem_filter, beq_iff_eq, and_iff_right_iff_imp]
  intro h
  rcases foldCase_eq_or d with hself | ⟨r, hr, n, hn, hd⟩
  · exact List.mem_cons.2 (.inl (hself.symm.trans h))
  · have hsource : r.source (foldCase c).toNat = some d.toNat := by
      rw [CaseRun.source_eq_some_iff, hn, ← h, hd, toNat_ofNat_of_apply hr hn]
    refine List.mem_cons_of_mem _ (List.mem_map.2 ⟨d.toNat, ?_, Char.ofNat_toNat d⟩)
    exact List.mem_filterMap.2 ⟨r, hr, hsource⟩

theorem foldCase_of_ascii {c : Char} (h : c.toNat < 128) : foldCase c = c.toLower := by
  have hall : ∀ n < 128, foldCase (Char.ofNat n) = (Char.ofNat n).toLower := by decide +kernel
  simpa using hall c.toNat h

/-- What folds to an ASCII character is one, or the long s or the Kelvin sign. -/
theorem ascii_of_foldCase {c : Char} (h : (foldCase c).toNat < 128) :
    c.toNat < 128 ∨ c = 'ſ' ∨ c = '\u212a' := by
  have hruns : ∀ r ∈ foldRuns ++ lowerRuns, r.image < 128 →
      r.last < 128 ∨ r.first = r.last ∧ (r.first = 0x17F ∨ r.first = 0x212A) := by decide +kernel
  rcases foldCase_eq_or c with hself | ⟨r, hr, n, hn, hc⟩
  · exact .inl (hself ▸ h)
  · rw [hc, toNat_ofNat_of_apply hr hn] at h
    obtain ⟨hfirst, hlast, -, rfl⟩ := CaseRun.apply_eq_some_iff.1 hn
    rcases hruns r hr (by omega) with hascii | ⟨hone, hs | hk⟩
    · exact .inl (by omega)
    · exact .inr (.inl (Char.toNat_inj.1 (by rw [show c.toNat = 0x17F by omega]; rfl)))
    · exact .inr (.inr (Char.toNat_inj.1 (by rw [show c.toNat = 0x212A by omega]; rfl)))

end Unicode

end FacetedSearch
