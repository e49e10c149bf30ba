import FacetedSearch.Text.Slice

/-!
# Comparing names without regard to letter case

Field names, facet values and sort directions are compared letter by letter after the
26 ASCII capitals are lowered. All other characters count as they stand, so `É` and `é`
are different names here.

A beginning is looked for in the octets of a name, whose characters differ in length.

## Main definitions

* `Text.fold` — the characters that such a comparison looks at.
* `Text.checkStart` — the comparison of octets that decides on a beginning.
* `Text.same`, `Text.startsWith` — equality and initial segment under folding.
-/

namespace FacetedSearch

namespace Text

/-- The characters of `s` with ASCII capitals lowered. `Char.toLower` changes no other
character. -/
def fold (s : String) : List Char := s.toList.map Char.toLower

/-- Equality up to ASCII case. -/
def same (a b : String) : Bool := fold a == fold b

/-- Whether `s` begins with `start`, up to ASCII case. The beginning is cut out only when `s` is
long enough and can be cut at the length of `start`. -/
def checkStart (s start : String) : Except BadCut Bool :=
  let n := (octets start).length
  if n ≤ (octets s).length && isBoundary s.toList n then do
    let front ← slice s.toList 0 n
    return (encode front).map lowerOctet == (octets start).map lowerOctet
  else return false

/-- Whether `s` begins with `start`, up to ASCII case. -/
def startsWith (s start : String) : Bool :=
  match checkStart s start with
  | .ok begins => begins
  | .error _ => false

@[simp] theorem same_self (a : String) : same a a = true := by simp [same]

theorem same_iff {a b : String} : same a b = true ↔ fold a = fold b := by simp [same]

theorem same_comm (a b : String) : same a b = same b a := by
  rw [Bool.eq_iff_iff, same_iff, same_iff, eq_comm]

theorem same_trans {a b c : String} (h : same a b = true) (h' : same b c = true) :
    same a c = true := same_iff.2 ((same_iff.1 h).trans (same_iff.1 h'))

theorem length_of_same {a b : String} (h : same a b = true) : a.toList.length = b.toList.length := by
  simpa [fold] using congrArg List.length (same_iff.1 h)

/-! ## Letters -/

theorem isAlpha_iff {c : Char} : c.isAlpha = true ↔
    0x41 ≤ c.toNat ∧ c.toNat ≤ 0x5A ∨ 0x61 ≤ c.toNat ∧ c.toNat ≤ 0x7A := by
  have hupper : c.isUpper = true ↔ 0x41 ≤ c.toNat ∧ c.toNat ≤ 0x5A := decide_eq_true_iff
  have hlower : c.isLower = true ↔ 0x61 ≤ c.toNat ∧ c.toNat ≤ 0x7A :=
    Bool.and_eq_true_iff.trans (and_congr decide_eq_true_iff decide_eq_true_iff)
  exact Bool.or_eq_true_iff.trans (or_congr hupper hlower)

theorem isAlpha_toLower (c : Char) : c.toLower.isAlpha = c.isAlpha := by
  rw [Bool.eq_iff_iff, isAlpha_iff, isAlpha_iff, toNat_toLower]
  split <;> omega

/-! ## Beginnings -/

theorem lower_octets (s : String) : (octets s).map lowerOctet = encode (fold s) :=
  lower_encode s.toList

/-- Texts that differ in ASCII case only have the same number of octets. -/
theorem length_encode_of_lower_eq {a : List Char} {s : String} (h : a.map Char.toLower = fold s) :
    (encode a).length = (octets s).length := by
  rw [← List.length_map (f := lowerOctet), lower_encode, h, ← lower_octets, List.length_map]

/-- A beginning in characters ends at a place to cut. -/
theorem exists_append_of_isPrefix {s start : String} (h : fold start <+: fold s) :
    ∃ a b, s.toList = a ++ b ∧ (encode a).length = (octets start).length := by
  obtain ⟨a, ⟨b, hs⟩, ha⟩ := List.prefix_map_iff.1 h
  exact ⟨a, b, hs.symm, length_encode_of_lower_eq ha.symm⟩

/-- Octets that are cut out at the length of `start` are those of `start` up to ASCII case exactly
when the characters are. -/
theorem lower_encode_eq_iff {s start : String} {a b : List Char} (hs : s.toList = a ++ b)
    (hlen : (encode a).length = (octets start).length) :
    (encode a).map lowerOctet = (octets start).map lowerOctet ↔ fold start <+: fold s := by
  have hfold : fold s = a.map Char.toLower ++ b.map Char.toLower := by
    rw [fold, hs, List.map_append]
  rw [lower_octets, lower_encode, encode_inj]
  constructor
  · intro h
    rw [hfold, h]
    exact List.prefix_append ..
  · intro h
    have hlower : (encode (fold start)).length = (encode (a.map Char.toLower)).length := by
      rw [← lower_octets, ← lower_encode, List.length_map, List.length_map, hlen]
    have hbegins : encode (fold start) <+: encode (a.map Char.toLower) :=
      List.prefix_of_prefix_length_le (encode_prefix_iff.2 h)
        (encode_prefix_iff.2 (hfold ▸ List.prefix_append ..)) (Nat.le_of_eq hlower)
    exact (encode_inj.1 (hbegins.eq_of_length hlower)).symm

/-- The comparison of octets cuts nothing that cannot be cut, and finds the beginnings in
characters. -/
theorem checkStart_eq (s start : String) :
    checkStart s start = .ok (decide (fold start <+: fold s)) := by
  unfold checkStart
  dsimp only
  split
  · rename_i hguard
    obtain ⟨a, b, hs, hlen⟩ := isBoundary_iff.1 (Bool.and_eq_true_iff.1 hguard).2
    have hslice : slice s.toList 0 (octets start).length = .ok a := by
      rw [hs, ← hlen, slice_left]
    rw [hslice]
    refine congrArg Except.ok ?_
    rw [Bool.eq_iff_iff, beq_iff_eq, decide_eq_true_iff, lower_encode_eq_iff hs hlen]
  · rename_i hguard
    refine congrArg Except.ok (Eq.symm (decide_eq_false fun hbegins => hguard ?_))
    obtain ⟨a, b, hs, hlen⟩ := exists_append_of_isPrefix hbegins
    rw [← hlen, octets, hs, isBoundary_append]
    simp

theorem startsWith_iff {s start : String} :
    startsWith s start = true ↔ fold start <+: fold s := by
  rw [startsWith, checkStart_eq]
  exact decide_eq_true_iff

@[simp] theorem startsWith_self (s : String) : startsWith s s = true :=
  startsWith_iff.2 (List.prefix_refl _)

end Text

end FacetedSearch
