import FacetedSearch.Text.Octets
import FacetedSearch.Text.Split

/-!
# Parts of texts by octets

A part of a text lies between two places, and a place is the number of octets before it. A place
inside a character or behind the end is none, and nothing can be cut out at such places or at
places in the wrong order.

## Main definitions

* `Text.find?` — the place of the first occurrence of a character.
* `Text.IsCut`, `Text.BadCut` — places that a part lies between, and places that none does.
* `Text.slice` — the part between two places.
-/

namespace FacetedSearch

namespace Text

/-- The place of the first `c`. -/
def find? (c : Char) (cs : List Char) : Option Nat :=
  (cut (· == c) cs).map fun parts => (encode parts.1).length

/-- Places in order, within the text, and not inside a character. -/
structure IsCut (cs : List Char) (start stop : Nat) : Prop where
  ordered : start ≤ stop
  bounded : stop ≤ (encode cs).length
  start_boundary : isBoundary cs start = true
  stop_boundary : isBoundary cs stop = true

instance (cs : List Char) (start stop : Nat) : Decidable (IsCut cs start stop) :=
  decidable_of_iff (start ≤ stop ∧ stop ≤ (encode cs).length ∧ isBoundary cs start = true ∧
      isBoundary cs stop = true)
    ⟨fun ⟨h₁, h₂, h₃, h₄⟩ => ⟨h₁, h₂, h₃, h₄⟩, fun ⟨h₁, h₂, h₃, h₄⟩ => ⟨h₁, h₂, h₃, h₄⟩⟩

/-- Places between which a text was to be cut, and cannot be. -/
structure BadCut where
  start : Nat
  stop : Nat
deriving DecidableEq, Repr

/-- The characters that begin within the first `n` octets, and the others. -/
def splitAt (n : Nat) : List Char → List Char × List Char
  | [] => ([], [])
  | c :: cs =>
    if n = 0 then ([], c :: cs)
    else
      let parts := splitAt (n - (String.utf8EncodeChar c).length) cs
      (c :: parts.1, parts.2)

/-- The part of a text between two places. -/
def slice (cs : List Char) (start stop : Nat) : Except BadCut (List Char) :=
  if IsCut cs start stop then .ok (splitAt start (splitAt stop cs).1).2 else .error ⟨start, stop⟩

example : slice "né".toList 1 3 = .ok ['é'] ∧ slice "né".toList 1 2 = .error ⟨1, 2⟩ :=
  ⟨rfl, rfl⟩

/-! ## Laws -/

variable {cs a b part : List Char} {c : Char} {start stop : Nat}

/-- The octets in front of the first `c` are those of the characters there. -/
theorem find?_append_cons (h : c ∉ a) (b : List Char) :
    find? c (a ++ c :: b) = some (encode a).length := by
  rw [find?, cut_append_cons h, Option.map_some]

theorem find?_eq_none_iff : find? c cs = none ↔ c ∉ cs := by
  rw [find?, Option.map_eq_none_iff, cut_beq_eq_none_iff]

theorem find?_eq_some_iff {n : Nat} :
    find? c cs = some n ↔ ∃ a b, cs = a ++ c :: b ∧ c ∉ a ∧ (encode a).length = n := by
  simp only [find?, Option.map_eq_some_iff, Prod.exists, cut_beq_eq_some_iff, and_assoc]

theorem splitAt_append (a b : List Char) : splitAt (encode a).length (a ++ b) = (a, b) := by
  induction a with
  | nil => cases b <;> rfl
  | cons c a ih =>
    have hne : (encode (c :: a)).length ≠ 0 := by
      simp [-String.length_utf8EncodeChar, String.utf8EncodeChar_ne_nil]
    have hrest : (encode (c :: a)).length - (String.utf8EncodeChar c).length =
        (encode a).length := by
      rw [encode_cons, List.length_append, Nat.add_sub_cancel_left]
    rw [List.cons_append, splitAt, if_neg hne, hrest, ih]

theorem isCut_append (a part b : List Char) :
    IsCut (a ++ part ++ b) (encode a).length (encode (a ++ part)).length where
  ordered := by simp
  bounded := by simp
  start_boundary := by
    rw [List.append_assoc]
    exact isBoundary_append a (part ++ b)
  stop_boundary := isBoundary_append (a ++ part) b

/-- A part lies between two places exactly when a part of the characters does. -/
theorem isCut_iff : IsCut cs start stop ↔ ∃ a part b, cs = a ++ part ++ b ∧
    (encode a).length = start ∧ (encode (a ++ part)).length = stop := by
  constructor
  · rintro ⟨hle, -, hstart, hstop⟩
    obtain ⟨a, rest, hcs, rfl⟩ := isBoundary_iff.1 hstart
    obtain ⟨front, b, rfl, rfl⟩ := isBoundary_iff.1 hstop
    -- Of two beginnings of the octets, the shorter one begins the longer one.
    have hbegins : encode a <+: encode front :=
      List.prefix_of_prefix_length_le (encode_prefix_iff.2 ⟨rest, hcs.symm⟩)
        (encode_prefix_iff.2 (List.prefix_append front b)) hle
    obtain ⟨part, rfl⟩ := encode_prefix_iff.1 hbegins
    exact ⟨a, part, b, rfl, rfl, rfl⟩
  · rintro ⟨a, part, b, rfl, rfl, rfl⟩
    exact isCut_append a part b

theorem slice_append (a part b : List Char) :
    slice (a ++ part ++ b) (encode a).length (encode (a ++ part)).length = .ok part := by
  rw [slice, if_pos (isCut_append a part b), splitAt_append, splitAt_append]

theorem slice_left (a b : List Char) : slice (a ++ b) 0 (encode a).length = .ok a :=
  slice_append [] a b

theorem slice_right (a b : List Char) :
    slice (a ++ b) (encode a).length (encode (a ++ b)).length = .ok b := by
  simpa using slice_append a b []

theorem slice_eq_ok_iff : slice cs start stop = .ok part ↔ ∃ a b, cs = a ++ part ++ b ∧
    (encode a).length = start ∧ (encode (a ++ part)).length = stop := by
  constructor
  · intro h
    by_cases hcut : IsCut cs start stop
    · obtain ⟨a, part', b, rfl, rfl, rfl⟩ := isCut_iff.1 hcut
      rw [slice_append] at h
      exact ⟨a, b, by rw [Except.ok.inj h], rfl, by rw [Except.ok.inj h]⟩
    · rw [slice, if_neg hcut] at h
      contradiction
  · rintro ⟨a, b, rfl, rfl, rfl⟩
    exact slice_append a part b

theorem isCut_of_slice_eq_ok (h : slice cs start stop = .ok part) : IsCut cs start stop := by
  obtain ⟨a, b, rfl, rfl, rfl⟩ := slice_eq_ok_iff.1 h
  exact isCut_append a part b

/-- What is cut out has just the octets between the two places. -/
theorem encode_of_slice_eq_ok (h : slice cs start stop = .ok part) :
    encode part = ((encode cs).take stop).drop start := by
  obtain ⟨a, b, rfl, rfl, rfl⟩ := slice_eq_ok_iff.1 h
  rw [encode_append (a ++ part), List.take_left, encode_append, List.drop_left]

end Text

end FacetedSearch
