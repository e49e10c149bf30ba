/-!
# Texts as octets

The length of a text and the places where it can be cut are counted in the octets of UTF-8. No
code of a character is the beginning of another one, so beginnings of octet sequences are
beginnings of texts.

## Main definitions

* `Text.encode`, `Text.octets` — the octets of characters, and those of a text.
* `Text.isBoundary` — whether a text can be cut behind a number of octets.
* `Text.lowerOctet` — lower an ASCII capital.
-/

namespace FacetedSearch

namespace Text

/-- The octets of characters, one character after the other. -/
def encode (cs : List Char) : List UInt8 := cs.flatMap String.utf8EncodeChar

def octets (s : String) : List UInt8 := encode s.toList

/-- Whether an octet stands inside a character, behind its first one. -/
def continues (b : UInt8) : Bool := 0x80 ≤ b && b < 0xC0

/-- Whether a text can be cut behind its first `n` octets without cutting a character. -/
def isBoundary (cs : List Char) (n : Nat) : Bool :=
  match (encode cs)[n]? with
  | some b => !continues b
  | none => n == (encode cs).length

/-- Lower an ASCII capital; no octet of another character is one. -/
def lowerOctet (b : UInt8) : UInt8 := if 0x41 ≤ b && b ≤ 0x5A then b + 0x20 else b

/-! ## Codes of characters -/

@[simp] theorem encode_nil : encode [] = [] := rfl

@[simp] theorem encode_cons (c : Char) (cs : List Char) :
    encode (c :: cs) = String.utf8EncodeChar c ++ encode cs := rfl

@[simp] theorem encode_append (a b : List Char) : encode (a ++ b) = encode a ++ encode b :=
  List.flatMap_append

/-- No code is the beginning of another one. -/
theorem eq_of_encodeChar_append {c d : Char} {x y : List UInt8}
    (h : String.utf8EncodeChar c ++ x = String.utf8EncodeChar d ++ y) : c = d := by
  have hc : ((String.utf8EncodeChar c).toByteArray ++ x.toByteArray).utf8DecodeChar? 0 = some c :=
    ByteArray.utf8DecodeChar?_utf8EncodeChar_append
  have hd : ((String.utf8EncodeChar d).toByteArray ++ y.toByteArray).utf8DecodeChar? 0 = some d :=
    ByteArray.utf8DecodeChar?_utf8EncodeChar_append
  rw [← List.toByteArray_append, h, List.toByteArray_append, hd] at hc
  exact (Option.some.inj hc).symm

theorem encode_prefix_iff {a b : List Char} : encode a <+: encode b ↔ a <+: b := by
  refine ⟨fun h => ?_, fun ⟨t, ht⟩ => ⟨encode t, by rw [← ht, encode_append]⟩⟩
  induction a generalizing b with
  | nil => exact List.nil_prefix
  | cons c a ih =>
    cases b with
    | nil => exact absurd (List.prefix_nil.1 h) (by simp [String.utf8EncodeChar_ne_nil])
    | cons d b =>
      obtain ⟨t, ht⟩ := h
      have hcd : c = d := eq_of_encodeChar_append (by simpa using ht)
      subst hcd
      have hab : encode a <+: encode b := ⟨t, by simpa using ht⟩
      exact List.cons_prefix_cons.2 ⟨rfl, ih hab⟩

theorem encode_inj {a b : List Char} : encode a = encode b ↔ a = b := by
  refine ⟨fun h => ?_, fun h => h ▸ rfl⟩
  have hab : a <+: b := encode_prefix_iff.1 (h ▸ List.prefix_refl _)
  have hba : b <+: a := encode_prefix_iff.1 (h ▸ List.prefix_refl _)
  exact hab.eq_of_length_le hba.length_le

/-- A character below 0x80 is its own octet. -/
theorem encodeChar_of_le {c : Char} (h : c.toNat ≤ 0x7F) :
    String.utf8EncodeChar c = [UInt8.ofNat c.toNat] :=
  if_pos h

theorem length_encode_concat {c : Char} (h : c.toNat ≤ 0x7F) (cs : List Char) :
    (encode (cs ++ [c])).length = (encode cs).length + 1 := by
  rw [encode_append, encode_cons, encodeChar_of_le h, List.length_append]
  rfl

/-- The octets of every other character are 0x80 or more. -/
theorem le_of_mem_encodeChar {c : Char} (h : 0x7F < c.toNat) {b : UInt8}
    (hb : b ∈ String.utf8EncodeChar c) : 0x80 ≤ b := by
  have hc : ¬ c.val.toNat ≤ 0x7F := Nat.not_le.2 h
  simp only [String.utf8EncodeChar, if_neg hc] at hb
  rw [UInt8.le_iff_toNat_le]
  split at hb
  · simp only [List.mem_cons, List.not_mem_nil, or_false] at hb
    rcases hb with rfl | rfl <;> simp <;> omega
  · split at hb <;> simp only [List.mem_cons, List.not_mem_nil, or_false] at hb
    · rcases hb with rfl | rfl | rfl <;> simp <;> omega
    · rcases hb with rfl | rfl | rfl | rfl <;> simp <;> omega

/-! ## Letter case -/

theorem toNat_lowerOctet (b : UInt8) : (lowerOctet b).toNat =
    if 0x41 ≤ b.toNat ∧ b.toNat ≤ 0x5A then b.toNat + 0x20 else b.toNat := by
  simp only [lowerOctet, Bool.and_eq_true, decide_eq_true_eq, UInt8.le_iff_toNat_le]
  split
  · rename_i h
    have h' : 0x41 ≤ b.toNat ∧ b.toNat ≤ 0x5A := h
    rw [if_pos h', UInt8.toNat_add, Nat.mod_eq_of_lt]
    · rfl
    · exact Nat.lt_of_le_of_lt (Nat.add_le_add_right h'.2 _) (by decide)
  · rename_i h
    exact (if_neg h).symm

theorem toNat_toLower (c : Char) :
    c.toLower.toNat = if 0x41 ≤ c.toNat ∧ c.toNat ≤ 0x5A then c.toNat + 0x20 else c.toNat := by
  unfold Char.toLower
  simp only [ge_iff_le, UInt32.le_iff_toNat_le]
  split
  · rename_i h
    have h' : 0x41 ≤ c.toNat ∧ c.toNat ≤ 0x5A := h
    rw [if_pos h', ← Char.toNat_val, UInt32.toNat_add, Nat.mod_eq_of_lt]
    · rfl
    · exact Nat.lt_of_le_of_lt (Nat.add_le_add_right h'.2 _) (by decide)
  · rename_i h
    exact (if_neg h).symm

/-- Lowering the octets of a character lowers the character. -/
theorem lower_encodeChar (c : Char) :
    (String.utf8EncodeChar c).map lowerOctet = String.utf8EncodeChar c.toLower := by
  have hlow := toNat_toLower c
  by_cases h : c.toNat ≤ 0x7F
  · rw [encodeChar_of_le h, encodeChar_of_le (by grind), List.map_singleton, List.singleton_inj,
      ← UInt8.toNat_inj, toNat_lowerOctet, UInt8.toNat_ofNat_of_lt' (by grind),
      UInt8.toNat_ofNat_of_lt' (by grind), hlow]
  · have hc : c.toLower = c := Char.toNat_inj.1 (by grind)
    have hoct : ∀ b ∈ String.utf8EncodeChar c, lowerOctet b = b := by
      intro b hb
      have := UInt8.le_iff_toNat_le.1 (le_of_mem_encodeChar (Nat.not_le.1 h) hb)
      exact UInt8.toNat_inj.1 (by grind [toNat_lowerOctet])
    rw [hc, List.map_congr_left hoct, List.map_id'']
    exact fun _ => rfl

theorem lower_encode (cs : List Char) :
    (encode cs).map lowerOctet = encode (cs.map Char.toLower) := by
  induction cs with
  | nil => rfl
  | cons c cs ih => simp [lower_encodeChar, ih]

/-! ## Boundaries -/

theorem exists_head_encodeChar (c : Char) :
    ∃ b rest, String.utf8EncodeChar c = b :: rest ∧ continues b = false := by
  have hfirst (b : UInt8) (hb : b.toNat ≤ 0x7F ∨ 0xC0 ≤ b.toNat) : continues b = false := by
    have h : ¬ (0x80 ≤ b.toNat ∧ b.toNat < 0xC0) := by omega
    simpa [continues, UInt8.le_iff_toNat_le, UInt8.lt_iff_toNat_lt] using h
  unfold String.utf8EncodeChar
  dsimp only
  split
  · rename_i hc
    refine ⟨_, _, rfl, hfirst _ (.inl ?_)⟩
    rwa [UInt8.toNat_ofNat_of_lt' (Nat.lt_of_le_of_lt hc (by decide))]
  · split
    · refine ⟨_, _, rfl, hfirst _ (.inr ?_)⟩
      simp
      omega
    · split <;> refine ⟨_, _, rfl, hfirst _ (.inr ?_)⟩ <;> simp <;> omega

/-- The octets behind the first one of a character are told from first ones. -/
theorem continues_of_mem_tail {c : Char} {b : UInt8} (h : b ∈ (String.utf8EncodeChar c).tail) :
    continues b = true := by
  have hlater (n : Nat) : continues (UInt8.ofNat (n % 0x40 + 0x80)) = true := by
    simp [continues, UInt8.le_iff_toNat_le, UInt8.lt_iff_toNat_lt]
    omega
  unfold String.utf8EncodeChar at h
  dsimp only at h
  split at h
  · simp at h
  · split at h
    · simp only [List.tail_cons, List.mem_singleton] at h
      exact h ▸ hlater _
    · split at h <;> simp only [List.tail_cons, List.mem_cons, List.not_mem_nil, or_false] at h
      · rcases h with rfl | rfl <;> exact hlater _
      · rcases h with rfl | rfl | rfl <;> exact hlater _

theorem isBoundary_of_getElem? {cs : List Char} {n : Nat} {b : UInt8}
    (h : (encode cs)[n]? = some b) : isBoundary cs n = !continues b := by
  rw [isBoundary, h]

/-- A text can be cut behind any beginning of its characters. -/
theorem isBoundary_append (a b : List Char) : isBoundary (a ++ b) (encode a).length = true := by
  cases b with
  | nil => simp [isBoundary]
  | cons c b =>
    obtain ⟨first, more, hcode, hfirst⟩ := exists_head_encodeChar c
    have hget : (encode (a ++ c :: b))[(encode a).length]? = some first := by simp [hcode]
    rw [isBoundary_of_getElem? hget, hfirst, Bool.not_false]

/-- Within the first character there is no place to cut. -/
theorem isBoundary_cons_of_lt {c : Char} {cs : List Char} {n : Nat} (hpos : 0 < n)
    (h : n < (String.utf8EncodeChar c).length) : isBoundary (c :: cs) n = false := by
  have hget : (encode (c :: cs))[n]? = some (String.utf8EncodeChar c)[n] := by
    rw [encode_cons, List.getElem?_append_left h, List.getElem?_eq_getElem h]
  have htail : (String.utf8EncodeChar c)[n] ∈ (String.utf8EncodeChar c).tail := by
    obtain ⟨n, rfl⟩ := Nat.exists_eq_succ_of_ne_zero (Nat.ne_of_gt hpos)
    rw [← List.getElem_tail (by simpa using Nat.lt_sub_of_add_lt h)]
    exact List.getElem_mem _
  rw [isBoundary_of_getElem? hget, continues_of_mem_tail htail, Bool.not_true]

theorem isBoundary_cons_add (c : Char) (cs : List Char) (n : Nat) :
    isBoundary (c :: cs) ((String.utf8EncodeChar c).length + n) = isBoundary cs n := by
  have hget : (encode (c :: cs))[(String.utf8EncodeChar c).length + n]? = (encode cs)[n]? := by
    rw [encode_cons, List.getElem?_append_right (Nat.le_add_right ..), Nat.add_sub_cancel_left]
  rw [isBoundary, isBoundary, hget, encode_cons, List.length_append]
  cases (encode cs)[n]? with
  | some b => rfl
  | none => rw [Bool.eq_iff_iff, beq_iff_eq, beq_iff_eq, Nat.add_left_cancel_iff]

/-- The places to cut are those between characters. -/
theorem isBoundary_iff {cs : List Char} {n : Nat} :
    isBoundary cs n = true ↔ ∃ a b, cs = a ++ b ∧ (encode a).length = n := by
  constructor
  · intro h
    induction cs generalizing n with
    | nil =>
      have hn : n = 0 := by simpa [isBoundary] using h
      exact ⟨[], [], rfl, hn.symm⟩
    | cons c cs ih =>
      rcases Nat.eq_zero_or_pos n with rfl | hpos
      · exact ⟨[], c :: cs, rfl, rfl⟩
      rcases Nat.lt_or_ge n (String.utf8EncodeChar c).length with hlt | hge
      · rw [isBoundary_cons_of_lt hpos hlt] at h
        contradiction
      · obtain ⟨n, rfl⟩ := Nat.exists_eq_add_of_le hge
        rw [isBoundary_cons_add] at h
        obtain ⟨a, b, rfl, rfl⟩ := ih h
        exact ⟨c :: a, b, rfl, by rw [encode_cons, List.length_append]⟩
  · rintro ⟨a, b, rfl, rfl⟩
    exact isBoundary_append a b

end Text

end FacetedSearch
