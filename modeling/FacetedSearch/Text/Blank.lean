import FacetedSearch.Text.Split

/-!
# White space

A character is blank when it has the Unicode property `White_Space`. Trimming and the
splitting of keywords go by this property; a zero-width space (U+200B) or a byte order
mark (U+FEFF) is not blank.

## Main definitions

* `Text.isBlank` — the property itself.
* `Text.strip`, `Text.trim` — a text without its blank ends, on characters and on strings.
* `Text.words` — the non-blank runs of a text.
-/

namespace FacetedSearch

namespace Text

/-- The property `White_Space`: 25 code points. -/
def isBlank (c : Char) : Bool :=
  let n := c.toNat
  (9 ≤ n && n ≤ 13) || n == 0x20 || n == 0x85 || n == 0xA0 || n == 0x1680 ||
    (0x2000 ≤ n && n ≤ 0x200A) || n == 0x2028 || n == 0x2029 || n == 0x202F ||
    n == 0x205F || n == 0x3000

/-- Drop the blank characters at the end. -/
def stripEnd (cs : List Char) : List Char := (cs.reverse.dropWhile isBlank).reverse

/-- Drop the blank characters at both ends. -/
def strip (cs : List Char) : List Char := stripEnd (cs.dropWhile isBlank)

def trim (s : String) : String := String.ofList (strip s.toList)

/-- A text of blank characters only, such as the empty one. -/
def blank (s : String) : Bool := s.toList.all isBlank

/-! ## words -/

/-- The runs of characters that are not blank, in order. -/
def words (s : String) : List String :=
  ((pieces isBlank s.toList).filter (!·.isEmpty)).map String.ofList

/-! ## Laws -/

theorem not_mem_of_blank {s : String} {c : Char} (h : blank s = true) (hc : isBlank c = false) :
    c ∉ s.toList := by
  intro hmem
  have hblank : isBlank c = true := List.all_eq_true.1 h c hmem
  rw [hc] at hblank
  contradiction

theorem dropWhile_isBlank_eq_nil_iff (cs : List Char) :
    cs.dropWhile isBlank = [] ↔ cs.all isBlank = true := by
  induction cs with
  | nil => simp
  | cons c cs ih => by_cases h : isBlank c <;> simp_all

theorem all_isBlank_dropWhile (cs : List Char) :
    (cs.dropWhile isBlank).all isBlank = cs.all isBlank := by
  induction cs with
  | nil => simp
  | cons c cs ih => by_cases h : isBlank c <;> simp_all

theorem stripEnd_eq_nil_iff (cs : List Char) : stripEnd cs = [] ↔ cs.all isBlank = true := by
  rw [stripEnd, List.reverse_eq_nil_iff, dropWhile_isBlank_eq_nil_iff, List.all_reverse]

theorem strip_eq_nil_iff (cs : List Char) : strip cs = [] ↔ cs.all isBlank = true := by
  rw [strip, stripEnd_eq_nil_iff, all_isBlank_dropWhile]

@[simp] theorem trim_eq_empty_iff (s : String) : trim s = "" ↔ blank s = true := by
  rw [blank, ← strip_eq_nil_iff, trim, ← String.toList_inj, String.toList_ofList]
  rfl

theorem isBlank_of_mem_head?_dropWhile {cs : List Char} {c : Char}
    (h : c ∈ (cs.dropWhile isBlank).head?) : isBlank c = false := by
  have hhead := List.head?_dropWhile_not isBlank cs
  rwa [Option.mem_def.1 h] at hhead

theorem dropWhile_isBlank_eq_self {cs : List Char} (h : ∀ c ∈ cs.head?, isBlank c = false) :
    cs.dropWhile isBlank = cs := by
  cases cs with
  | nil => rfl
  | cons c cs => exact List.dropWhile_cons_of_neg (by simp [h c rfl])

theorem dropWhile_isBlank_eq_self_iff {cs : List Char} :
    cs.dropWhile isBlank = cs ↔ ∀ c ∈ cs.head?, isBlank c = false := by
  refine ⟨fun h => ?_, dropWhile_isBlank_eq_self⟩
  rw [← h]
  exact fun _ => isBlank_of_mem_head?_dropWhile

theorem stripEnd_eq_self_iff {cs : List Char} :
    stripEnd cs = cs ↔ ∀ c ∈ cs.getLast?, isBlank c = false := by
  rw [← List.head?_reverse, ← dropWhile_isBlank_eq_self_iff, stripEnd, List.reverse_eq_iff]

theorem stripEnd_stripEnd (cs : List Char) : stripEnd (stripEnd cs) = stripEnd cs := by
  rw [stripEnd, stripEnd, List.reverse_reverse,
    dropWhile_isBlank_eq_self fun _ => isBlank_of_mem_head?_dropWhile]

theorem stripEnd_append (a b : List Char) :
    stripEnd (a ++ b) = if stripEnd b = [] then stripEnd a else a ++ stripEnd b := by
  rw [stripEnd, List.reverse_append, List.dropWhile_append]
  by_cases h : b.reverse.dropWhile isBlank = []
  · have hb : stripEnd b = [] := List.reverse_eq_nil_iff.2 h
    rw [if_pos (by simp [h]), if_pos hb, stripEnd]
  · have hb : stripEnd b ≠ [] := mt List.reverse_eq_nil_iff.1 h
    rw [if_neg (by simpa using h), if_neg hb, List.reverse_append, List.reverse_reverse, stripEnd]

theorem stripEnd_isPrefix (cs : List Char) : stripEnd cs <+: cs := by
  rw [stripEnd, ← List.reverse_suffix, List.reverse_reverse]
  exact List.dropWhile_suffix isBlank

theorem strip_sublist (cs : List Char) : (strip cs).Sublist cs :=
  (stripEnd_isPrefix _).sublist.trans (List.dropWhile_suffix isBlank).sublist

/-- A text is stripped when neither its first nor its last character is blank. -/
theorem strip_eq_self_iff {cs : List Char} : strip cs = cs ↔
    (∀ c ∈ cs.head?, isBlank c = false) ∧ ∀ c ∈ cs.getLast?, isBlank c = false := by
  rw [← dropWhile_isBlank_eq_self_iff, ← stripEnd_eq_self_iff]
  constructor
  · intro h
    have hsuffix : cs.dropWhile isBlank <:+ cs := List.dropWhile_suffix isBlank
    have hlength : cs.length ≤ (cs.dropWhile isBlank).length :=
      calc cs.length = (strip cs).length := by rw [h]
        _ ≤ (cs.dropWhile isBlank).length := (stripEnd_isPrefix _).length_le
    have hfront : cs.dropWhile isBlank = cs :=
      hsuffix.eq_of_length (Nat.le_antisymm hsuffix.length_le hlength)
    refine ⟨hfront, ?_⟩
    rwa [strip, hfront] at h
  · rintro ⟨hfront, hback⟩
    rw [strip, hfront, hback]

/-- A stripped text has no blank ends. -/
theorem strip_strip (cs : List Char) : strip (strip cs) = strip cs := by
  have hhead : ∀ c ∈ (strip cs).head?, isBlank c = false := by
    intro c hc
    -- What is stripped at the end leaves the first character in its place.
    obtain ⟨rest, hrest⟩ := stripEnd_isPrefix (cs.dropWhile isBlank)
    have hfirst : c ∈ (cs.dropWhile isBlank).head? := by
      rw [← hrest, List.head?_append, Option.mem_def]
      exact Option.or_eq_some_iff.2 (.inl hc)
    exact isBlank_of_mem_head?_dropWhile hfirst
  calc strip (strip cs) = stripEnd (strip cs) := by rw [strip, dropWhile_isBlank_eq_self hhead]
    _ = strip cs := stripEnd_stripEnd _

theorem trim_eq_self_iff {s : String} : trim s = s ↔ strip s.toList = s.toList := by
  rw [trim, ← String.toList_inj, String.toList_ofList]

@[simp] theorem trim_trim (s : String) : trim (trim s) = trim s := by
  rw [trim, trim, String.toList_ofList, strip_strip]

theorem strip_append_of_all {cs post : List Char} (h : post.all isBlank = true) :
    strip (cs ++ post) = strip cs := by
  rw [strip, strip, List.dropWhile_append]
  split
  · rename_i hcs
    rw [(dropWhile_isBlank_eq_nil_iff post).2 h, List.isEmpty_iff.1 hcs]
  · rw [stripEnd_append, if_pos ((stripEnd_eq_nil_iff post).2 h)]

/-- Stripping takes away what is blank around a text. -/
theorem strip_surrounded {pre cs post : List Char} (hpre : pre.all isBlank = true)
    (hpost : post.all isBlank = true) : strip (pre ++ cs ++ post) = strip cs := by
  rw [strip_append_of_all hpost, strip, List.dropWhile_append_of_pos (List.all_eq_true.1 hpre),
    strip]

theorem strip_cons_of_isBlank {c : Char} (h : isBlank c = true) (cs : List Char) :
    strip (c :: cs) = strip cs := by
  rw [strip, List.dropWhile_cons_of_pos h, strip]

theorem strip_stripEnd (cs : List Char) : strip (stripEnd cs) = strip cs := by
  have hblank : (cs.reverse.takeWhile isBlank).reverse.all isBlank = true := by
    rw [List.all_reverse, List.all_takeWhile]
  calc strip (stripEnd cs) = strip (stripEnd cs ++ (cs.reverse.takeWhile isBlank).reverse) :=
        (strip_append_of_all hblank).symm
    _ = strip cs := by
      rw [stripEnd, ← List.reverse_append, List.takeWhile_append_dropWhile, List.reverse_reverse]

/-- What is stripped at the end of a text leaves its first character, or nothing that counts. -/
theorem stripEnd_cons_cases (c : Char) (cs : List Char) :
    stripEnd (c :: cs) = [] ∧ strip cs = [] ∨
      ∃ rest, stripEnd (c :: cs) = c :: rest ∧ strip rest = strip cs := by
  rw [← List.singleton_append, stripEnd_append]
  split
  · rename_i hcs
    have hstrip : strip cs = [] := (strip_eq_nil_iff cs).2 ((stripEnd_eq_nil_iff cs).1 hcs)
    by_cases hc : isBlank c = true
    · exact .inl ⟨(stripEnd_eq_nil_iff [c]).2 (by simp [hc]), hstrip⟩
    · exact .inr ⟨[], stripEnd_eq_self_iff.2 (by simpa using hc), hstrip.symm⟩
  · exact .inr ⟨stripEnd cs, rfl, strip_stripEnd cs⟩

/-- Behind a stripped text only the end is stripped. -/
theorem strip_append {a : List Char} (ha : a ≠ []) (h : strip a = a) (b : List Char) :
    strip (a ++ b) = a ++ stripEnd b := by
  obtain ⟨hfront, hback⟩ := strip_eq_self_iff.1 h
  have hhead : ∀ c ∈ (a ++ b).head?, isBlank c = false := by
    rw [List.head?_append, List.head?_eq_some_head ha, Option.some_or,
      ← List.head?_eq_some_head ha]
    exact hfront
  rw [strip, dropWhile_isBlank_eq_self hhead, stripEnd_append]
  split
  · rename_i hb
    rw [hb, List.append_nil, stripEnd_eq_self_iff.2 hback]
  · rfl

theorem strip_eq_self {cs : List Char} (h : ∀ c ∈ cs, isBlank c = false) : strip cs = cs :=
  strip_eq_self_iff.2
    ⟨fun c hc => h c (List.mem_of_mem_head? hc), fun c hc => h c (List.mem_of_mem_getLast? hc)⟩

theorem head?_strip_cons {c : Char} (h : isBlank c = false) (cs : List Char) :
    (strip (c :: cs)).head? = some c := by
  have hc : strip [c] = [c] := strip_eq_self (by simpa using h)
  rw [← List.singleton_append, strip_append (List.cons_ne_nil c []) hc]
  rfl

theorem trim_padded {pre s post : String} (hpre : blank pre = true)
    (hs : ∀ c ∈ s.toList, isBlank c = false) (hpost : blank post = true) :
    trim (pre ++ s ++ post) = s := by
  rw [trim, String.toList_append, String.toList_append, strip_surrounded hpre hpost,
    strip_eq_self hs, String.ofList_toList]

theorem trim_eq_self {s : String} (h : ∀ c ∈ s.toList, isBlank c = false) : trim s = s :=
  trim_eq_self_iff.2 (strip_eq_self h)

end Text

end FacetedSearch
