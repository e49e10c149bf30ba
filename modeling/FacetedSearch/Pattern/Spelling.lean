import FacetedSearch.Pattern.Complete
import FacetedSearch.Text.Letters
import FacetedSearch.Unicode.Folding

/-!
# Patterns that spell a text

A pattern without operators matches the texts that fold as it does, character by character.

## Main definitions

* `Text.Spells` — equality up to case folding.
* `Unicode.variesInAscii` — all variants of a character are ASCII.
* `Node.letters` — the literals of a text in a pattern.
* `Node.anchored` — a pattern that begins at the start of a text with the literals of a word.
* `Node.Takes` — the texts that a part of a pattern takes up.
-/

namespace FacetedSearch

/-- The texts that fold as `word` does, character by character. -/
def Text.Spells (word cs : List Char) : Prop :=
  cs.map Unicode.foldCase = word.map Unicode.foldCase

theorem Text.Spells.length_eq {word cs : List Char} (h : Text.Spells word cs) :
    cs.length = word.length := by
  simpa using congrArg List.length h

theorem Text.spells_append_iff {v w cs : List Char} :
    Text.Spells (v ++ w) cs ↔ ∃ a b, cs = a ++ b ∧ Text.Spells v a ∧ Text.Spells w b := by
  simp only [Text.Spells, List.map_append, List.map_eq_append_iff]

theorem CharSet.contains_anyCase {set : CharSet} {c : Char} :
    (anyCase set).contains c = true ↔
      ∃ d, Unicode.foldCase d = Unicode.foldCase c ∧ set.contains d = true := by
  simp [contains, Unicode.mem_variants_iff]

/-- Whether all variants of a character are ASCII. Of the letters, `s` and `k` have other ones. -/
def Unicode.variesInAscii (c : Char) : Bool :=
  c.toNat < 128 && c.toLower != 's' && c.toLower != 'k'

theorem Unicode.foldCase_eq_iff_of_ascii {c d : Char} (h : variesInAscii c = true) :
    foldCase d = foldCase c ↔ d.toLower = c.toLower := by
  obtain ⟨⟨hc, hs⟩, hk⟩ : (c.toNat < 128 ∧ c.toLower ≠ 's') ∧ c.toLower ≠ 'k' := by
    simpa [variesInAscii] using h
  have hlow : c.toLower.toNat < 128 := by
    rw [Text.toNat_toLower]
    split <;> omega
  rw [foldCase_of_ascii hc]
  by_cases hd : d.toNat < 128
  · rw [foldCase_of_ascii hd]
  · constructor
    · intro h
      rcases ascii_of_foldCase (h ▸ hlow) with hascii | rfl | rfl
      · exact absurd hascii hd
      · exact absurd h.symm hs
      · exact absurd h.symm hk
    · intro h
      have hd' := Text.toNat_toLower d
      rw [h, if_neg (by omega)] at hd'
      omega

theorem Text.spells_iff_of_ascii {word cs : List Char}
    (hword : word.all Unicode.variesInAscii = true) :
    Text.Spells word cs ↔ cs.map Char.toLower = word.map Char.toLower := by
  induction word generalizing cs with
  | nil => simp [Text.Spells]
  | cons c word ih =>
    obtain ⟨hc, hword⟩ := Bool.and_eq_true_iff.1 hword
    cases cs with
    | nil => simp [Text.Spells]
    | cons d cs =>
      have hrest : Text.Spells word cs ↔ cs.map Char.toLower = word.map Char.toLower := ih hword
      simp only [Text.Spells, List.map_cons, List.cons.injEq] at hrest ⊢
      rw [Unicode.foldCase_eq_iff_of_ascii hc, hrest]

theorem Text.begins_iff_of_ascii {v w : String} (hv : v.toList.all (·.toNat < 128) = true)
    (hw : w.toList.all (·.toNat < 128) = true) :
    v.toList.map Unicode.foldCase <+: w.toList.map Unicode.foldCase ↔
      Text.fold v <+: Text.fold w := by
  have hfold : ∀ {s : String}, s.toList.all (·.toNat < 128) = true →
      s.toList.map Unicode.foldCase = Text.fold s := by
    intro s hs
    refine List.map_congr_left fun c hc => Unicode.foldCase_of_ascii ?_
    simpa using List.all_eq_true.1 hs c hc
  rw [hfold hv, hfold hw]

namespace Pattern

/-- The literals that a text writes in a pattern in which letter case does not count. -/
def Node.letters (word : List Char) : List Node := word.map fun c => .char (.anyCase (.single c))

/-- The pattern of the texts that begin with a spelling of `word` and go on as `ns` say. -/
def Node.anchored (word : List Char) (ns : List Node) : Node :=
  ofList (.place .textStart :: (letters word ++ ns))

/-- Wherever a run comes to the part, it takes up one of the accepted texts and goes on behind it,
with the marks that it had. -/
structure Node.Takes (node : Node) (accepts : List Char → Prop) : Prop where
  finishes_iff : ∀ {pos : Nat} {before : Option Char} {rest : List Char} {k : List Task}
    {marks m : Marks}, Finishes pos before rest ⟨.run node :: k, marks⟩ m ↔
      ∃ w cs, rest = w ++ cs ∧ accepts w ∧
        Finishes (pos + w.length) (w.getLast?.or before) cs ⟨k, marks⟩ m

theorem Node.ofList_cons {n : Node} {ns : List Node} (h : ns ≠ []) :
    ofList (n :: ns) = .seq n (ofList ns) := by
  cases ns with
  | nil => exact absurd rfl h
  | cons => rfl

section

variable {pos : Nat} {before : Option Char} {rest : List Char} {k : List Task} {marks m : Marks}

theorem finishes_ofList_cons {n : Node} {ns : List Node} (h : ns ≠ []) :
    Finishes pos before rest ⟨.run (.ofList (n :: ns)) :: k, marks⟩ m ↔
      Finishes pos before rest ⟨.run n :: .run (.ofList ns) :: k, marks⟩ m := by
  rw [Node.ofList_cons h, finishes_seq]

theorem contains_anyCase_single {c d : Char} :
    (CharSet.anyCase (.single c)).contains d = true ↔ Unicode.foldCase d = Unicode.foldCase c := by
  simp only [CharSet.contains_anyCase, CharSet.contains_single, beq_iff_eq]
  constructor
  · rintro ⟨_, hfold, rfl⟩
    exact hfold.symm
  · exact fun hfold => ⟨c, hfold.symm, rfl⟩

/-- The character in front of what follows a text. -/
theorem getLast?_cons_or (c : Char) (w : List Char) (before : Option Char) :
    (c :: w).getLast?.or before = w.getLast?.or (some c) := by
  cases h : w.getLast? <;> simp [List.getLast?_cons, h]

theorem finishes_behind_cons {c : Char} {w cs : List Char} {t : Thread} :
    Finishes (pos + 1 + w.length) (w.getLast?.or (some c)) cs t m ↔
      Finishes (pos + (c :: w).length) ((c :: w).getLast?.or before) cs t m := by
  rw [getLast?_cons_or, List.length_cons, Nat.add_comm w.length, ← Nat.add_assoc]

/-- A run over literals takes up a text with their spelling. -/
theorem finishes_letters {word : List Char} {ns : List Node} (h : ns ≠ []) :
    Finishes pos before rest ⟨.run (.ofList (Node.letters word ++ ns)) :: k, marks⟩ m ↔
      ∃ w cs, rest = w ++ cs ∧ Text.Spells word w ∧
        Finishes (pos + w.length) (w.getLast?.or before) cs ⟨.run (.ofList ns) :: k, marks⟩ m := by
  induction word generalizing pos before rest with
  | nil => simp [Node.letters, Text.Spells]
  | cons c word ih =>
    have hcons : Node.letters (c :: word) ++ ns =
        .char (.anyCase (.single c)) :: (Node.letters word ++ ns) := rfl
    rw [hcons, finishes_ofList_cons (by simp [h]), finishes_char]
    constructor
    · rintro ⟨d, ds, rfl, hd, hrun⟩
      obtain ⟨w, cs, rfl, hw, hrun⟩ := ih.1 hrun
      refine ⟨d :: w, cs, rfl, ?_, ?_⟩
      · rw [Text.Spells, List.map_cons, contains_anyCase_single.1 hd, hw, List.map_cons]
      · exact finishes_behind_cons.1 hrun
    · rintro ⟨_ | ⟨d, w⟩, cs, rfl, hw, hrun⟩
      · cases hw
      · obtain ⟨hd, hw⟩ := List.cons.inj hw
        exact ⟨d, w ++ cs, rfl, contains_anyCase_single.2 hd,
          ih.2 ⟨w, cs, rfl, hw, finishes_behind_cons.2 hrun⟩⟩

/-! ### Parts that take up texts of their own -/

variable {accepts accepts' : List Char → Prop} {p q : Node}

theorem Node.Takes.congr (h : p.Takes accepts) (hiff : ∀ w, accepts w ↔ accepts' w) :
    p.Takes accepts' := by
  constructor
  intro pos before rest k marks m
  rw [h.finishes_iff]
  simp only [hiff]

theorem takes_char {set : CharSet} :
    (Node.char set).Takes fun w => ∃ c, w = [c] ∧ set.contains c = true := by
  constructor
  intro pos before rest k marks m
  rw [finishes_char]
  constructor
  · rintro ⟨c, cs, rfl, hc, hrun⟩
    exact ⟨[c], cs, rfl, ⟨c, rfl, hc⟩, hrun⟩
  · rintro ⟨_, cs, rfl, ⟨c, rfl, hc⟩, hrun⟩
    exact ⟨c, cs, rfl, hc, hrun⟩

theorem Node.Takes.alt (hp : p.Takes accepts) (hq : q.Takes accepts') :
    (Node.alt p q).Takes fun w => accepts w ∨ accepts' w := by
  constructor
  intro pos before rest k marks m
  rw [finishes_alt, hp.finishes_iff, hq.finishes_iff]
  constructor
  · rintro (⟨w, cs, hrest, hw, hrun⟩ | ⟨w, cs, hrest, hw, hrun⟩)
    · exact ⟨w, cs, hrest, .inl hw, hrun⟩
    · exact ⟨w, cs, hrest, .inr hw, hrun⟩
  · rintro ⟨w, cs, hrest, hw | hw, hrun⟩
    · exact .inl ⟨w, cs, hrest, hw, hrun⟩
    · exact .inr ⟨w, cs, hrest, hw, hrun⟩

theorem Node.Takes.seq (hp : p.Takes accepts) (hq : q.Takes accepts') :
    (Node.seq p q).Takes fun w => ∃ u v, w = u ++ v ∧ accepts u ∧ accepts' v := by
  constructor
  intro pos before rest k marks m
  rw [finishes_seq, hp.finishes_iff]
  constructor
  · rintro ⟨u, rest, rfl, hu, hrun⟩
    obtain ⟨v, cs, rfl, hv, hrun⟩ := hq.finishes_iff.1 hrun
    refine ⟨u ++ v, cs, by simp, ⟨u, v, rfl, hu, hv⟩, ?_⟩
    rwa [List.length_append, ← Nat.add_assoc, List.getLast?_append, Option.or_assoc]
  · rintro ⟨_, cs, rfl, ⟨u, v, rfl, hu, hv⟩, hrun⟩
    rw [List.length_append, ← Nat.add_assoc, List.getLast?_append, Option.or_assoc] at hrun
    exact ⟨u, v ++ cs, by simp, hu, hq.finishes_iff.2 ⟨v, cs, rfl, hv, hrun⟩⟩

/-- The literals of a word take up its spellings. -/
theorem takes_letters (word : List Char) :
    (Node.ofList (Node.letters word)).Takes (Text.Spells word) := by
  induction word with
  | nil =>
    constructor
    intro pos before rest k marks m
    rw [show Node.ofList (Node.letters []) = .empty from rfl]
    simp [Text.Spells]
  | cons c word ih =>
    have hletter : (Node.char (.anyCase (.single c))).Takes (Text.Spells [c]) := by
      refine takes_char.congr fun w => ?_
      simp only [contains_anyCase_single, Text.Spells, List.map_cons, List.map_nil,
        List.map_eq_singleton_iff]
    cases word with
    | nil => exact hletter
    | cons d word =>
      refine (hletter.seq ih).congr fun w => ?_
      rw [← Text.spells_append_iff, List.singleton_append]

/-- A number of rounds of one character each. -/
theorem takes_times_char (set : CharSet) (n : Nat) (greedy : Bool) :
    (Node.times (.char set) n (some n) greedy).Takes fun w =>
      w.length = n ∧ w.all set.contains = true := by
  constructor
  intro pos before rest k marks m
  induction n generalizing pos before rest with
  | zero => simp [finishes_times, rounds]
  | succ n ih =>
    have hrounds : rounds (.char set) (n + 1) (some (n + 1)) greedy k =
        [.run (.char set) :: .run (.times (.char set) n (some n) greedy) :: k] := by
      simp [rounds]
    rw [finishes_times, hrounds]
    simp only [List.mem_singleton, exists_eq_left, finishes_char]
    constructor
    · rintro ⟨c, _, rfl, hc, hrun⟩
      obtain ⟨w, cs, rfl, ⟨hlen, hw⟩, hrun⟩ := ih.1 hrun
      exact ⟨c :: w, cs, rfl, ⟨by simp [hlen], by simp [hc, hw]⟩, finishes_behind_cons.1 hrun⟩
    · rintro ⟨_ | ⟨c, w⟩, cs, rfl, ⟨hlen, hw⟩, hrun⟩
      · cases hlen
      · obtain ⟨hc, hw⟩ := Bool.and_eq_true_iff.1 hw
        exact ⟨c, w ++ cs, rfl, hc,
          ih.2 ⟨w, cs, rfl, ⟨Nat.succ.inj hlen, hw⟩, finishes_behind_cons.2 hrun⟩⟩

/-- Any number of further rounds of one character each. -/
theorem finishes_again_char {set : CharSet} {greedy : Bool} :
    Finishes pos before rest ⟨.again (.char set) greedy :: k, marks⟩ m ↔
      ∃ w cs, rest = w ++ cs ∧ w.all set.contains = true ∧
        Finishes (pos + w.length) (w.getLast?.or before) cs ⟨k, marks⟩ m := by
  induction rest generalizing pos before with
  | nil =>
    rw [finishes_again, finishes_char]
    constructor
    · rintro (⟨_, _, ⟨⟩, -⟩ | hrun)
      exact ⟨[], [], rfl, rfl, hrun⟩
    · rintro ⟨w, cs, hrest, -, hrun⟩
      obtain ⟨rfl, rfl⟩ := List.append_eq_nil_iff.1 hrest.symm
      exact .inr hrun
  | cons c rest ih =>
    rw [finishes_again, finishes_char]
    constructor
    · rintro (⟨_, _, ⟨⟩, hc, hrun⟩ | hrun)
      · obtain ⟨w, cs, rfl, hw, hrun⟩ := ih.1 hrun
        exact ⟨c :: w, cs, rfl, by simp [hc, hw], finishes_behind_cons.1 hrun⟩
      · exact ⟨[], c :: rest, rfl, rfl, hrun⟩
    · rintro ⟨_ | ⟨d, w⟩, cs, hrest, hw, hrun⟩
      · obtain rfl : c :: rest = cs := hrest
        exact .inr hrun
      · obtain ⟨rfl, rfl⟩ := List.cons.inj hrest
        obtain ⟨hc, hw⟩ := Bool.and_eq_true_iff.1 hw
        exact .inl ⟨c, w ++ cs, rfl, hc, ih.2 ⟨w, cs, rfl, hw, finishes_behind_cons.2 hrun⟩⟩

/-- One round of one character, and any number of further ones. -/
theorem takes_times_char_free (set : CharSet) (greedy : Bool) :
    (Node.times (.char set) 1 none greedy).Takes fun w =>
      w ≠ [] ∧ w.all set.contains = true := by
  constructor
  intro pos before rest k marks m
  have hrounds : rounds (.char set) 1 none greedy k =
      [.run (.char set) :: .again (.char set) greedy :: k] := rfl
  rw [finishes_times, hrounds]
  simp only [List.mem_singleton, exists_eq_left, finishes_char, finishes_again_char]
  constructor
  · rintro ⟨c, _, rfl, hc, w, cs, rfl, hw, hrun⟩
    exact ⟨c :: w, cs, rfl, ⟨by simp, by simp [hc, hw]⟩, finishes_behind_cons.1 hrun⟩
  · rintro ⟨_ | ⟨c, w⟩, cs, rfl, ⟨hne, hw⟩, hrun⟩
    · exact absurd rfl hne
    · obtain ⟨hc, hw⟩ := Bool.and_eq_true_iff.1 hw
      exact ⟨c, w ++ cs, rfl, hc, w, cs, rfl, hw, finishes_behind_cons.2 hrun⟩

/-! ### Patterns that begin with a word -/

/-- A pattern that begins at the start of a text has no run from a later position. -/
theorem occurs_textStart {ns : List Node} (h : ns ≠ []) :
    (Node.ofList (.place .textStart :: ns)).Occurs 0 none rest m ↔
      Finishes 0 none rest ⟨[.run (.ofList ns), .close 0], [(0, 0)]⟩ m := by
  have hstart : ∀ {pos before rest}, Finishes pos before rest
      (Node.ofList (.place .textStart :: ns)).start m ↔ before = none ∧
        Finishes pos before rest ⟨[.run (.ofList ns), .close 0], [(0, pos)]⟩ m := by
    intro pos before rest
    rw [Node.start, finishes_group, finishes_ofList_cons h, finishes_place]
    simp [Place.holds, Marks.set]
  -- Behind a character it is no longer the start of the text.
  have hlater : ∀ {rest : List Char} {pos : Nat} {c : Char},
      ¬ (Node.ofList (.place .textStart :: ns)).Occurs pos (some c) rest m := by
    intro rest
    induction rest with
    | nil =>
      rintro pos c (hrun | _)
      exact absurd (hstart.1 hrun).1 nofun
    | cons d rest ih =>
      rintro pos c (hrun | hrun)
      · exact absurd (hstart.1 hrun).1 nofun
      · exact ih hrun
  constructor
  · rintro (hrun | hrun)
    · exact (hstart.1 hrun).2
    · exact absurd hrun hlater
  · exact fun hrun => .here (hstart.2 ⟨rfl, hrun⟩)

theorem occurs_anchored {word : List Char} {ns : List Node} (h : ns ≠ []) :
    (Node.anchored word ns).Occurs 0 none rest m ↔
      ∃ w cs, rest = w ++ cs ∧ Text.Spells word w ∧
        Finishes w.length w.getLast? cs ⟨[.run (.ofList ns), .close 0], [(0, 0)]⟩ m := by
  have happend : Node.letters word ++ ns ≠ [] := by simp [h]
  rw [Node.anchored, occurs_textStart happend, finishes_letters h]
  simp

/-- What an anchored pattern is found in begins with a spelling of its word. -/
theorem spells_take_of_find? {word subject : List Char} {ns : List Node} (h : ns ≠ [])
    (hfound : ((Node.anchored word ns).find? subject).isSome = true) :
    ∃ w, w <+: subject ∧ Text.Spells word w := by
  obtain ⟨found, hfound⟩ := Option.isSome_iff_exists.1 hfound
  obtain ⟨w, cs, rfl, hw, -⟩ := (occurs_anchored h).1 (Node.occurs_of_find? hfound).2
  exact ⟨w, List.prefix_append w cs, hw⟩

end

end Pattern

end FacetedSearch
