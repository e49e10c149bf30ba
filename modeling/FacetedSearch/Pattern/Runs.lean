import FacetedSearch.Pattern.Search

/-!
# Runs of a pattern

A match of a pattern is a run: tasks done one after the other along the text, with one of the
ways to go on at each choice. The search follows all runs at once and prefers some to others;
whatever it finds is the end of a run.

## Main definitions

* `Thread.Waits` — nothing is left to do before the next character.
* `Finishes` — a run from a position of a text, with the marks at its end.
* `Node.Occurs` — a run of a pattern from some position on.
-/

namespace FacetedSearch

namespace Pattern

/-- The thread is at its end or reads a character next. -/
inductive Waits : List Task → Prop
  | done : Waits []
  | char (set : CharSet) (k : List Task) : Waits (.run (.char set) :: k)

/-- Between `before` and `rest`, at the position `pos`, the thread has a run to its end. -/
inductive Finishes : Nat → Option Char → List Char → Thread → Marks → Prop
  | done (pos : Nat) (before : Option Char) (rest : List Char) (marks : Marks) :
    Finishes pos before rest ⟨[], marks⟩ marks
  | unfold {pos : Nat} {before : Option Char} {rest : List Char} {t u : Thread} {marks : Marks}
    (ready : ¬ Waits t.tasks) (step : u ∈ t.unfold ⟨pos, before, rest.head?⟩)
    (next : Finishes pos before rest u marks) : Finishes pos before rest t marks
  | read {pos : Nat} {before : Option Char} {c : Char} {rest : List Char} {t u : Thread}
    {marks : Marks} (step : t.read c = some u)
    (next : Finishes (pos + 1) (some c) rest u marks) : Finishes pos before (c :: rest) t marks

/-- The thread with which a pattern begins. -/
def Node.start (node : Node) : Thread := ⟨[.run (.group 0 node)], []⟩

/-- The pattern has a run from the position `pos` or a later one. -/
inductive Node.Occurs (node : Node) : Nat → Option Char → List Char → Marks → Prop
  | here {pos : Nat} {before : Option Char} {rest : List Char} {marks : Marks}
    (run : Finishes pos before rest node.start marks) : node.Occurs pos before rest marks
  | later {pos : Nat} {before : Option Char} {c : Char} {rest : List Char} {marks : Marks}
    (run : node.Occurs (pos + 1) (some c) rest marks) : node.Occurs pos before (c :: rest) marks

/-! ## Runs by their first task -/

section

variable {pos : Nat} {before : Option Char} {rest : List Char} {k : List Task} {marks m : Marks}

theorem read_eq_some_iff {c : Char} {t u : Thread} :
    t.read c = some u ↔ ∃ set k, t.tasks = .run (.char set) :: k ∧ set.contains c = true ∧
      u = ⟨k, t.marks⟩ := by
  unfold Thread.read
  split
  · rename_i set k htasks
    simp only [htasks, List.cons.injEq, Task.run.injEq, Node.char.injEq]
    constructor
    · intro h
      split at h
      · exact ⟨set, k, ⟨rfl, rfl⟩, ‹_›, (Option.some.inj h).symm⟩
      · cases h
    · rintro ⟨_, _, ⟨rfl, rfl⟩, hc, rfl⟩
      exact if_pos hc
  · rename_i hno
    simp only [reduceCtorEq, false_iff, not_exists, not_and]
    exact fun set k htasks => absurd htasks (hno set k)

theorem waits_of_read {c : Char} {t u : Thread} (h : t.read c = some u) : Waits t.tasks := by
  obtain ⟨set, k, htasks, -, -⟩ := read_eq_some_iff.1 h
  exact htasks ▸ .char set k

theorem finishes_iff (ready : ¬ Waits k) :
    Finishes pos before rest ⟨k, marks⟩ m ↔
      ∃ u ∈ Thread.unfold ⟨pos, before, rest.head?⟩ ⟨k, marks⟩, Finishes pos before rest u m := by
  constructor
  · rintro (_ | ⟨-, hu, hrun⟩ | ⟨hread, -⟩)
    · exact absurd .done ready
    · exact ⟨_, hu, hrun⟩
    · exact absurd (waits_of_read hread) ready
  · rintro ⟨u, hu, hrun⟩
    exact .unfold ready hu hrun

@[simp] theorem finishes_nil : Finishes pos before rest ⟨[], marks⟩ m ↔ m = marks := by
  constructor
  · rintro (_ | ⟨ready, -, -⟩ | ⟨hread, -⟩)
    · rfl
    · exact absurd .done ready
    · simp [Thread.read] at hread
  · rintro rfl
    exact .done ..

theorem finishes_char {set : CharSet} :
    Finishes pos before rest ⟨.run (.char set) :: k, marks⟩ m ↔
      ∃ c cs, rest = c :: cs ∧ set.contains c = true ∧
        Finishes (pos + 1) (some c) cs ⟨k, marks⟩ m := by
  constructor
  · rintro (_ | ⟨ready, -, -⟩ | ⟨hread, hrun⟩)
    · exact absurd (.char set k) ready
    · obtain ⟨_, _, ⟨⟩, hc, rfl⟩ := read_eq_some_iff.1 hread
      exact ⟨_, _, rfl, hc, hrun⟩
  · rintro ⟨c, cs, rfl, hc, hrun⟩
    exact .read (read_eq_some_iff.2 ⟨set, k, rfl, hc, rfl⟩) hrun

@[simp] theorem finishes_empty :
    Finishes pos before rest ⟨.run .empty :: k, marks⟩ m ↔
      Finishes pos before rest ⟨k, marks⟩ m := by
  rw [finishes_iff (by nofun)]
  simp [Thread.unfold]

@[simp] theorem finishes_place {p : Place} :
    Finishes pos before rest ⟨.run (.place p) :: k, marks⟩ m ↔
      p.holds before rest.head? = true ∧ Finishes pos before rest ⟨k, marks⟩ m := by
  rw [finishes_iff (by nofun)]
  cases h : p.holds before rest.head? <;> simp [Thread.unfold, h]

@[simp] theorem finishes_group {i : Nat} {body : Node} :
    Finishes pos before rest ⟨.run (.group i body) :: k, marks⟩ m ↔
      Finishes pos before rest ⟨.run body :: .close i :: k, marks.set (2 * i) pos⟩ m := by
  rw [finishes_iff (by nofun)]
  simp [Thread.unfold]

@[simp] theorem finishes_close {i : Nat} :
    Finishes pos before rest ⟨.close i :: k, marks⟩ m ↔
      Finishes pos before rest ⟨k, marks.set (2 * i + 1) pos⟩ m := by
  rw [finishes_iff (by nofun)]
  simp [Thread.unfold]

@[simp] theorem finishes_seq {p q : Node} :
    Finishes pos before rest ⟨.run (.seq p q) :: k, marks⟩ m ↔
      Finishes pos before rest ⟨.run p :: .run q :: k, marks⟩ m := by
  rw [finishes_iff (by nofun)]
  simp [Thread.unfold]

@[simp] theorem finishes_alt {p q : Node} :
    Finishes pos before rest ⟨.run (.alt p q) :: k, marks⟩ m ↔
      Finishes pos before rest ⟨.run p :: k, marks⟩ m ∨
        Finishes pos before rest ⟨.run q :: k, marks⟩ m := by
  rw [finishes_iff (by nofun)]
  simp [Thread.unfold]

theorem finishes_times {body : Node} {min : Nat} {max : Option Nat} {greedy : Bool} :
    Finishes pos before rest ⟨.run (.times body min max greedy) :: k, marks⟩ m ↔
      ∃ tasks ∈ rounds body min max greedy k, Finishes pos before rest ⟨tasks, marks⟩ m := by
  rw [finishes_iff (by nofun)]
  simp only [Thread.unfold, List.mem_map]
  constructor
  · rintro ⟨_, ⟨tasks, htasks, rfl⟩, hrun⟩
    exact ⟨tasks, htasks, hrun⟩
  · rintro ⟨tasks, htasks, hrun⟩
    exact ⟨_, ⟨tasks, htasks, rfl⟩, hrun⟩

theorem finishes_again {body : Node} {greedy : Bool} :
    Finishes pos before rest ⟨.again body greedy :: k, marks⟩ m ↔
      Finishes pos before rest ⟨.run body :: .again body greedy :: k, marks⟩ m ∨
        Finishes pos before rest ⟨k, marks⟩ m := by
  rw [finishes_iff (by nofun)]
  cases greedy <;> simp [Thread.unfold, prefer, or_comm]

end

/-! ## What the search finds -/

section

variable {pos : Nat} {before : Option Char} {rest : List Char} {m : Marks}

theorem not_waits {τ : List Task} (h : τ ≠ []) (h' : ∀ set k, τ ≠ .run (.char set) :: k) :
    ¬ Waits τ := by
  rintro (_ | ⟨set, k⟩)
  · exact h rfl
  · exact h' set k rfl

/-- Working off threads brings up no other runs than theirs. -/
theorem settle_sound (fuel : Nat) (ts : List Thread) (seen : List (List Task))
    (h : (settle ⟨pos, before, rest.head?⟩ fuel ts seen).2 = some m ∨
      ∃ w ∈ (settle ⟨pos, before, rest.head?⟩ fuel ts seen).1, Finishes pos before rest w m) :
    ∃ t ∈ ts, Finishes pos before rest t m := by
  fun_induction settle ⟨pos, before, rest.head?⟩ fuel ts seen with
  | case1 | case2 => simp at h
  | case3 fuel t ts seen hseen ih =>
    obtain ⟨u, hu, hrun⟩ := ih h
    exact ⟨u, List.mem_cons_of_mem t hu, hrun⟩
  | case4 fuel t ts seen hseen htasks =>
    obtain ⟨tasks, marks⟩ := t
    obtain rfl : tasks = [] := htasks
    obtain rfl : marks = m := by simpa using h
    exact ⟨_, List.mem_cons_self, .done ..⟩
  | case5 fuel t ts seen hseen set k htasks waiting found hsettle ih =>
    rw [hsettle] at ih
    rcases h with h | ⟨w, hw, hrun⟩
    · obtain ⟨u, hu, hrun⟩ := ih (.inl h)
      exact ⟨u, List.mem_cons_of_mem t hu, hrun⟩
    · rcases List.mem_cons.1 hw with rfl | hw
      · exact ⟨w, List.mem_cons_self, hrun⟩
      · obtain ⟨u, hu, hrun⟩ := ih (.inr ⟨w, hw, hrun⟩)
        exact ⟨u, List.mem_cons_of_mem t hu, hrun⟩
  | case6 fuel t ts seen hseen hnil hchar ih =>
    obtain ⟨u, hu, hrun⟩ := ih h
    rcases List.mem_append.1 hu with hu | hu
    · exact ⟨t, List.mem_cons_self, .unfold (not_waits hnil hchar) hu hrun⟩
    · exact ⟨u, List.mem_cons_of_mem t hu, hrun⟩

/-- The threads of a search at a position: as long as nothing has been found, a match can begin. -/
def Node.pending (node : Node) (threads : List Thread) (best : Option Marks) : List Thread :=
  if best.isNone then threads ++ [node.start] else threads

/-- What the search does at one position. -/
def Node.settled (node : Node) (pos : Nat) (before : Option Char) (threads : List Thread)
    (best : Option Marks) (rest : List Char) : List Thread × Option Marks :=
  settle ⟨pos, before, rest.head?⟩ (effort node (node.pending threads best))
    (node.pending threads best) []

theorem scan_nil (node : Node) (pos : Nat) (before : Option Char) (threads : List Thread)
    (best : Option Marks) : scan node pos before threads best [] =
      (node.settled pos before threads best []).2.or best := rfl

theorem scan_cons (node : Node) (pos : Nat) (before : Option Char) (threads : List Thread)
    (best : Option Marks) (c : Char) (cs : List Char) :
    scan node pos before threads best (c :: cs) =
      scan node (pos + 1) (some c)
        ((node.settled pos before threads best (c :: cs)).1.filterMap (·.read c))
        ((node.settled pos before threads best (c :: cs)).2.or best) cs := rfl

theorem exists_of_mem_pending {node : Node} {threads : List Thread} {best : Option Marks}
    (h : ∃ t ∈ node.pending threads best, Finishes pos before rest t m) :
    (∃ t ∈ threads, Finishes pos before rest t m) ∨ node.Occurs pos before rest m := by
  obtain ⟨t, ht, hrun⟩ := h
  unfold Node.pending at ht
  split at ht
  · rcases List.mem_append.1 ht with ht | ht
    · exact .inl ⟨t, ht, hrun⟩
    · obtain rfl := List.mem_singleton.1 ht
      exact .inr (.here hrun)
  · exact .inl ⟨t, ht, hrun⟩

/-- What a search finds is the best match so far, or the end of a run of a thread or of a run that
begins later. -/
theorem scan_sound (node : Node) (pos : Nat) (before : Option Char) (threads : List Thread)
    (best : Option Marks) (rest : List Char) (h : scan node pos before threads best rest = some m) :
    best = some m ∨ (∃ t ∈ threads, Finishes pos before rest t m) ∨
      node.Occurs pos before rest m := by
  induction rest generalizing pos before threads best with
  | nil =>
    rw [scan_nil, Option.or_eq_some_iff] at h
    rcases h with h | ⟨-, h⟩
    · exact .inr (exists_of_mem_pending (settle_sound _ _ _ (.inl h)))
    · exact .inl h
  | cons c cs ih =>
    rw [scan_cons] at h
    rcases ih _ _ _ _ h with h | ⟨u, hu, hrun⟩ | h
    · rcases Option.or_eq_some_iff.1 h with h | ⟨-, h⟩
      · exact .inr (exists_of_mem_pending (settle_sound _ _ _ (.inl h)))
      · exact .inl h
    · obtain ⟨w, hw, hread⟩ := List.mem_filterMap.1 hu
      exact .inr (exists_of_mem_pending (settle_sound _ _ _ (.inr ⟨w, hw, .read hread hrun⟩)))
    · exact .inr (.inr (.later h))

/-- The match that a search finds is the end of a run. -/
theorem Node.occurs_of_find? {node : Node} {subject : List Char} {found : Match}
    (h : node.find? subject = some found) :
    found.subject = subject ∧ node.Occurs 0 none subject found.marks := by
  obtain ⟨marks, hscan, rfl⟩ := Option.map_eq_some_iff.1 h
  rcases scan_sound node 0 none [] none subject hscan with h | ⟨t, ht, -⟩ | h
  · cases h
  · cases ht
  · exact ⟨rfl, h⟩

end

end Pattern

end FacetedSearch
