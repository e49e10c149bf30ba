import Mathlib.Data.Finset.Card
import FacetedSearch.Pattern.Runs

/-!
# A search misses no match

While it works off threads, a search drops those whose tasks it has seen before, and it has only so
many steps. Neither loses a match: what a dropped thread could reach is reached from the thread
that was there before it, and there are fewer task lists in a pattern than steps.

## Main definitions

* `Leads`, `Reaches` — what can be done between two characters.
* `after`, `Node.states` — the task lists that come up in a pattern.
* `Node.isRegular` — no repetition has more rounds at least than at most.
-/

namespace FacetedSearch

namespace Pattern

/-! ## Between two characters -/

/-- One task of `τ` that reads no character can be done, and leaves `υ`. -/
def Leads (spot : Spot) (τ υ : List Task) : Prop :=
  ¬ Waits τ ∧ ∃ u ∈ Thread.unfold spot ⟨τ, []⟩, u.tasks = υ

/-- From `τ` the tasks lead to `σ`, past none of the lists in `seen`. -/
inductive Reaches (spot : Spot) (seen : List (List Task)) : List Task → List Task → Prop
  | refl {τ : List Task} (fresh : τ ∉ seen) : Reaches spot seen τ τ
  | step {τ υ σ : List Task} (fresh : τ ∉ seen) (leads : Leads spot τ υ)
    (rest : Reaches spot seen υ σ) : Reaches spot seen τ σ

/-- Neither the position nor the marks decide on what can be done. -/
theorem map_tasks_unfold (spot : Spot) (t : Thread) (pos : Nat) (marks : Marks) :
    (t.unfold spot).map (·.tasks) =
      (Thread.unfold { spot with pos } ⟨t.tasks, marks⟩).map (·.tasks) := by
  obtain ⟨tasks, marks'⟩ := t
  unfold Thread.unfold
  split <;> simp_all
  split <;> simp_all

theorem leads_of_mem_unfold {spot : Spot} {t u : Thread} (ready : ¬ Waits t.tasks)
    (h : u ∈ t.unfold spot) : Leads spot t.tasks u.tasks := by
  have hu : u.tasks ∈ (Thread.unfold spot ⟨t.tasks, []⟩).map (·.tasks) := by
    rw [← map_tasks_unfold spot t spot.pos []]
    exact List.mem_map_of_mem h
  exact ⟨ready, List.mem_map.1 hu⟩

theorem exists_mem_unfold_of_leads {spot : Spot} {t : Thread} {υ : List Task}
    (h : Leads spot t.tasks υ) : ∃ u ∈ t.unfold spot, u.tasks = υ := by
  obtain ⟨-, u, hu, rfl⟩ := h
  have hmem : u.tasks ∈ (t.unfold spot).map (·.tasks) := by
    rw [map_tasks_unfold spot t spot.pos []]
    exact List.mem_map_of_mem hu
  exact List.mem_map.1 hmem

theorem not_leads_of_waits {spot : Spot} {τ υ : List Task} (h : Waits τ) : ¬ Leads spot τ υ :=
  fun hleads => hleads.1 h

/-- A thread with the same tasks has a run as well, wherever it stands. -/
theorem Finishes.congr {pos : Nat} {before : Option Char} {rest : List Char} {t : Thread}
    {m : Marks} (h : Finishes pos before rest t m) (pos' : Nat) {w : Thread}
    (ht : w.tasks = t.tasks) : ∃ m', Finishes pos' before rest w m' := by
  induction h generalizing pos' w with
  | done pos before rest marks =>
    obtain ⟨tasks, marks'⟩ := w
    obtain rfl : tasks = [] := ht
    exact ⟨marks', .done ..⟩
  | @unfold pos before rest t u m ready step next ih =>
    have hu : u.tasks ∈ (w.unfold ⟨pos', before, rest.head?⟩).map (·.tasks) := by
      rw [map_tasks_unfold _ w pos t.marks, ht]
      exact List.mem_map_of_mem step
    obtain ⟨u', hu', htasks⟩ := List.mem_map.1 hu
    obtain ⟨m', hrun⟩ := ih pos' htasks
    exact ⟨m', .unfold (ht ▸ ready) hu' hrun⟩
  | @read pos before c rest t u m step next ih =>
    obtain ⟨set, k, htasks, hc, rfl⟩ := read_eq_some_iff.1 step
    obtain ⟨m', hrun⟩ := ih (pos' + 1) (w := ⟨k, w.marks⟩) rfl
    exact ⟨m', .read (read_eq_some_iff.2 ⟨set, k, ht.trans htasks, hc, rfl⟩) hrun⟩

/-- A run leads to its end, or to a task that reads the next character of the text. -/
theorem Finishes.exists_reaches {pos : Nat} {before : Option Char} {rest : List Char} {t : Thread}
    {m : Marks} (h : Finishes pos before rest t m) :
    ∃ σ, Reaches ⟨pos, before, rest.head?⟩ [] t.tasks σ ∧
      (σ = [] ∨ ∃ set k c cs marks, σ = .run (.char set) :: k ∧ rest = c :: cs ∧
        set.contains c = true ∧ Finishes (pos + 1) (some c) cs ⟨k, marks⟩ m) := by
  induction h with
  | done pos before rest marks => exact ⟨[], .refl (by simp), .inl rfl⟩
  | unfold ready step next ih =>
    obtain ⟨σ, hreach, hσ⟩ := ih
    exact ⟨σ, .step (by simp) (leads_of_mem_unfold ready step) hreach, hσ⟩
  | @read pos before c rest t u m step next ih =>
    obtain ⟨set, k, htasks, hc, rfl⟩ := read_eq_some_iff.1 step
    exact ⟨_, .refl (by simp), .inr ⟨set, k, c, rest, t.marks, htasks, rfl, hc, next⟩⟩

/-- A way past a list begins anew behind it, or does not touch it. -/
theorem Reaches.cut {spot : Spot} {seen : List (List Task)} {τ σ : List Task}
    (h : Reaches spot seen τ σ) (χ : List Task) :
    σ = χ ∨ Reaches spot (χ :: seen) τ σ ∨ ∃ υ, Leads spot χ υ ∧ Reaches spot (χ :: seen) υ σ := by
  induction h with
  | @refl τ fresh =>
    rcases eq_or_ne τ χ with h | h
    · exact .inl h
    · exact .inr (.inl (.refl (by simp [h, fresh])))
  | @step τ υ σ fresh leads rest ih =>
    rcases ih with h | h | h
    · exact .inl h
    · rcases eq_or_ne τ χ with rfl | hne
      · exact .inr (.inr ⟨υ, leads, h⟩)
      · exact .inr (.inl (.step (by simp [hne, fresh]) leads h))
    · exact .inr (.inr h)

/-! ## Working off threads -/

section

variable {spot : Spot} {S : Finset (List Task)}

@[simp] theorem length_prefer (greedy : Bool) (another stop : List Task) :
    (prefer greedy another stop).length = 2 := by cases greedy <;> rfl

theorem length_rounds_le (body : Node) (min : Nat) (max : Option Nat) (greedy : Bool)
    (k : List Task) : (rounds body min max greedy k).length ≤ 2 := by
  fun_cases rounds body min max greedy k <;> simp

theorem length_unfold_le (spot : Spot) (t : Thread) : (t.unfold spot).length ≤ 2 := by
  fun_cases Thread.unfold spot t <;> simp [length_rounds_le]

/-- The threads that wait are threads with a character to read, and no task list but those that
follow from the given ones comes up. -/
theorem settle_mem (closed : ∀ τ ∈ S, ∀ υ, Leads spot τ υ → υ ∈ S) (fuel : Nat) (ts : List Thread)
    (seen : List (List Task)) (hts : ∀ t ∈ ts, t.tasks ∈ S) :
    ∀ w ∈ (settle spot fuel ts seen).1,
      w.tasks ∈ S ∧ ∃ set k, w.tasks = .run (.char set) :: k := by
  fun_induction settle spot fuel ts seen with
  | case1 | case2 | case4 => simp
  | case3 fuel t ts seen hseen ih => exact ih fun u hu => hts u (List.mem_cons_of_mem t hu)
  | case5 fuel t ts seen hseen set k htasks waiting found hsettle ih =>
    rw [hsettle] at ih
    intro w hw
    rcases List.mem_cons.1 hw with rfl | hw
    · exact ⟨hts w List.mem_cons_self, set, k, htasks⟩
    · exact ih (fun u hu => hts u (List.mem_cons_of_mem t hu)) w hw
  | case6 fuel t ts seen hseen hnil hchar ih =>
    refine ih fun u hu => ?_
    rcases List.mem_append.1 hu with hu | hu
    · exact closed _ (hts t List.mem_cons_self) _ (leads_of_mem_unfold (not_waits hnil hchar) hu)
    · exact hts u (List.mem_cons_of_mem t hu)

/-- The number of task lists that have not been worked off falls with each one that is. -/
theorem card_sdiff_cons_lt {seen : List (List Task)} {τ : List Task} (hτ : τ ∈ S)
    (hseen : τ ∉ seen) : (S \ (τ :: seen).toFinset).card < (S \ seen.toFinset).card := by
  refine Finset.card_lt_card ⟨?_, ?_⟩
  · exact Finset.sdiff_subset_sdiff subset_rfl (by simp)
  · intro h
    have := @h τ (by simp [hτ, hseen])
    simp at this

/-- With a step for every pending thread and two for every task list, whatever the threads lead to
is found among the waiting ones, unless a thread comes to its end before. -/
theorem settle_complete (closed : ∀ τ ∈ S, ∀ υ, Leads spot τ υ → υ ∈ S) (fuel : Nat)
    (ts : List Thread) (seen : List (List Task)) (hts : ∀ t ∈ ts, t.tasks ∈ S)
    (hfuel : ts.length + 2 * (S \ seen.toFinset).card ≤ fuel) {t : Thread} (ht : t ∈ ts)
    {σ : List Task} (hσ : Waits σ) (h : Reaches spot seen t.tasks σ) :
    (settle spot fuel ts seen).2.isSome = true ∨
      ∃ w ∈ (settle spot fuel ts seen).1, w.tasks = σ := by
  fun_induction settle spot fuel ts seen generalizing t with
  | case1 ts seen =>
    cases ts with
    | nil => cases ht
    | cons => simp at hfuel
  | case2 => cases ht
  | case3 fuel u ts seen hseen ih =>
    have hts' : ∀ v ∈ ts, v.tasks ∈ S := fun v hv => hts v (List.mem_cons_of_mem u hv)
    rw [List.length_cons] at hfuel
    rcases List.mem_cons.1 ht with rfl | ht
    · cases h with
      | refl fresh | step fresh => exact absurd hseen fresh
    · exact ih hts' (by omega) ht h
  | case4 => exact .inl rfl
  | case5 fuel u ts seen hseen set k htasks waiting found hsettle ih =>
    rw [hsettle] at ih
    have hts' : ∀ v ∈ ts, v.tasks ∈ S := fun v hv => hts v (List.mem_cons_of_mem u hv)
    have hfewer := card_sdiff_cons_lt (hts u List.mem_cons_self) hseen
    rw [List.length_cons] at hfuel
    have hwaits : Waits u.tasks := htasks ▸ .char set k
    rcases h.cut u.tasks with rfl | h | ⟨υ, hleads, -⟩
    · exact .inr ⟨u, List.mem_cons_self, rfl⟩
    · rcases List.mem_cons.1 ht with rfl | ht
      · cases h with
        | refl fresh | step fresh => simp at fresh
      · rcases ih hts' (by omega) ht h with h | ⟨w, hw, hwσ⟩
        · exact .inl h
        · exact .inr ⟨w, List.mem_cons_of_mem u hw, hwσ⟩
    · exact absurd hleads (not_leads_of_waits hwaits)
  | case6 fuel u ts seen hseen hnil hchar ih =>
    have ready := not_waits hnil hchar
    have hts' : ∀ v ∈ u.unfold spot ++ ts, v.tasks ∈ S := by
      intro v hv
      rcases List.mem_append.1 hv with hv | hv
      · exact closed _ (hts u List.mem_cons_self) _ (leads_of_mem_unfold ready hv)
      · exact hts v (List.mem_cons_of_mem u hv)
    have hfewer := card_sdiff_cons_lt (hts u List.mem_cons_self) hseen
    have htwo := length_unfold_le spot u
    have hfuel' : (u.unfold spot ++ ts).length + 2 * (S \ (u.tasks :: seen).toFinset).card ≤
        fuel := by
      rw [List.length_cons] at hfuel
      rw [List.length_append]
      omega
    rcases h.cut u.tasks with rfl | h | ⟨υ, hleads, h⟩
    · exact absurd hσ ready
    · rcases List.mem_cons.1 ht with rfl | ht
      · cases h with
        | refl fresh | step fresh => simp at fresh
      · exact ih hts' hfuel' (List.mem_append_right _ ht) h
    · obtain ⟨v, hv, rfl⟩ := exists_mem_unfold_of_leads hleads
      exact ih hts' hfuel' (List.mem_append_left _ hv) h

end

/-! ## The task lists of a pattern -/

/-- The task lists that can come next, whatever the text. -/
def after : List Task → List (List Task)
  | [] => []
  | .run (.char _) :: k | .run .empty :: k | .run (.place _) :: k | .close _ :: k => [k]
  | .run (.group i body) :: k => [.run body :: .close i :: k]
  | .run (.seq p q) :: k => [.run p :: .run q :: k]
  | .run (.alt p q) :: k => [.run p :: k, .run q :: k]
  | .run (.times body min max greedy) :: k => rounds body min max greedy k
  | .again body greedy :: k => prefer greedy (.run body :: .again body greedy :: k) k

/-- The task lists of the rounds of a repetition, given those of one round. -/
def roundStates (body : Node) (greedy : Bool) (inner : List Task → List (List Task)) :
    Nat → Option Nat → List Task → List (List Task)
  | 0, none, k =>
    let behind := if body.nullable then Task.again body greedy else .run (.times body 0 none greedy)
    (.run (.times body 0 none greedy) :: k) :: (behind :: k) :: inner (behind :: k)
  | 0, some 0, k => [.run (.times body 0 (some 0) greedy) :: k]
  | 0, some (m + 1), k =>
    (.run (.times body 0 (some (m + 1)) greedy) :: k) ::
      (inner (.run (.times body 0 (some m) greedy) :: k) ++
        roundStates body greedy inner 0 (some m) k)
  | 1, none, k =>
    (.run (.times body 1 none greedy) :: k) :: (.again body greedy :: k) ::
      inner (.again body greedy :: k)
  | n + 1, max, k =>
    (.run (.times body (n + 1) max greedy) :: k) ::
      (inner (.run (.times body n (max.map (· - 1)) greedy) :: k) ++
        roundStates body greedy inner n (max.map (· - 1)) k)
termination_by min max => (min, max.getD 0)

/-- The task lists that come up in a pattern in front of the tasks `k`. -/
def Node.states : Node → List Task → List (List Task)
  | empty, k => [.run .empty :: k]
  | char set, k => [.run (.char set) :: k]
  | place p, k => [.run (.place p) :: k]
  | group i body, k =>
    (.run (.group i body) :: k) :: (body.states (.close i :: k) ++ [.close i :: k])
  | seq p q, k => (.run (.seq p q) :: k) :: (p.states (.run q :: k) ++ q.states k)
  | alt p q, k => (.run (.alt p q) :: k) :: (p.states k ++ q.states k)
  | times body min max greedy, k => roundStates body greedy body.states min max k

theorem mem_prefer {greedy : Bool} {another stop τ : List Task} :
    τ ∈ prefer greedy another stop ↔ τ = another ∨ τ = stop := by
  cases greedy <;> simp [prefer, or_comm]

theorem mem_after_of_leads {spot : Spot} {τ υ : List Task} (h : Leads spot τ υ) : υ ∈ after τ := by
  obtain ⟨ready, u, hu, rfl⟩ := h
  fun_cases after τ with
  | case1 => exact absurd .done ready
  | case2 set k => exact absurd (.char set k) ready
  | case8 p q k =>
    have hu : u = ⟨.run p :: k, []⟩ ∨ u = ⟨.run q :: k, []⟩ := by simpa [Thread.unfold] using hu
    rcases hu with rfl | rfl <;> simp
  | case9 | case10 =>
    obtain ⟨tasks, htasks, rfl⟩ := List.mem_map.1 hu
    exact htasks
  | _ => simp_all [Thread.unfold]

/-- What follows a list in `S` is in `S`, or it is `k`. -/
def Spans (S : List (List Task)) (k : List Task) : Prop := ∀ τ ∈ S, ∀ υ ∈ after τ, υ = k ∨ υ ∈ S

theorem Spans.cons {S : List (List Task)} {k τ : List Task} (h : Spans S k)
    (hτ : ∀ υ ∈ after τ, υ = k ∨ υ ∈ τ :: S) : Spans (τ :: S) k := by
  intro χ hχ υ hυ
  rcases List.mem_cons.1 hχ with rfl | hχ
  · exact hτ υ hυ
  · exact (h χ hχ υ hυ).imp_right (List.mem_cons_of_mem τ)

theorem Spans.append {S T : List (List Task)} {k l : List Task} (hS : Spans S l) (hT : Spans T k)
    (hl : l ∈ T ∨ l = k) : Spans (S ++ T) k := by
  intro τ hτ υ hυ
  rcases List.mem_append.1 hτ with hτ | hτ
  · rcases hS τ hτ υ hυ with rfl | h
    · rcases hl with hl | rfl
      · exact .inr (List.mem_append_right S hl)
      · exact .inl rfl
    · exact .inr (List.mem_append_left T h)
  · exact (hT τ hτ υ hυ).imp_right (List.mem_append_right S)

/-- A list to which those in `S` come back. -/
theorem Spans.loop {S : List (List Task)} {k τ : List Task} (h : Spans S τ)
    (hτ : ∀ υ ∈ after τ, υ = k ∨ υ ∈ S) : Spans (τ :: S) k := by
  intro χ hχ υ hυ
  rcases List.mem_cons.1 hχ with rfl | hχ
  · exact (hτ υ hυ).imp_right (List.mem_cons_of_mem χ)
  · rcases h χ hχ υ hυ with rfl | h
    · exact .inr List.mem_cons_self
    · exact .inr (List.mem_cons_of_mem τ h)

theorem spans_roundStates {body : Node} {greedy : Bool} {inner : List Task → List (List Task)}
    (hinner : ∀ k, Spans (inner k) k) (hmem : ∀ k, .run body :: k ∈ inner k) (min : Nat)
    (max : Option Nat) (k : List Task) :
    Spans (roundStates body greedy inner min max k) k ∧
      .run (.times body min max greedy) :: k ∈ roundStates body greedy inner min max k := by
  fun_induction roundStates body greedy inner min max k with
  | case1 k behind =>
    have hafter : ∀ υ ∈ prefer greedy (.run body :: behind :: k) k,
        υ = k ∨ υ ∈ inner (behind :: k) := by
      intro υ hυ
      rcases mem_prefer.1 hυ with rfl | rfl
      · exact .inr (hmem _)
      · exact .inl rfl
    have hbehind : after (behind :: k) = prefer greedy (.run body :: behind :: k) k := by
      unfold behind
      cases h : body.nullable <;> simp [after, rounds, h]
    refine ⟨.cons (.loop (hinner _) (hbehind ▸ hafter)) fun υ hυ => ?_, List.mem_cons_self⟩
    exact (hafter υ hυ).imp_right fun h => List.mem_cons_of_mem _ (List.mem_cons_of_mem _ h)
  | case2 k => exact ⟨by simp [Spans, after, rounds], List.mem_cons_self⟩
  | case3 m k ih =>
    refine ⟨.cons ((hinner _).append ih.1 (.inl ih.2)) fun υ hυ => ?_, List.mem_cons_self⟩
    rcases mem_prefer.1 hυ with rfl | rfl
    · exact .inr (List.mem_cons_of_mem _ (List.mem_append_left _ (hmem _)))
    · exact .inl rfl
  | case4 k =>
    have hagain : ∀ υ ∈ after (.again body greedy :: k),
        υ = k ∨ υ ∈ inner (.again body greedy :: k) := by
      intro υ hυ
      rcases mem_prefer.1 hυ with rfl | rfl
      · exact .inr (hmem _)
      · exact .inl rfl
    refine ⟨.cons (.loop (hinner _) hagain) fun υ hυ => ?_, List.mem_cons_self⟩
    obtain rfl := List.mem_singleton.1 hυ
    exact .inr (List.mem_cons_of_mem _ (List.mem_cons_of_mem _ (hmem _)))
  | case5 n max k hmax ih =>
    refine ⟨.cons ((hinner _).append ih.1 (.inl ih.2)) fun υ hυ => ?_, List.mem_cons_self⟩
    have hυ : υ = .run body :: .run (.times body n (max.map (· - 1)) greedy) :: k := by
      simpa [after, rounds, hmax] using hυ
    exact .inr (List.mem_cons_of_mem _ (List.mem_append_left _ (hυ ▸ hmem _)))

theorem Node.spans_states (node : Node) (k : List Task) :
    Spans (node.states k) k ∧ .run node :: k ∈ node.states k := by
  induction node generalizing k with
  | empty | char | place => exact ⟨by simp [Spans, states, after], List.mem_cons_self⟩
  | group i body ih =>
    have hclose : Spans [.close i :: k] k := by simp [Spans, after]
    refine ⟨.cons ((ih _).1.append hclose (.inl List.mem_cons_self)) fun υ hυ => ?_,
      List.mem_cons_self⟩
    obtain rfl := List.mem_singleton.1 hυ
    exact .inr (List.mem_cons_of_mem _ (List.mem_append_left _ (ih _).2))
  | seq p q ihp ihq =>
    refine ⟨.cons ((ihp _).1.append (ihq k).1 (.inl (ihq k).2)) fun υ hυ => ?_,
      List.mem_cons_self⟩
    obtain rfl := List.mem_singleton.1 hυ
    exact .inr (List.mem_cons_of_mem _ (List.mem_append_left _ (ihp _).2))
  | alt p q ihp ihq =>
    refine ⟨.cons ((ihp k).1.append (ihq k).1 (.inr rfl)) fun υ hυ => ?_, List.mem_cons_self⟩
    have hυ : υ = .run p :: k ∨ υ = .run q :: k := by simpa [after] using hυ
    rcases hυ with rfl | rfl
    · exact .inr (List.mem_cons_of_mem _ (List.mem_append_left _ (ihp k).2))
    · exact .inr (List.mem_cons_of_mem _ (List.mem_append_right _ (ihq k).2))
  | times body min max greedy ih =>
    exact spans_roundStates (fun k => (ih k).1) (fun k => (ih k).2) min max k

/-! ## The number of task lists -/

/-- No repetition has more rounds at least than at most. -/
def Node.isRegular : Node → Bool
  | empty | char _ | place _ => true
  | group _ body => body.isRegular
  | seq p q | alt p q => p.isRegular && q.isRegular
  | times body min max _ => body.isRegular && max.all (min ≤ ·)

theorem length_roundStates_le {body : Node} {greedy : Bool}
    {inner : List Task → List (List Task)} {n : Nat} (hinner : ∀ k, (inner k).length ≤ n)
    (min : Nat) (max : Option Nat) (k : List Task) (hmax : ∀ m ∈ max, min ≤ m) :
    (roundStates body greedy inner min max k).length ≤ (n + 1) * (max.getD (min + 1)) + 1 := by
  fun_induction roundStates body greedy inner min max k with
  | case1 k behind =>
    have hround := hinner (behind :: k)
    simp only [List.length_cons, Option.getD_none]
    omega
  | case2 k => simp
  | case3 m k ih =>
    have hround := hinner (.run (.times body 0 (some m) greedy) :: k)
    have hrounds := ih (by simp)
    simp only [List.length_cons, List.length_append, Option.getD_some, Nat.mul_succ] at *
    omega
  | case4 k =>
    have hround := hinner (.again body greedy :: k)
    simp only [List.length_cons, Option.getD_none]
    omega
  | case5 m max k hmax' ih =>
    have hround := hinner (.run (.times body m (max.map (· - 1)) greedy) :: k)
    cases max with
    | none =>
      have hrounds := ih (by simp)
      simp only [List.length_cons, List.length_append, Option.map_none, Option.getD_none,
        Nat.mul_succ] at *
      omega
    | some l =>
      have hl : m + 1 ≤ l := hmax l rfl
      obtain ⟨l, rfl⟩ : ∃ l', l = l' + 1 := ⟨l - 1, by omega⟩
      have hrounds := ih (by simpa using hl)
      simp only [List.length_cons, List.length_append, Option.map_some, Option.getD_some,
        Nat.add_sub_cancel, Nat.mul_succ] at *
      omega

theorem Node.length_states_le {node : Node} (h : node.isRegular) (k : List Task) :
    (node.states k).length ≤ 2 * node.size := by
  induction node generalizing k with
  | empty | char | place => simp [states, size]
  | group i body ih =>
    have hbody := ih h (.close i :: k)
    simp only [states, size, List.length_cons, List.length_append, List.length_nil]
    omega
  | seq p q ihp ihq =>
    obtain ⟨hp, hq⟩ := Bool.and_eq_true_iff.1 h
    have hp := ihp hp (.run q :: k)
    have hq := ihq hq k
    simp only [states, size, List.length_cons, List.length_append]
    omega
  | alt p q ihp ihq =>
    obtain ⟨hp, hq⟩ := Bool.and_eq_true_iff.1 h
    have hp := ihp hp k
    have hq := ihq hq k
    simp only [states, size, List.length_cons, List.length_append]
    omega
  | times body min max greedy ih =>
    obtain ⟨hbody, hmax⟩ := Bool.and_eq_true_iff.1 h
    have hrounds : (roundStates body greedy body.states min max k).length ≤
        (2 * body.size + 1) * max.getD (min + 1) + 1 :=
      length_roundStates_le (ih hbody) min max k (by simpa [Option.all_eq_true] using hmax)
    simp only [states, size, Nat.add_mul, Nat.mul_assoc, Nat.mul_add] at hrounds ⊢
    omega

/-! ## Searching on -/

/-- The task lists that come up in a search. -/
def Node.allStates (node : Node) : List (List Task) := [] :: (group 0 node).states []

theorem Node.start_mem_allStates (node : Node) : node.start.tasks ∈ node.allStates :=
  List.mem_cons_of_mem _ (spans_states (group 0 node) []).2

theorem Node.after_mem_allStates (node : Node) {τ υ : List Task} (hτ : τ ∈ node.allStates)
    (hυ : υ ∈ after τ) : υ ∈ node.allStates := by
  rcases List.mem_cons.1 hτ with rfl | hτ
  · cases hυ
  · exact List.mem_cons.2 ((spans_states (group 0 node) []).1 τ hτ υ hυ)

theorem Node.length_allStates_le {node : Node} (h : node.isRegular) :
    node.allStates.length ≤ 2 * node.size + 3 := by
  have hstates : ((group 0 node).states []).length ≤ 2 * (group 0 node).size :=
    length_states_le (show (group 0 node).isRegular from h) []
  simp only [allStates, size, List.length_cons] at hstates ⊢
  omega

section

variable {node : Node} {pos : Nat} {before : Option Char} {threads : List Thread}
  {best : Option Marks} {rest : List Char}

theorem Node.leads_mem_allStates (node : Node) (spot : Spot) :
    ∀ τ ∈ node.allStates.toFinset, ∀ υ, Leads spot τ υ → υ ∈ node.allStates.toFinset := by
  intro τ hτ υ hleads
  rw [List.mem_toFinset] at hτ ⊢
  exact node.after_mem_allStates hτ (mem_after_of_leads hleads)

theorem Node.mem_pending {t : Thread} (ht : t ∈ node.pending threads best) :
    t ∈ threads ∨ t = node.start := by
  unfold pending at ht
  split at ht
  · simpa using ht
  · exact .inl ht

theorem Node.pending_mem_allStates (h : ∀ t ∈ threads, t.tasks ∈ node.allStates) :
    ∀ t ∈ node.pending threads best, t.tasks ∈ node.allStates.toFinset := by
  intro t ht
  rw [List.mem_toFinset]
  rcases mem_pending ht with ht | rfl
  · exact h t ht
  · exact node.start_mem_allStates

/-- The threads that have read a character have tasks of the pattern again. -/
theorem Node.read_mem_allStates (h : ∀ t ∈ threads, t.tasks ∈ node.allStates) (c : Char) :
    ∀ t ∈ (node.settled pos before threads best rest).1.filterMap (·.read c),
      t.tasks ∈ node.allStates := by
  intro u hu
  obtain ⟨w, hw, hread⟩ := List.mem_filterMap.1 hu
  obtain ⟨set, k, htasks, -, rfl⟩ := read_eq_some_iff.1 hread
  have hmem := (settle_mem (node.leads_mem_allStates _) _ _ _ (pending_mem_allStates h) w hw).1
  rw [List.mem_toFinset, htasks] at hmem
  exact node.after_mem_allStates hmem List.mem_cons_self

/-- A run of a pending thread ends here, or one of the threads that read the next character has a
run. -/
theorem Node.settled_complete (hnode : node.isRegular)
    (hthreads : ∀ t ∈ threads, t.tasks ∈ node.allStates)
    (h : ∃ t ∈ node.pending threads best, ∃ m, Finishes pos before rest t m) :
    (node.settled pos before threads best rest).2.isSome = true ∨
      ∃ c cs, rest = c :: cs ∧
        ∃ u ∈ (node.settled pos before threads best rest).1.filterMap (·.read c),
          ∃ m, Finishes (pos + 1) (some c) cs u m := by
  obtain ⟨t, ht, m, hrun⟩ := h
  obtain ⟨σ, hreach, hσ⟩ := hrun.exists_reaches
  have hwaits : Waits σ := by
    rcases hσ with rfl | ⟨set, k, _, _, _, rfl, -⟩
    · exact .done
    · exact .char set k
  have hclosed := node.leads_mem_allStates ⟨pos, before, rest.head?⟩
  have hpending : ∀ t ∈ node.pending threads best, t.tasks ∈ node.allStates.toFinset :=
    pending_mem_allStates hthreads
  have hfuel : (node.pending threads best).length +
      2 * (node.allStates.toFinset \ List.toFinset []).card ≤
        effort node (node.pending threads best) := by
    have hcard := List.toFinset_card_le node.allStates
    have hlength := length_allStates_le hnode
    rw [List.toFinset_nil, Finset.sdiff_empty, effort]
    omega
  rcases settle_complete hclosed _ _ [] hpending hfuel ht hwaits hreach with h | ⟨w, hw, rfl⟩
  · exact .inl h
  · obtain ⟨-, set, k, htasks⟩ := settle_mem hclosed _ _ _ hpending w hw
    rcases hσ with hσ | ⟨set, k, c, cs, marks, hσ, rfl, hc, hrun⟩
    · simp [htasks] at hσ
    · obtain ⟨m', hrun'⟩ := hrun.congr (pos + 1) (w := ⟨k, w.marks⟩) rfl
      have hread : w.read c = some ⟨k, w.marks⟩ := read_eq_some_iff.2 ⟨set, k, hσ, hc, rfl⟩
      exact .inr ⟨c, cs, rfl, _, List.mem_filterMap.2 ⟨w, hw, hread⟩, m', hrun'⟩

/-- A match that is to come begins with a pending thread or later. -/
theorem Node.exists_pending (h : best.isSome = true ∨
    (∃ t ∈ threads, ∃ m, Finishes pos before rest t m) ∨ ∃ m, node.Occurs pos before rest m) :
    best.isSome = true ∨ (∃ t ∈ node.pending threads best, ∃ m, Finishes pos before rest t m) ∨
      ∃ c cs m, rest = c :: cs ∧ node.Occurs (pos + 1) (some c) cs m := by
  cases best with
  | some marks => exact .inl rfl
  | none =>
    have hpending : node.pending threads none = threads ++ [node.start] := rfl
    rcases h with h | ⟨t, ht, hrun⟩ | ⟨m, hrun | hrun⟩
    · cases h
    · exact .inr (.inl ⟨t, by simp [hpending, ht], hrun⟩)
    · exact .inr (.inl ⟨node.start, by simp [hpending], m, hrun⟩)
    · exact .inr (.inr ⟨_, _, m, rfl, hrun⟩)

end

/-- A search that has found a match, goes on with a thread that has a run, or meets the beginning
of a run finds a match. -/
theorem scan_complete {node : Node} (hnode : node.isRegular) (pos : Nat) (before : Option Char)
    (threads : List Thread) (best : Option Marks) (rest : List Char)
    (hthreads : ∀ t ∈ threads, t.tasks ∈ node.allStates)
    (h : best.isSome = true ∨ (∃ t ∈ threads, ∃ m, Finishes pos before rest t m) ∨
      ∃ m, node.Occurs pos before rest m) :
    (scan node pos before threads best rest).isSome = true := by
  induction rest generalizing pos before threads best with
  | nil =>
    rw [scan_nil, Option.isSome_or, Bool.or_eq_true]
    rcases Node.exists_pending h with h | h | ⟨_, _, _, h, -⟩
    · exact .inr h
    · rcases Node.settled_complete hnode hthreads h with h | ⟨_, _, h, -⟩
      · exact .inl h
      · cases h
    · cases h
  | cons c cs ih =>
    rw [scan_cons]
    refine ih _ _ _ _ (Node.read_mem_allStates hthreads c) ?_
    rw [Option.isSome_or, Bool.or_eq_true]
    rcases Node.exists_pending h with h | h | ⟨_, _, m, ⟨⟩, hrun⟩
    · exact .inl (.inr h)
    · rcases Node.settled_complete hnode hthreads h with h | ⟨_, _, ⟨⟩, hrun⟩
      · exact .inl (.inl h)
      · exact .inr (.inl hrun)
    · exact .inr (.inr ⟨m, hrun⟩)

/-- A search finds a match exactly when there is one. -/
theorem Node.isSome_find?_iff {node : Node} (hnode : node.isRegular) (subject : List Char) :
    (node.find? subject).isSome = true ↔ ∃ m, node.Occurs 0 none subject m := by
  constructor
  · intro h
    obtain ⟨found, hfound⟩ := Option.isSome_iff_exists.1 h
    exact ⟨found.marks, (occurs_of_find? hfound).2⟩
  · intro h
    rw [find?, Option.isSome_map]
    exact scan_complete hnode 0 none [] none subject (by simp) (.inr (.inr h))

/-- A search finds the only way in which a pattern can match. -/
theorem Node.find?_eq_some_iff {node : Node} (hnode : node.isRegular) {subject : List Char}
    {accepts : Prop} {marks : Marks} (h : ∀ m, node.Occurs 0 none subject m ↔ accepts ∧ m = marks)
    {found : Match} : node.find? subject = some found ↔ accepts ∧ found = ⟨subject, marks⟩ := by
  constructor
  · intro hfound
    obtain ⟨hsubject, hrun⟩ := occurs_of_find? hfound
    obtain ⟨haccepts, hmarks⟩ := (h _).1 hrun
    exact ⟨haccepts, by rw [← hsubject, ← hmarks]⟩
  · rintro ⟨haccepts, rfl⟩
    obtain ⟨found, hfound⟩ := Option.isSome_iff_exists.1
      ((isSome_find?_iff hnode subject).2 ⟨marks, (h _).2 ⟨haccepts, rfl⟩⟩)
    obtain ⟨hsubject, hrun⟩ := occurs_of_find? hfound
    rw [hfound, ← hsubject, ← ((h _).1 hrun).2]

end Pattern

end FacetedSearch
