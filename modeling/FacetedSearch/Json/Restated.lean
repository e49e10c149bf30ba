import Mathlib.Data.List.Forall2
import FacetedSearch.Json.Record

/-!
# Values that say the same

The members of an object have no order, and a record passes over the members that it does not
have. A record can so be written in many ways; a reader has to find the same in all of them.

## Main definitions

* `Json.Reordered` — the members of objects in another order, at any depth.
* `Json.Widens` — unknown members are added, and null stands for what is missing, or the reverse.
* `Json.Restates` — both together: what others may have made of a written record.
* `Json.ReadsBack` — what was written is read as what it was, restated or not.
* `Json.Seen` — what readers of parts find among the members of a restated record.
-/

namespace FacetedSearch

namespace Json

/-! ## Restatements -/

inductive Reordered : Json → Json → Prop
  | refl (j : Json) : Reordered j j
  | arr {as bs : List Json} (items : List.Forall₂ Reordered as bs) : Reordered (arr as) (arr bs)
  /-- The names are distinct; each value may be reordered itself. -/
  | obj {ms ns ks : Members} (distinct : (ms.map Prod.fst).Nodup)
      (names : ms.map Prod.fst = ns.map Prod.fst)
      (values : List.Forall₂ Reordered (ms.map Prod.snd) (ns.map Prod.snd))
      (order : ns.Perm ks) : Reordered (obj ms) (obj ks)

/-- The members `ms` with others under names that are unknown to the record: it has the names of
`ms` and those in `leftOut`. A null may be left out or put in under the `optional` names. -/
structure Widens (leftOut optional : List String) (ms ns : Members) : Prop where
  distinct : (ns.map Prod.fst).Nodup
  dropped : ∀ m ∈ ms, m ∉ ns → m.1 ∉ ns.map Prod.fst ∧ m.1 ∈ optional ∧ m.2 = null
  added : ∀ m ∈ ns, m ∉ ms →
    m.1 ∉ ms.map Prod.fst ∧ (m.1 ∈ leftOut → m.1 ∈ optional ∧ m.2 = null)

/-- `k` is the record `j` with unknown members, and in any order. -/
def Restates (leftOut optional : List String) (j k : Json) : Prop :=
  ∃ ms ns, j = obj ms ∧ Widens leftOut optional ms ns ∧ Reordered (obj ns) k

/-- A written record `j` is read as the `a` that it was, and its restatements as the same. -/
structure ReadsBack {α : Type} (read : Json → Option α) (same : α → α → Prop)
    (leftOut optional : List String) (j : Json) (a : α) : Prop where
  written : read j = some a
  restated : ∀ k, Restates leftOut optional j k → ∃ b, read k = some b ∧ same a b

theorem Widens.refl (leftOut optional : List String) {ms : Members}
    (distinct : (ms.map Prod.fst).Nodup) : Widens leftOut optional ms ms :=
  ⟨distinct, fun _ h hn => absurd h hn, fun _ h hn => absurd h hn⟩

/-! ## Members by name -/

theorem lookup_eq_none_iff_not_mem {ms : Members} {name : String} :
    ms.lookup name = none ↔ name ∉ ms.map Prod.fst := by
  simp only [List.lookup_eq_none_iff, List.mem_map, not_exists, not_and, bne_iff_ne]
  exact ⟨fun h m hm hn => h m hm hn.symm, fun h m hm hn => h m hm hn.symm⟩

theorem mem_of_lookup_eq_some {ms : Members} {name : String} {j : Json}
    (h : ms.lookup name = some j) : (name, j) ∈ ms := by
  obtain ⟨l, r, rfl, -⟩ := List.lookup_eq_some_iff.1 h
  simp

theorem lookup_eq_some_iff_mem {ms : Members} (distinct : (ms.map Prod.fst).Nodup) {name : String}
    {j : Json} : ms.lookup name = some j ↔ (name, j) ∈ ms := by
  refine ⟨mem_of_lookup_eq_some, fun h => ?_⟩
  obtain ⟨l, r, rfl⟩ := List.append_of_mem h
  have hl : ∀ m ∈ l, name ≠ m.1 := by
    rintro m hm rfl
    rw [List.map_append, List.map_cons, List.nodup_append] at distinct
    exact distinct.2.2 _ (List.mem_map_of_mem hm) _ List.mem_cons_self rfl
  exact List.lookup_eq_some_iff.2 ⟨l, r, rfl, fun m hm => by simpa using hl m hm⟩

theorem lookup_of_perm {ms ns : Members} (distinct : (ms.map Prod.fst).Nodup) (h : ms.Perm ns)
    (name : String) : ms.lookup name = ns.lookup name := by
  have distinct' : (ns.map Prod.fst).Nodup := (h.map Prod.fst).nodup_iff.1 distinct
  ext j
  rw [lookup_eq_some_iff_mem distinct, lookup_eq_some_iff_mem distinct', h.mem_iff]

theorem lookup_append_of_mem {ms : Members} {name : String} (h : name ∈ ms.map Prod.fst)
    (ns : Members) : (ms ++ ns).lookup name = ms.lookup name := by
  rw [List.lookup_append]
  cases hms : ms.lookup name with
  | none => exact absurd h (lookup_eq_none_iff_not_mem.1 hms)
  | some j => rfl

/-! ## What reordering keeps -/

theorem exists_lookup_of_values {ms ns : Members} (names : ms.map Prod.fst = ns.map Prod.fst)
    (values : List.Forall₂ Reordered (ms.map Prod.snd) (ns.map Prod.snd)) {name : String} {j : Json}
    (h : ms.lookup name = some j) : ∃ k, ns.lookup name = some k ∧ Reordered j k := by
  induction ms generalizing ns with
  | nil => simp at h
  | cons m ms ih =>
    cases ns with
    | nil => simp at names
    | cons n ns =>
      obtain ⟨hname, names⟩ : m.1 = n.1 ∧ ms.map Prod.fst = ns.map Prod.fst := by simpa using names
      rw [List.map_cons, List.map_cons, List.forall₂_cons] at values
      rw [List.lookup_cons] at h
      rw [List.lookup_cons, ← hname]
      cases hm : name == m.1 with
      | true =>
        obtain rfl : m.2 = j := by simpa [hm] using h
        exact ⟨n.2, rfl, values.1⟩
      | false => exact ih names values.2 (by simpa [hm] using h)

theorem Reordered.exists_items {as : List Json} {k : Json} (h : Reordered (.arr as) k) :
    ∃ bs, k = .arr bs ∧ List.Forall₂ Reordered as bs := by
  cases h with
  | refl => exact ⟨as, rfl, List.forall₂_same.2 fun j _ => .refl j⟩
  | arr items => exact ⟨_, rfl, items⟩

theorem Reordered.exists_members {ms : Members} {k : Json} (h : Reordered (.obj ms) k) :
    ∃ ns : Members, k = .obj ns ∧
      (∀ name j, ms.lookup name = some j → ∃ k, ns.lookup name = some k ∧ Reordered j k) ∧
      ∀ name, ms.lookup name = none → ns.lookup name = none := by
  cases h with
  | refl => exact ⟨ms, rfl, fun _ j hj => ⟨j, hj, .refl j⟩, fun _ h => h⟩
  | @obj _ ns ks distinct names values order =>
    have hlook := lookup_of_perm (names ▸ distinct) order
    refine ⟨ks, rfl, fun name j hj => ?_, fun name hnone => ?_⟩
    · rw [← hlook]
      exact exists_lookup_of_values names values hj
    · rwa [← hlook, lookup_eq_none_iff_not_mem, ← names, ← lookup_eq_none_iff_not_mem]

/-- What a reader finds among the members `ns` of a restatement of a record with members `ms`. -/
structure Seen (leftOut optional : List String) (ms ns : Members) : Prop where
  present : ∀ name j, ms.lookup name = some j →
    (∃ k, ns.lookup name = some k ∧ Reordered j k) ∨
      name ∈ optional ∧ j = null ∧ ns.lookup name = none
  absent : ∀ name ∈ leftOut, ms.lookup name = none →
    ns.lookup name = none ∨ name ∈ optional ∧ ns.lookup name = some null

theorem Restates.exists_seen {leftOut optional : List String} {ms : Members} {k : Json}
    (h : Restates leftOut optional (obj ms) k) :
    ∃ ns, k = obj ns ∧ Seen leftOut optional ms ns := by
  obtain ⟨_, ks, ⟨⟩, hw, hr⟩ := h
  obtain ⟨ns, rfl, stays, gone⟩ := hr.exists_members
  refine ⟨ns, rfl, fun name j hj => ?_, fun name hname hnone => ?_⟩
  · by_cases hk : (name, j) ∈ ks
    · exact .inl (stays name j ((lookup_eq_some_iff_mem hw.distinct).2 hk))
    · obtain ⟨hgone, hopt, hnull⟩ := hw.dropped _ (mem_of_lookup_eq_some hj) hk
      exact .inr ⟨hopt, hnull, gone name (lookup_eq_none_iff_not_mem.2 hgone)⟩
  · cases hks : ks.lookup name with
    | none => exact .inl (gone name hks)
    | some j =>
      have hnew : (name, j) ∉ ms := fun h =>
        lookup_eq_none_iff_not_mem.1 hnone (List.mem_map_of_mem (f := Prod.fst) h)
      obtain ⟨hopt, rfl⟩ := (hw.added _ (mem_of_lookup_eq_some hks) hnew).2 hname
      obtain ⟨_, hlook, ⟨⟩⟩ := stays name _ hks
      exact .inr ⟨hopt, hlook⟩

/-! ## Reading what was written -/

variable {α : Type} {read : Json → Option α} {write : α → Json}

/-- A value is read as `a` whatever the order of its members. -/
def Recovers (read : Json → Option α) (j : Json) (a : α) : Prop :=
  ∀ k, Reordered j k → read k = some a

theorem recovers_str (s : String) : Recovers string? (str s) s := by
  rintro _ ⟨⟩
  rfl

theorem recovers_bool (b : Bool) : Recovers bool? (bool b) b := by
  rintro _ ⟨⟩
  rfl

theorem recovers_double (x : Binary64) : Recovers double? (double x) x := by
  rintro _ ⟨⟩
  rfl

theorem recovers_count (n : UInt64) : Recovers count? (ofCount n) n := by
  rintro _ ⟨⟩
  have h := n.toNat_lt
  simp only [count?, nat?, ofCount, Int.natCast_nonneg, Int.toNat_natCast, true_and]
  rw [if_pos (by simpa using by omega)]
  simp

theorem recovers_level (n : UInt32) : Recovers level? (ofLevel n) n := by
  rintro _ ⟨⟩
  have h := n.toNat_lt
  simp only [level?, nat?, ofLevel, Int.natCast_nonneg, Int.toNat_natCast, true_and]
  rw [if_pos (by simpa using by omega)]
  simp

theorem recovers_window (n : Int64) : Recovers window? (ofWindow n) n := by
  rintro _ ⟨⟩
  simp only [window?, int?, ofWindow]
  rw [if_pos ⟨n.minValue_le_toInt, n.toInt_le⟩]
  simp

theorem recovers_list {as : List α} (h : ∀ a ∈ as, Recovers read (write a) a) :
    Recovers (list? read) (ofList write as) as := by
  intro k hk
  obtain ⟨js, rfl, hjs⟩ := hk.exists_items
  clear hk
  show js.mapM read = some as
  induction as generalizing js with
  | nil =>
    cases hjs
    rfl
  | cons a as ih =>
    obtain ⟨j, js, ha, has, rfl⟩ := List.forall₂_cons_left_iff.1 hjs
    have hj : read j = some a := h a List.mem_cons_self j ha
    have hjs : js.mapM read = some as :=
      ih (fun b hb => h b (List.mem_cons_of_mem a hb)) js has
    simp [hj, hjs]

theorem recovers_strings (ss : List String) : Recovers strings? (ofStrings ss) ss :=
  recovers_list fun s _ => recovers_str s

theorem ReadsBack.recovers {leftOut optional : List String} {j : Json} {a : α}
    (h : ReadsBack read Eq leftOut optional j a) (hj : j.array? = none) : Recovers read j a := by
  intro k hk
  have hwhole : Restates leftOut optional j k ∨ k = j := by
    cases hk with
    | refl => exact .inr rfl
    | arr => simp [array?] at hj
    | @obj ms _ _ distinct names values order =>
      exact .inl ⟨ms, ms, rfl, .refl leftOut optional distinct, .obj distinct names values order⟩
  rcases hwhole with hk | rfl
  · obtain ⟨_, hread, rfl⟩ := h.restated k hk
    exact hread
  · exact h.written

namespace Seen

variable {leftOut optional : List String} {ms ns : Members}

theorem refl (leftOut optional : List String) (ms : Members) : Seen leftOut optional ms ms :=
  ⟨fun _ j hj => .inl ⟨j, hj, .refl j⟩, fun _ _ h => .inl h⟩

theorem required (h : Seen leftOut optional ms ns) (name : String) {j : Json} {a : α}
    (hj : ms.lookup name = some j) (hname : name ∉ optional) (hread : Recovers read j a) :
    required name read ns = some a := by
  rcases h.present name j hj with ⟨k, hk, hjk⟩ | ⟨hopt, -⟩
  · simp [Json.required, hk, hread k hjk]
  · exact absurd hopt hname

theorem defaulted (h : Seen leftOut optional ms ns) (name : String) (value : α) {j : Json} {a : α}
    (hj : ms.lookup name = some j) (hname : name ∉ optional) (hread : Recovers read j a) :
    defaulted name value read ns = some a := by
  rcases h.present name j hj with ⟨k, hk, hjk⟩ | ⟨hopt, -⟩
  · simp [Json.defaulted, hk, hread k hjk]
  · exact absurd hopt hname

/-- The items of an array, each of them reordered. -/
theorem items (h : Seen leftOut optional ms ns) (name : String) {js : List Json}
    (hj : ms.lookup name = some (arr js)) :
    ∃ ks, ns.lookup name = some (arr ks) ∧ List.Forall₂ Reordered js ks := by
  rcases h.present name _ hj with ⟨_, hk, hjk⟩ | ⟨-, hj, -⟩
  · obtain ⟨ks, rfl, hks⟩ := hjk.exists_items
    exact ⟨ks, hk, hks⟩
  · cases hj

/-- A part that was left out gets its own value back. -/
theorem defaulted_leftOut (h : Seen leftOut optional ms ns) (name : String) (value : α)
    (hnone : ms.lookup name = none) (hname : name ∈ leftOut) (hopt : name ∉ optional) :
    Json.defaulted name value read ns = some value := by
  rcases h.absent name hname hnone with hn | ⟨ho, -⟩
  · simp [Json.defaulted, hn]
  · exact absurd ho hopt

/-- A part that may be missing: written as null or left out when there is none. -/
theorem nullable (h : Seen leftOut optional ms ns) (name : String) {x : Option α}
    (hx : ms.lookup name = some (ofOption write x) ∨ ms.lookup name = x.map write ∧ name ∈ leftOut)
    (hread : ∀ a, x = some a → Recovers read (write a) a) (hnull : read null = none) :
    nullable name read ns = some x := by
  cases x with
  | none =>
    have hn : ns.lookup name = none ∨ ns.lookup name = some null := by
      rcases hx with hx | ⟨hx, hname⟩
      · rcases h.present name _ hx with ⟨_, hk, ⟨⟩⟩ | ⟨-, -, hn⟩
        · exact .inr hk
        · exact .inl hn
      · exact (h.absent name hname hx).imp_right And.right
    rcases hn with hn | hn <;> simp [Json.nullable, hn]
  | some a =>
    have hj : ms.lookup name = some (write a) := hx.elim id And.left
    rcases h.present name _ hj with ⟨k, hk, hjk⟩ | ⟨-, hj, -⟩
    · have ha := hread a rfl k hjk
      have hne : k ≠ null := by
        rintro rfl
        simp [hnull] at ha
      simp [Json.nullable, hk, ha]
    · have ha := hread a rfl _ (.refl _)
      simp [hj, hnull] at ha

end Seen

theorem ReadsBack.of_seen {leftOut optional : List String} {ms : Members} {a : α}
    (h : ∀ ns, Seen leftOut optional ms ns → read (obj ns) = some a) :
    ReadsBack read Eq leftOut optional (obj ms) a := by
  refine ⟨h ms (.refl leftOut optional ms), fun k hk => ?_⟩
  obtain ⟨ns, rfl, hns⟩ := hk.exists_seen
  exact ⟨a, h ns hns, rfl⟩

end Json

end FacetedSearch
