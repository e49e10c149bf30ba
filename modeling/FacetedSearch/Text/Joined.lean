import FacetedSearch.Text.Split

/-!
# Texts that come apart from the front

A text that was put together is read from its front. A run of characters of one kind ends where
a character of another kind follows, and joined values come apart when each of them can be told
from what follows it.
-/

namespace FacetedSearch

namespace Text

/-- A run of one kind of characters is told from what follows it. -/
theorem append_inj_of_all {p : Char → Bool} {u v r s : List Char} (hu : ∀ c ∈ u, p c = true)
    (hv : ∀ c ∈ v, p c = true) (hr : ∀ c ∈ r.head?, p c = false)
    (hs : ∀ c ∈ s.head?, p c = false) (h : u ++ r = v ++ s) : u = v ∧ r = s := by
  have hrun : ∀ {w t : List Char}, (∀ c ∈ w, p c = true) → (∀ c ∈ t.head?, p c = false) →
      (w ++ t).takeWhile p = w := by
    intro w t hw ht
    have hstop : t.takeWhile p = [] := by
      cases t with
      | nil => rfl
      | cons c t => exact List.takeWhile_cons_of_neg (by simp [ht c rfl])
    rw [List.takeWhile_append_of_pos hw, hstop, List.append_nil]
  obtain rfl : u = v := by rw [← hrun hu hr, h, hrun hv hs]
  exact ⟨rfl, List.append_cancel_left h⟩

theorem intercalate_cons_cons_append {α : Type} (write : α → List Char) (joint : List Char)
    (a b : α) (as : List α) (rest : List Char) :
    List.intercalate joint ((a :: b :: as).map write) ++ rest =
      write a ++ (joint ++ (List.intercalate joint ((b :: as).map write) ++ rest)) := by
  simp [List.intercalate_cons_cons]

/-- Joined values come apart when each can be told from whatever `stop` allows behind it, which
has to be what the joint begins and what follows the last value. -/
theorem intercalate_append_inj {α : Type} (write : α → List Char) (stop : List Char → Prop)
    {joint : List Char} {as bs : List α} {r s : List Char}
    (hread : ∀ a ∈ as, ∀ b ∈ bs, ∀ r s, stop r → stop s → write a ++ r = write b ++ s →
      a = b ∧ r = s)
    (hjoint : ∀ rest, stop (joint ++ rest)) (hr : stop r) (hs : stop s)
    (hr' : ¬ joint <+: r) (hs' : ¬ joint <+: s) (has : as ≠ []) (hbs : bs ≠ [])
    (h : List.intercalate joint (as.map write) ++ r =
      List.intercalate joint (bs.map write) ++ s) : as = bs ∧ r = s := by
  induction as generalizing bs with
  | nil => exact absurd rfl has
  | cons a as ih =>
    obtain ⟨b, bs, rfl⟩ := List.exists_cons_of_ne_nil hbs
    have hhead := hread a List.mem_cons_self b List.mem_cons_self
    cases as with
    | nil =>
      cases bs with
      | nil =>
        obtain ⟨rfl, hrest⟩ := hhead r s hr hs (by simpa using h)
        exact ⟨rfl, hrest⟩
      | cons b' bs =>
        rw [intercalate_cons_cons_append, List.map_singleton, List.intercalate_singleton] at h
        obtain ⟨-, rfl⟩ := hhead _ _ hr (hjoint _) h
        exact absurd (List.prefix_append _ _) hr'
    | cons a' as =>
      cases bs with
      | nil =>
        rw [intercalate_cons_cons_append, List.map_singleton, List.intercalate_singleton] at h
        obtain ⟨-, rfl⟩ := hhead _ _ (hjoint _) hs h
        exact absurd (List.prefix_append _ _) hs'
      | cons b' bs =>
        rw [intercalate_cons_cons_append, intercalate_cons_cons_append] at h
        obtain ⟨rfl, hrest⟩ := hhead _ _ (hjoint _) (hjoint _) h
        obtain ⟨htail, hend⟩ := ih
          (fun c hc d hd => hread c (List.mem_cons_of_mem a hc) d (List.mem_cons_of_mem a hd))
          (by simp) (by simp) (List.append_cancel_left hrest)
        exact ⟨by rw [htail], hend⟩

end Text

end FacetedSearch
