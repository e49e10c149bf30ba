import Mathlib.Data.List.Basic
import FacetedSearch.Request

/-!
# Beginnings of names

Whether a name begins another one is decided on octets, and comes out as it does on characters. A
beginning of a beginning is a beginning, so the facet of a longer field sees no more of the root
than the facet of a field that begins it.
-/

namespace FacetedSearch

namespace Text

variable {s t start : String}

theorem checkStart_eq_ok (s start : String) : checkStart s start = .ok (startsWith s start) := by
  rw [startsWith, checkStart_eq]

theorem startsWith_trans (h : startsWith s start = true) (h' : startsWith t s = true) :
    startsWith t start = true :=
  startsWith_iff.2 ((startsWith_iff.1 h).trans (startsWith_iff.1 h'))

/-- What is compared with `start` consists of whole characters. -/
theorem exists_slice_of_isBoundary (h : isBoundary s.toList (octets start).length = true) :
    ∃ front, slice s.toList 0 (octets start).length = .ok front ∧ front <+: s.toList ∧
      encode front = (octets s).take (octets start).length := by
  obtain ⟨front, rest, hs, hlen⟩ := isBoundary_iff.1 h
  have hslice : slice s.toList 0 (octets start).length = .ok front := by
    rw [hs, ← hlen, slice_left]
  exact ⟨front, hslice, ⟨rest, hs.symm⟩, encode_of_slice_eq_ok hslice⟩

end Text

namespace Conjunction

variable {root : Conjunction} {field field' : String}

/-- What is left out for a field is left out for every field that it begins. -/
theorem without_sublist (h : Text.startsWith field' field = true) :
    (root.without field').conjuncts.Sublist (root.without field).conjuncts := by
  refine List.monotone_filter_right _ fun f hf => ?_
  cases hname : f.fieldName? with
  | none => rfl
  | some name =>
    have hkept : ¬ Text.startsWith field' name = true := by simpa [hname] using hf
    simpa using fun hbegins => hkept (Text.startsWith_trans hbegins h)

theorem without_comm (root : Conjunction) (field field' : String) :
    (root.without field).without field' = (root.without field').without field := by
  simp only [without, List.filter_filter, Bool.and_comm]

/-- A name is found to begin another one exactly when its characters do, up to ASCII case. For that
a part is cut out only where one lies, and it consists of whole characters, with the octets that
are to be compared. To begin a name is reflexive and transitive; so what is kept for a field is
kept for the fields that begin it, in the same order, and it does not matter which one of two
fields is isolated from first. -/
theorem without_by_characters :
    (∀ s start : String,
      Text.checkStart s start = .ok (Text.startsWith s start) ∧
      (Text.startsWith s start = true ↔ Text.fold start <+: Text.fold s) ∧
      let n := (Text.octets start).length
      (n ≤ (Text.octets s).length → Text.isBoundary s.toList n = true →
        Text.IsCut s.toList 0 n ∧ ∃ front, Text.slice s.toList 0 n = .ok front ∧
          front <+: s.toList ∧ Text.encode front = (Text.octets s).take n)) ∧
    (∀ s : String, Text.startsWith s s = true) ∧
    (∀ start s t : String, Text.startsWith s start = true → Text.startsWith t s = true →
      Text.startsWith t start = true) ∧
    (∀ (root : Conjunction) (field field' : String), Text.fold field <+: Text.fold field' →
      (root.without field').conjuncts.Sublist (root.without field).conjuncts) ∧
    ∀ (root : Conjunction) (field field' : String),
      (root.without field).without field' = (root.without field').without field := by
  refine ⟨fun s start => ⟨Text.checkStart_eq_ok s start, Text.startsWith_iff, ?_⟩,
    Text.startsWith_self, fun _ _ _ => Text.startsWith_trans,
    fun _ _ _ h => without_sublist (Text.startsWith_iff.2 h), without_comm⟩
  intro n _ hboundary
  obtain ⟨front, hslice, hfront⟩ := Text.exists_slice_of_isBoundary hboundary
  exact ⟨Text.isCut_of_slice_eq_ok hslice, front, hslice, hfront⟩

/-- Only ASCII letters are the same in both cases, and three octets end inside the third letter. -/
theorem without_by_characters_sizes :
    let root : Conjunction :=
      ⟨[.term "GRöße" ["L"], .term "grÖße" ["M"], .term "gro" ["S"], .ids ["p1"]]⟩
    Text.startsWith "größe_eu" "GRöße" = true ∧
      Text.isBoundary "größe_eu".toList (Text.octets "gro").length = false ∧
      Text.checkStart "größe_eu" "gro" = .ok false ∧
      (root.without "größe_eu").conjuncts =
        [.term "grÖße" ["M"], .term "gro" ["S"], .ids ["p1"]] ∧
      (root.without "größe_eu").conjuncts.Sublist (root.without "GR").conjuncts := by
  intro root
  obtain ⟨hstarts, -, -, hsublist, -⟩ := without_by_characters
  have hother : Text.startsWith "größe_eu" "gro" = false := by decide
  exact ⟨(hstarts _ _).2.1.2 (by decide), by decide, hother ▸ (hstarts _ _).1, by decide,
    hsublist root "GR" "größe_eu" (by decide)⟩

end Conjunction

end FacetedSearch
