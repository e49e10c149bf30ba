import FacetedSearch.Filter.Canonical

/-!
# Aggregations

An aggregation asks the index to count documents by the values of a field, or by intervals of
its values. Its own filter decides which documents are counted.

## Main definitions

* `Aggregation` — what to count, under an id that the answer carries.
* `Aggregation.ofField` — count the values of a field.
* `Aggregation.ofTerm`, `Aggregation.ofRange` — count the values or intervals of a filter.
* `Aggregation.pushUnique` — add an aggregation unless its id is taken.
-/

namespace FacetedSearch

/-- An interval under an id. -/
structure Bucket where
  id : String
  interval : Interval
deriving DecidableEq, Repr

/-- What is counted. -/
inductive Counting where
  /-- The given values, or those that the index finds when there are none. A `size` of zero
  leaves their number to the index. -/
  | terms (size : UInt64) (values : List String)
  | buckets (buckets : List Bucket)
deriving DecidableEq, Repr

structure Aggregation where
  id : String
  field : String
  counting : Counting
  filter : Option Filter := none
deriving DecidableEq, Repr

namespace Aggregation

/-- The values that the index finds in a field; the field name is the id. -/
def ofField (field : String) (size : UInt64) : Aggregation :=
  ⟨field, field, .terms size [], none⟩

/-- The values of a term; its canonical text is the id. -/
def ofTerm (field : String) (values : List String) : Aggregation :=
  ⟨(Filter.term field values).canonical, field, .terms (UInt64.ofNat values.length) values, none⟩

/-- An interval under its canonical text. -/
def bucketOf (i : Interval) : Bucket := ⟨i.canonical, i⟩

/-- The intervals of a range; the field name is the id. -/
def ofRange (field : String) (intervals : List Interval) : Aggregation :=
  ⟨field, field, .buckets (intervals.map bucketOf), none⟩

/-- Add an aggregation behind the others, unless one of them has its id. -/
def pushUnique (as : List Aggregation) (a : Aggregation) : List Aggregation :=
  if as.any (·.id == a.id) then as else as ++ [a]

/-- Of aggregations with one id the first. -/
def unique (as : List Aggregation) : List Aggregation := as.foldl pushUnique []

theorem mem_of_mem_pushUnique {as : List Aggregation} {a b : Aggregation}
    (h : a ∈ pushUnique as b) : a ∈ b :: as := by
  unfold pushUnique at h
  split at h
  · exact List.mem_cons_of_mem b h
  · simpa [or_comm] using h

theorem mem_of_mem_unique {as : List Aggregation} {a : Aggregation} (h : a ∈ unique as) :
    a ∈ as := by
  suffices ∀ init : List Aggregation, a ∈ as.foldl pushUnique init → a ∈ init ∨ a ∈ as by
    simpa using this [] h
  clear h
  induction as with
  | nil => exact fun _ h => .inl h
  | cons b as ih =>
    intro init h
    rcases ih (pushUnique init b) h with h | h
    · rcases List.mem_cons.1 (mem_of_mem_pushUnique h) with rfl | h
      · exact .inr List.mem_cons_self
      · exact .inl h
    · exact .inr (List.mem_cons_of_mem b h)

theorem exists_mem_pushUnique (as : List Aggregation) (a : Aggregation) :
    ∃ b ∈ pushUnique as a, b.id = a.id := by
  unfold pushUnique
  split
  · rename_i h
    simpa using h
  · exact ⟨a, by simp, rfl⟩

theorem mem_pushUnique_of_mem {as : List Aggregation} {a b : Aggregation} (h : a ∈ as) :
    a ∈ pushUnique as b := by
  unfold pushUnique
  split
  · exact h
  · exact List.mem_append_left _ h

/-- Every id stays. -/
theorem exists_mem_unique {as : List Aggregation} {a : Aggregation} (h : a ∈ as) :
    ∃ b ∈ unique as, b.id = a.id := by
  suffices ∀ init : List Aggregation, a ∈ as ∨ (∃ b ∈ init, b.id = a.id) →
      ∃ b ∈ as.foldl pushUnique init, b.id = a.id from this [] (.inl h)
  clear h
  induction as with
  | nil => simp
  | cons c as ih =>
    rintro init (h | ⟨b, hb, hid⟩)
    · rcases List.mem_cons.1 h with rfl | h
      · exact ih _ (.inr (exists_mem_pushUnique init a))
      · exact ih _ (.inl h)
    · exact ih _ (.inr ⟨b, mem_pushUnique_of_mem hb, hid⟩)

theorem nodup_pushUnique {as : List Aggregation} {a : Aggregation}
    (h : (as.map (·.id)).Nodup) : ((pushUnique as a).map (·.id)).Nodup := by
  unfold pushUnique
  split
  · exact h
  · simp_all [List.nodup_append]

theorem nodup_unique (as : List Aggregation) : ((unique as).map (·.id)).Nodup := by
  suffices ∀ init : List Aggregation, (init.map (·.id)).Nodup →
      ((as.foldl pushUnique init).map (·.id)).Nodup from this [] (by simp)
  induction as with
  | nil => exact fun _ h => h
  | cons a as ih => exact fun init h => ih _ (nodup_pushUnique h)

end Aggregation

end FacetedSearch
