import FacetedSearch.Proofs.AnsweredFacets
import FacetedSearch.Text.Joined

/-!
# Intervals as they are written

A bucket has the written form of its interval for an id, and the index counts by that id. Whether
a bucket is marked goes by bounds. As long as no bound holds a blank the two agree: an interval can
be told from its written form, up to the difference between an open side and an empty bound.

## Main definitions

* `Interval.IsUnbroken` — no blank in a bound.
* `FacetItems.KeyedByBounds` — the ids of the items of a facet say all that their bounds say.
-/

namespace FacetedSearch

structure Interval.IsUnbroken (i : Interval) : Prop where
  lower : ∀ s ∈ i.lower, s.toList.any Text.isBlank = false
  upper : ∀ s ∈ i.upper, s.toList.any Text.isBlank = false

/-- Buckets share an id, and with it a count, when they have the same bounds; and a mark shows that
a part of the root is a range on the field with an interval whose written form is the id. -/
structure FacetItems.KeyedByBounds (root : Conjunction) (field : String)
    (items : List RangeItem) : Prop where
  id_eq_iff : ∀ x ∈ items, ∀ y ∈ items,
    x.bucket.id = y.bucket.id ↔ x.bucket.interval.sameBounds y.bucket.interval = true
  count_eq : ∀ x ∈ items, ∀ y ∈ items,
    x.bucket.interval.sameBounds y.bucket.interval = true → x.count = y.count
  isApplied_iff : ∀ x ∈ items, x.isApplied = true ↔
    ∃ name intervals, root.HasPart (.range name intervals) ∧ Text.fold name = Text.fold field ∧
      ∃ i ∈ intervals, x.bucket.id = i.canonical

namespace Interval

variable {i j : Interval} {bound bound' : Option String} {r s : List Char}

/-! ## Written bounds -/

theorem opening_inj {a b : Bool}
    (h : (if a then '[' else '(') = if b then '[' else '(') : a = b := by
  revert h
  cases a <;> cases b <;> decide

theorem closing_inj {a b : Bool}
    (h : (if a then ']' else ')') = if b then ']' else ')') : a = b := by
  revert h
  cases a <;> cases b <;> decide

theorem mem_boundChars {c : Char} : c ∈ boundChars bound ↔ ∃ s ∈ bound, c ∈ s.toList := by
  cases bound <;> simp [boundChars]

theorem chars_append (i : Interval) (rest : List Char) :
    i.chars ++ rest = (if i.includeLower then '[' else '(') ::
      (boundChars i.lower ++ ' ' :: 'T' :: 'O' :: ' ' ::
        (boundChars i.upper ++ (if i.includeUpper then ']' else ')') :: rest)) := by
  simp [chars]

/-- The front of a written interval is read up to the first space, before which there is none in a
lower bound. What is left begins with the upper bound. -/
theorem chars_append_inj (hi : ' ' ∉ boundChars i.lower) (hj : ' ' ∉ boundChars j.lower)
    (h : i.chars ++ r = j.chars ++ s) :
    i.includeLower = j.includeLower ∧ boundChars i.lower = boundChars j.lower ∧
      boundChars i.upper ++ (if i.includeUpper then ']' else ')') :: r =
        boundChars j.upper ++ (if j.includeUpper then ']' else ')') :: s := by
  rw [chars_append, chars_append] at h
  obtain ⟨hopening, hbounds⟩ := List.cons.inj h
  obtain ⟨hlower, hrest⟩ := Text.append_inj_of_all (p := (· != ' '))
    (fun c hc => by simpa using ne_of_mem_of_not_mem hc hi)
    (fun c hc => by simpa using ne_of_mem_of_not_mem hc hj) (by simp) (by simp) hbounds
  refine ⟨opening_inj hopening, hlower, ?_⟩
  simpa only [List.cons.injEq, true_and] using hrest

/-! ## Bounds without blanks -/

theorem space_not_mem_boundChars (h : ∀ s ∈ bound, s.toList.any Text.isBlank = false) :
    ' ' ∉ boundChars bound := by
  intro hspace
  obtain ⟨s, hs, hmem⟩ := mem_boundChars.1 hspace
  exact List.any_eq_false.1 (h s hs) ' ' hmem (by decide)

/-- Such a bound says what is written for it, if anything is. -/
theorem effectiveBound_eq (h : ∀ s ∈ bound, s.toList.any Text.isBlank = false) :
    effectiveBound bound =
      if boundChars bound = [] then none else some (String.ofList (boundChars bound)) := by
  cases bound with
  | none => rfl
  | some s =>
    have htrim : Text.trim s = s := Text.trim_eq_self (by simpa using h s rfl)
    rw [effectiveBound, Option.map_some, htrim]
    by_cases hs : s = ""
    · subst hs
      rfl
    · simp [boundChars, Option.filter, hs]

theorem effectiveBound_eq_iff (h : ∀ s ∈ bound, s.toList.any Text.isBlank = false)
    (h' : ∀ s ∈ bound', s.toList.any Text.isBlank = false) :
    effectiveBound bound = effectiveBound bound' ↔ boundChars bound = boundChars bound' := by
  rw [effectiveBound_eq h, effectiveBound_eq h']
  refine ⟨fun heq => ?_, fun heq => by rw [heq]⟩
  split_ifs at heq with hnil hnil' hnil'
  · rw [hnil, hnil']
  · exact String.ofList_inj.1 (Option.some.inj heq)

theorem sameBounds_iff_boundChars (hi : i.IsUnbroken) (hj : j.IsUnbroken) :
    i.sameBounds j = true ↔ boundChars i.lower = boundChars j.lower ∧
      boundChars i.upper = boundChars j.upper ∧ i.includeLower = j.includeLower ∧
        i.includeUpper = j.includeUpper := by
  rw [sameBounds_iff, effectiveBound_eq_iff hi.lower hj.lower,
    effectiveBound_eq_iff hi.upper hj.upper]

/-- Intervals without blanks in their bounds have one written form when they have the same
bounds. -/
theorem canonical_eq_iff_sameBounds (hi : i.IsUnbroken) (hj : j.IsUnbroken) :
    i.canonical = j.canonical ↔ i.sameBounds j = true := by
  rw [canonical, canonical, String.ofList_inj, sameBounds_iff_boundChars hi hj]
  constructor
  · intro h
    obtain ⟨hopening, hlower, hrest⟩ := chars_append_inj (r := []) (s := [])
      (space_not_mem_boundChars hi.lower) (space_not_mem_boundChars hj.lower) (by simpa using h)
    obtain ⟨hupper, hclosing⟩ := List.append_inj' hrest rfl
    exact ⟨hlower, hupper, hopening, closing_inj (List.cons.inj hclosing).1⟩
  · rintro ⟨hlower, hupper, hopening, hclosing⟩
    rw [chars, chars, hlower, hupper, hopening, hclosing]

end Interval

/-! ## Buckets -/

namespace Facet

variable {root : Conjunction} {a : Aggregation} {intervals : List Interval}

theorem items_ofResponse_ranges (h : a.counting = .buckets (intervals.map Aggregation.bucketOf))
    (r : AggregationResponse) :
    (ofResponse root a r).items = .ranges (intervals.map fun i =>
      ⟨Aggregation.bucketOf i, bucketCount r.values i.canonical,
        root.selectsInterval a.field i⟩) := by
  simp only [ofResponse, h, List.map_map]
  rfl

/-- The items of an aggregation whose buckets come from intervals without blanks, for a root with
such intervals. -/
theorem keyedByBounds (root : Conjunction) (field : String) (counts : List Count)
    (hintervals : ∀ i ∈ intervals, i.IsUnbroken)
    (hroot : ∀ name js, root.HasPart (.range name js) → ∀ j ∈ js, j.IsUnbroken) :
    FacetItems.KeyedByBounds root field (intervals.map fun i =>
      ⟨Aggregation.bucketOf i, bucketCount counts i.canonical, root.selectsInterval field i⟩) := by
  constructor
  case id_eq_iff =>
    simp only [List.forall_mem_map]
    exact fun i hi j hj => Interval.canonical_eq_iff_sameBounds (hintervals i hi) (hintervals j hj)
  case count_eq =>
    simp only [List.forall_mem_map]
    intro i hi j hj hbounds
    rw [(Interval.canonical_eq_iff_sameBounds (hintervals i hi) (hintervals j hj)).2 hbounds]
  case isApplied_iff =>
    rw [List.forall_mem_map]
    intro i hi
    refine (Conjunction.selects_iff_applies (s := .interval i)).trans ?_
    refine exists₂_congr fun name js => and_congr_right fun hpart => and_congr_right fun _ => ?_
    refine exists_congr fun j => and_congr_right fun hj => ?_
    rw [← Interval.canonical_eq_iff_sameBounds (hroot name js hpart j hj) (hintervals i hi)]
    exact eq_comm

/-- Written intervals and bounds agree, as long as no bound holds a blank. So the buckets of a range
share an id, and with it a count, when they have the same bounds; and a bucket is marked when its id
is the written form of an interval that a range on the field selects, as a conjunct or as a part of
a choice. -/
theorem bucket_ids_agree :
    (∀ i j : Interval, i.IsUnbroken → j.IsUnbroken →
      (i.canonical = j.canonical ↔ i.sameBounds j = true)) ∧
    ∀ (root : Conjunction) (a : Aggregation) (intervals : List Interval)
      (r : AggregationResponse), a.counting = .buckets (intervals.map Aggregation.bucketOf) →
      (∀ i ∈ intervals, i.IsUnbroken) →
      (∀ name js, root.HasPart (.range name js) → ∀ j ∈ js, j.IsUnbroken) →
      ∃ items, (ofResponse root a r).items = .ranges items ∧
        items.map (·.bucket) = intervals.map Aggregation.bucketOf ∧
        FacetItems.KeyedByBounds root a.field items := by
  refine ⟨fun _ _ => Interval.canonical_eq_iff_sameBounds, ?_⟩
  intro root a intervals r hcounting hintervals hroot
  refine ⟨_, items_ofResponse_ranges hcounting r, ?_,
    keyedByBounds root a.field r.values hintervals hroot⟩
  rw [List.map_map]
  rfl

/-- A bound is called like the word between the bounds, another one is empty. The last two buckets
have one id, so the count for the one is that for the other, and the choice selects the first. -/
theorem bucket_ids_agree_open :
    let high : Interval := .atLeast "TO"
    let low : Interval := .below "TO"
    let low' : Interval := ⟨some "", some "TO", false, false⟩
    let root : Conjunction :=
      ⟨[.ids ["p1"], .any [.range "PRICE" [⟨some "TO", some "", true, false⟩]]]⟩
    let a := Aggregation.ofRange "price" [high, low, low']
    let items : List RangeItem :=
      [⟨Aggregation.bucketOf high, 0, true⟩, ⟨Aggregation.bucketOf low, 7, false⟩,
        ⟨Aggregation.bucketOf low', 7, false⟩]
    low.sameBounds low' = true ∧ low.canonical = low'.canonical ∧
      (ofResponse root a ⟨"price", [⟨"( TO TO)", 7⟩]⟩).items = .ranges items ∧
      FacetItems.KeyedByBounds root "price" items := by
  intro high low low' root a items
  obtain ⟨hwritten, hfacets⟩ := bucket_ids_agree
  have hhigh : high.IsUnbroken := ⟨by decide, by decide⟩
  have hlow : low.IsUnbroken := ⟨by decide, by decide⟩
  have hlow' : low'.IsUnbroken := ⟨by decide, by decide⟩
  have hroot : ∀ name js, root.HasPart (.range name js) → ∀ j ∈ js, j.IsUnbroken := by
    rintro name js (hconjunct | ⟨parts, hparts, hpart⟩)
    · simp [root] at hconjunct
    · obtain rfl : parts = [.range "PRICE" [⟨some "TO", some "", true, false⟩]] := by
        simpa [root] using hparts
      obtain ⟨-, rfl⟩ := Filter.range.inj (List.mem_singleton.1 hpart)
      rw [List.forall_mem_singleton]
      exact ⟨by decide, by decide⟩
  obtain ⟨items', hitems', -, hkeyed⟩ := hfacets root a [high, low, low']
    ⟨"price", [⟨"( TO TO)", 7⟩]⟩ rfl (by simp [hhigh, hlow, hlow']) hroot
  have hitems : (ofResponse root a ⟨"price", [⟨"( TO TO)", 7⟩]⟩).items = .ranges items := by
    decide +kernel
  obtain rfl := FacetItems.ranges.inj (hitems.symm.trans hitems')
  have hbounds : low.sameBounds low' = true := by decide
  exact ⟨hbounds, (hwritten low low' hlow hlow').2 hbounds, hitems, hkeyed⟩

end Facet

end FacetedSearch
