import FacetedSearch.Proofs.AnsweredFacets
import Mathlib.Data.List.Nodup

/-!
# Answers in another order

An index may give its answers, and the counts within an answer, in any order. As long as nothing
is answered twice, the facets show the order of the request, except that a facet without requested
values lists the counts as they come. Of counts for values that differ in letter case only, the
order decides which one a requested value gets.

## Main definitions

* `Request.facet?` — the facet for one aggregation.
* `Aggregation.ListsCounts` — a facet lists the counts as they come.
-/

namespace FacetedSearch

/-- No values are requested, so that the facet lists the counts of the answer. -/
def Aggregation.ListsCounts (a : Aggregation) : Prop := ∃ size, a.counting = .terms size []

/-- The facet for an aggregation, if it is answered. -/
def Request.facet? (request : Request) (responses : List AggregationResponse) (a : Aggregation) :
    Option Facet :=
  (responses.reverse.find? (·.id == a.id)).map (Facet.ofResponse request.filter a)

/-! ## Look-ups -/

section Lookups

variable {α κ : Type} {key : α → κ} {test : α → Bool} {xs ys : List α} {k : κ}

/-- Whatever has a key that no two elements share is found, wherever it stands. -/
theorem find?_eq_some_iff_of_mem_iff (hkeys : (ys.map key).Nodup)
    (htest : ∀ x, test x = true → key x = k) (hmem : ∀ x, test x = true → (x ∈ xs ↔ x ∈ ys))
    (x : α) : xs.find? test = some x ↔ x ∈ ys ∧ test x = true := by
  constructor
  · intro h
    have hx := List.find?_some h
    exact ⟨(hmem x hx).1 (List.mem_of_find?_eq_some h), hx⟩
  · rintro ⟨hx, hxtest⟩
    obtain ⟨y, hy⟩ : ∃ y, xs.find? test = some y := by
      rw [← Option.isSome_iff_exists, List.find?_isSome]
      exact ⟨x, (hmem x hxtest).2 hx, hxtest⟩
    have hytest := List.find?_some hy
    have hyx : y = x := List.inj_on_of_nodup_map hkeys
      ((hmem y hytest).1 (List.mem_of_find?_eq_some hy)) hx
      ((htest y hytest).trans (htest x hxtest).symm)
    rw [hy, hyx]

/-- A look-up by such a key depends on what is in the list, not on where. -/
theorem find?_eq_of_mem_iff (hkeys : (ys.map key).Nodup) (htest : ∀ x, test x = true → key x = k)
    (hmem : ∀ x, test x = true → (x ∈ xs ↔ x ∈ ys)) : xs.find? test = ys.find? test :=
  Option.ext fun x => by
    rw [find?_eq_some_iff_of_mem_iff hkeys htest hmem,
      find?_eq_some_iff_of_mem_iff hkeys htest fun _ _ => Iff.rfl]

variable {counts counts' : List Count}

theorem termCounts_eq_of_perm (hperm : counts'.Perm counts)
    (hids : (counts.map fun c => Text.fold c.id).Nodup) {requested : List String}
    (hrequested : requested ≠ []) :
    termCounts requested counts' = termCounts requested counts := by
  have hnonempty : ¬ requested.isEmpty = true := by simpa using hrequested
  have hfind : ∀ term, counts'.find? (fun c => Text.same c.id term) =
      counts.find? fun c => Text.same c.id term :=
    fun _ => find?_eq_of_mem_iff hids (fun _ => Text.same_iff.1) fun _ _ => hperm.mem_iff
  simp only [termCounts, if_neg hnonempty, hfind]

theorem bucketCount_eq_of_perm (hperm : counts'.Perm counts)
    (hids : (counts.map fun c => Text.fold c.id).Nodup) (id : String) :
    bucketCount counts' id = bucketCount counts id := by
  have hkeys : (counts.reverse.map fun c => Text.fold c.id).Nodup := by
    rw [List.map_reverse]
    exact List.nodup_reverse.2 hids
  have hfind : counts'.reverse.find? (·.id == id) = counts.reverse.find? (·.id == id) := by
    refine find?_eq_of_mem_iff hkeys (k := Text.fold id) (fun c hc => ?_) fun c _ => ?_
    · rw [beq_iff_eq.1 hc]
    · rw [List.mem_reverse, List.mem_reverse, hperm.mem_iff]
  rw [bucketCount, bucketCount, hfind]

end Lookups

/-! ## Facets -/

namespace Facet

variable {root : Conjunction} {a : Aggregation} {r r' : AggregationResponse}

/-- Where values or buckets are requested the order of the counts does not show. -/
theorem ofResponse_eq_of_perm (ha : ¬ a.ListsCounts) (hperm : r'.values.Perm r.values)
    (hids : (r.values.map fun c => Text.fold c.id).Nodup) :
    ofResponse root a r' = ofResponse root a r := by
  unfold ofResponse
  cases hcounting : a.counting with
  | terms size requested =>
    have hrequested : requested ≠ [] := by
      rintro rfl
      exact ha ⟨size, hcounting⟩
    simp only [termCounts_eq_of_perm hperm hids hrequested]
  | buckets buckets => simp only [bucketCount_eq_of_perm hperm hids]

theorem ofResponse_of_listsCounts (ha : a.ListsCounts) : ofResponse root a r =
    ⟨a.id, a.field, .terms (r.values.map fun c =>
      ⟨c.id, c.count, root.selectsTerm a.field c.id⟩)⟩ := by
  obtain ⟨size, hcounting⟩ := ha
  simp only [ofResponse, hcounting, termCounts, List.isEmpty_nil, if_pos, List.map_map]
  rfl

end Facet

namespace Request

variable {request : Request} {responses responses' extra before after : List AggregationResponse}
  {a : Aggregation} {r : AggregationResponse}

theorem facets_eq_filterMap (request : Request) (responses : List AggregationResponse) :
    request.facets responses = request.aggregations.filterMap (request.facet? responses) := rfl

theorem facet?_eq_none_iff (request : Request) :
    request.facet? responses a = none ↔ ∀ r ∈ responses, r.id ≠ a.id := by
  simp [facet?]

/-- A later answer comes before the one at hand, and this one before the earlier ones. -/
theorem facet?_append_cons : request.facet? (before ++ r :: after) a =
    (request.facet? after a).or
      (if r.id = a.id then some (Facet.ofResponse request.filter a r)
        else request.facet? before a) := by
  simp only [facet?, List.reverse_append, List.reverse_cons, List.append_assoc,
    List.find?_append, List.find?_singleton, beq_iff_eq]
  cases after.reverse.find? (·.id == a.id) with
  | some s => rfl
  | none => split <;> simp

theorem facet?_eq_some_of_last (request : Request)
    (hr : LastWhere (fun r => r.id = a.id) responses r) :
    request.facet? responses a = some (Facet.ofResponse request.filter a r) := by
  rw [facet?, (lastWhere_iff fun _ => beq_iff_eq).1 hr, Option.map_some]

/-- Answers with ids of their own can come in any order, and with others between them. -/
theorem facet?_eq_of_perm (hids : (responses.map (·.id)).Nodup)
    (hperm : responses'.Perm (responses ++ extra)) (hextra : ∀ r ∈ extra, r.id ≠ a.id) :
    request.facet? responses' a = request.facet? responses a := by
  have hkeys : (responses.reverse.map (·.id)).Nodup := by
    rw [List.map_reverse]
    exact List.nodup_reverse.2 hids
  have hfind : responses'.reverse.find? (·.id == a.id) =
      responses.reverse.find? (·.id == a.id) := by
    refine find?_eq_of_mem_iff hkeys (fun _ => beq_iff_eq.1) fun r hr => ?_
    rw [List.mem_reverse, List.mem_reverse, hperm.mem_iff, List.mem_append]
    exact or_iff_left fun h => hextra r h (beq_iff_eq.1 hr)
  rw [facet?, facet?, hfind]

/-- Reordered counts show in a facet only if it lists them. -/
theorem facet?_eq_of_recounted {counts : List Count} (hperm : counts.Perm r.values)
    (hids : (r.values.map fun c => Text.fold c.id).Nodup)
    (ha : ¬ (a.ListsCounts ∧ r.id = a.id ∧ ∀ s ∈ after, s.id ≠ a.id)) :
    request.facet? (before ++ { r with values := counts } :: after) a =
      request.facet? (before ++ r :: after) a := by
  rw [facet?_append_cons, facet?_append_cons]
  by_cases hlater : ∀ s ∈ after, s.id ≠ a.id
  · by_cases hid : r.id = a.id
    · have hlists : ¬ a.ListsCounts := fun h => ha ⟨h, hid, hlater⟩
      rw [if_pos hid, if_pos hid, Facet.ofResponse_eq_of_perm (r := r) hlists hperm hids]
    · rw [if_neg hid, if_neg hid]
  · -- A later answer to the aggregation hides this one.
    rw [← facet?_eq_none_iff request] at hlater
    obtain ⟨facet, hfacet⟩ := Option.ne_none_iff_exists'.1 hlater
    rw [hfacet, Option.some_or, Option.some_or]

theorem facet?_of_listsCounts (ha : a.ListsCounts) (hid : r.id = a.id)
    (hlater : ∀ s ∈ after, s.id ≠ a.id) : request.facet? (before ++ r :: after) a =
      some ⟨a.id, a.field, .terms (r.values.map fun c =>
        ⟨c.id, c.count, request.filter.selectsTerm a.field c.id⟩)⟩ := by
  rw [facet?_append_cons, (facet?_eq_none_iff request).2 hlater, Option.none_or, if_pos hid,
    Facet.ofResponse_of_listsCounts ha]

/-- Neither the order of answers with ids of their own nor answers that nobody asked for make a
difference to the facets. Nor does the order of the counts in an answer, for values that differ in
more than letter case, unless a facet lists these counts: then its items stand in their order. -/
theorem facets_reordered (request : Request) (responses : List AggregationResponse) :
    (∀ rs, request.facets rs = request.aggregations.filterMap (request.facet? rs)) ∧
    ((responses.map (·.id)).Nodup → ∀ responses' extra, responses'.Perm (responses ++ extra) →
      (∀ r ∈ extra, ∀ a ∈ request.aggregations, r.id ≠ a.id) →
      request.facets responses' = request.facets responses) ∧
    ∀ before r after, responses = before ++ r :: after →
      (r.values.map fun c => Text.fold c.id).Nodup → ∀ counts, counts.Perm r.values →
      let responses' := before ++ { r with values := counts } :: after
      ∀ a, (¬ (a.ListsCounts ∧ r.id = a.id ∧ ∀ s ∈ after, s.id ≠ a.id) →
          request.facet? responses' a = request.facet? responses a) ∧
        (a.ListsCounts → r.id = a.id → (∀ s ∈ after, s.id ≠ a.id) →
          ∃ item : Count → TermItem, (∀ c, (item c).term = c.id ∧ (item c).count = c.count) ∧
            request.facet? responses a = some ⟨a.id, a.field, .terms (r.values.map item)⟩ ∧
            request.facet? responses' a = some ⟨a.id, a.field, .terms (counts.map item)⟩) := by
  refine ⟨facets_eq_filterMap request, ?_, ?_⟩
  · intro hids responses' extra hperm hextra
    rw [facets_eq_filterMap, facets_eq_filterMap]
    refine List.filterMap_congr fun a ha => ?_
    exact facet?_eq_of_perm hids hperm fun r hr => hextra r hr a ha
  · rintro before r after rfl hids counts hperm responses' a
    refine ⟨facet?_eq_of_recounted hperm hids, fun ha hid hlater => ?_⟩
    exact ⟨fun c => ⟨c.id, c.count, request.filter.selectsTerm a.field c.id⟩,
      fun _ => ⟨rfl, rfl⟩, facet?_of_listsCounts ha hid hlater,
      facet?_of_listsCounts (r := { r with values := counts }) ha hid hlater⟩

/-- The sizes are listed as they come, and the colors as they are requested. Nobody asks for the
rating. -/
theorem facets_reordered_sizes :
    let color : Aggregation := ⟨"c", "color", .terms 0 ["Red", "blue"], none⟩
    let size : Aggregation := .ofField "size" 0
    let request : Request := { (Draft.ofMapper ⟨[]⟩).toRequest with
      filter := ⟨[.term "size" ["m"]]⟩, aggregations := [color, size] }
    let colors : AggregationResponse := ⟨"c", [⟨"RED", 7⟩, ⟨"blue", 1⟩]⟩
    let sizes : AggregationResponse := ⟨"size", [⟨"M", 3⟩, ⟨"XL", 2⟩]⟩
    let rating : AggregationResponse := ⟨"rating", [⟨"5", 1⟩]⟩
    request.facets [rating, sizes, rating, colors] = request.facets [colors, sizes] ∧
      request.facet? [⟨"c", [⟨"blue", 1⟩, ⟨"RED", 7⟩]⟩, sizes] color =
        request.facet? [colors, sizes] color ∧
      ∃ item : Count → TermItem, (∀ c, (item c).term = c.id ∧ (item c).count = c.count) ∧
        request.facet? [colors, sizes] size =
          some ⟨"size", "size", .terms [item ⟨"M", 3⟩, item ⟨"XL", 2⟩]⟩ ∧
        request.facet? [colors, ⟨"size", [⟨"XL", 2⟩, ⟨"M", 3⟩]⟩] size =
          some ⟨"size", "size", .terms [item ⟨"XL", 2⟩, item ⟨"M", 3⟩]⟩ := by
  intro color size request colors sizes rating
  obtain ⟨-, hanswers, hcounts⟩ := facets_reordered request [colors, sizes]
  have hcolors := hcounts [] colors [sizes] rfl (by decide) [⟨"blue", 1⟩, ⟨"RED", 7⟩]
    (List.Perm.swap ..) color
  have hsizes := hcounts [colors] sizes [] rfl (by decide) [⟨"XL", 2⟩, ⟨"M", 3⟩]
    (List.Perm.swap ..) size
  refine ⟨hanswers (by decide) _ [rating, rating] ?_ (by decide), hcolors.1 ?_,
    hsizes.2 ⟨0, rfl⟩ rfl nofun⟩
  · decide
  · rintro ⟨⟨n, hn⟩, -⟩
    simp [color] at hn

/-! ## Counts of requested values -/

/-- Of the counts for a requested value and its other spellings in letter case the first is shown.
That is the count of the value as it is requested, whatever stands behind it, unless another
spelling stands before it. -/
theorem requested_count_is_first (request : Request) (responses : List AggregationResponse)
    {size : UInt64} {values : List String}
    (hr : LastWhere (fun r => r.id = a.id) responses r) (hcounting : a.counting = .terms size values)
    (hvalues : values ≠ []) :
    ∃ items, request.facet? responses a = some ⟨a.id, a.field, .terms items⟩ ∧
      (a ∈ request.aggregations → ⟨a.id, a.field, .terms items⟩ ∈ request.facets responses) ∧
      items.map (·.term) = values ∧
      ∀ item ∈ items, ∀ before c after, r.values = before ++ c :: after → c.id = item.term →
        ((∀ b ∈ before, Text.fold b.id ≠ Text.fold item.term) → item.count = c.count) ∧
        ∀ first, FirstWhere (fun b => Text.fold b.id = Text.fold item.term) before first →
          item.count = first.count := by
  have hnonempty : ¬ values.isEmpty = true := by simpa using hvalues
  have hfacet := facet?_eq_some_of_last request hr
  simp only [Facet.ofResponse, hcounting, termCounts, if_neg hnonempty, List.map_map] at hfacet
  refine ⟨_, hfacet, fun ha => List.mem_filterMap.2 ⟨a, ha, hfacet⟩, ?_, ?_⟩
  · rw [List.map_map]
    exact List.map_id'' (fun _ => rfl) values
  · intro item hitem before c after hsplit hid
    obtain ⟨value, -, rfl⟩ := List.mem_map.1 hitem
    have hfirst : ∀ first, FirstWhere (fun b => Text.fold b.id = Text.fold value) r.values first →
        ((r.values.find? fun b => Text.same b.id value).map (·.count)).getD 0 = first.count :=
      fun first h => (isCountOf_firstWhere_iff.1 (.inl ⟨first, h, rfl⟩)).symm
    constructor
    · intro hbefore
      have hsame : Text.fold c.id = Text.fold value := congrArg Text.fold hid
      exact hfirst c ⟨hsame, before, after, hsplit, hbefore⟩
    · rintro first ⟨hsame, pre, post, rfl, hpre⟩
      exact hfirst first ⟨hsame, pre, post ++ c :: after, by simp [hsplit], hpre⟩

/-- Red is counted as it is written, since its other spelling stands behind it; for blue the other
spelling stands before it. -/
theorem requested_count_is_first_colors :
    let color : Aggregation := ⟨"c", "color", .terms 2 ["red", "blue"], none⟩
    let request : Request := { (Draft.ofMapper ⟨[]⟩).toRequest with aggregations := [color] }
    let counts : List Count := [⟨"green", 1⟩, ⟨"red", 9⟩, ⟨"Blue", 2⟩, ⟨"RED", 4⟩, ⟨"blue", 3⟩]
    ∃ items, ⟨"c", "color", .terms items⟩ ∈ request.facets [⟨"c", counts⟩] ∧
      items.map (·.term) = ["red", "blue"] ∧
      (∀ item ∈ items, item.term = "red" → item.count = 9) ∧
      ∀ item ∈ items, item.term = "blue" → item.count = 2 := by
  intro color request counts
  obtain ⟨items, -, hmem, hterms, hcounts⟩ := requested_count_is_first request [⟨"c", counts⟩]
    (a := color) (r := ⟨"c", counts⟩) ⟨rfl, [], [], rfl, nofun⟩ rfl (by decide)
  refine ⟨items, hmem (by decide), hterms, ?_, ?_⟩
  · intro item hitem hred
    refine (hcounts item hitem [⟨"green", 1⟩] ⟨"red", 9⟩ _ rfl hred.symm).1 ?_
    rw [hred]
    decide
  · intro item hitem hblue
    refine (hcounts item hitem [⟨"green", 1⟩, ⟨"red", 9⟩, ⟨"Blue", 2⟩, ⟨"RED", 4⟩] ⟨"blue", 3⟩ _
      rfl hblue.symm).2 ⟨"Blue", 2⟩ ?_
    rw [hblue]
    exact ⟨by decide, [⟨"green", 1⟩, ⟨"red", 9⟩], [⟨"RED", 4⟩], rfl, by decide⟩

/-- The count of red as it is requested is hidden by that of another spelling, although no value is
counted twice. -/
theorem requested_count_hidden :
    let color : Aggregation := ⟨"c", "color", .terms 1 ["red"], none⟩
    let request : Request := { (Draft.ofMapper ⟨[]⟩).toRequest with aggregations := [color] }
    let counts : List Count := [⟨"RED", 4⟩, ⟨"red", 9⟩]
    (counts.map (·.id)).Nodup ∧ (⟨"red", 9⟩ : Count) ∈ counts ∧
      request.facets [⟨"c", counts⟩] = [⟨"c", "color", .terms [⟨"red", 4, false⟩]⟩] := by
  decide

end Request

end FacetedSearch
