import FacetedSearch.Proofs.MarkedFacets

/-!
# Facets for the answers of an index

What the facets of a request show is laid down item by item: which answer a facet goes back to,
which count an item has, and when it is marked. The facets are the only ones that go with the
answers in this way.

## Main definitions

* `FirstWhere`, `LastWhere` — the first and the last element of a list with a property.
* `IsCountOf` — a count, which is zero where there is nothing to take it from.
* `Conjunction.Applies` — whether a root has applied a value or an interval.
* `FacetItems.Reconciled` — the items that go with a list of counts.
* `Facet.Answers` — the facet that goes with an aggregation.
-/

namespace FacetedSearch

section Picking

variable {α : Type} (p : α → Prop) (xs : List α) (x : α)

def FirstWhere : Prop := p x ∧ ∃ before after, xs = before ++ x :: after ∧ ∀ y ∈ before, ¬ p y

def LastWhere : Prop := p x ∧ ∃ before after, xs = before ++ x :: after ∧ ∀ y ∈ after, ¬ p y

end Picking

/-- The count that is picked, and zero if none is. -/
def IsCountOf (picked : Count → Prop) (n : UInt64) : Prop :=
  (∃ c, picked c ∧ c.count = n) ∨ (∀ c, ¬ picked c) ∧ n = 0

namespace Conjunction

/-- A conjunct, or a part of a choice among the conjuncts. -/
def HasPart (root : Conjunction) (f : Filter) : Prop :=
  f ∈ root.conjuncts ∨ ∃ parts, .any parts ∈ root.conjuncts ∧ f ∈ parts

/-- A part of the root names the selection, on the field up to ASCII case. -/
def Applies (root : Conjunction) (field : String) : Selection → Prop
  | .value v => ∃ name values, root.HasPart (.term name values) ∧
      Text.fold name = Text.fold field ∧ ∃ u ∈ values, Text.fold u = Text.fold v
  | .interval i => ∃ name intervals, root.HasPart (.range name intervals) ∧
      Text.fold name = Text.fold field ∧ ∃ j ∈ intervals, j.sameBounds i = true

end Conjunction

def TermItem.Shows (root : Conjunction) (field value : String) (count : UInt64 → Prop)
    (item : TermItem) : Prop :=
  item.term = value ∧ count item.count ∧
    (item.isApplied = true ↔ root.Applies field (.value value))

def RangeItem.Shows (root : Conjunction) (field : String) (bucket : Bucket)
    (count : UInt64 → Prop) (item : RangeItem) : Prop :=
  item.bucket = bucket ∧ count item.count ∧
    (item.isApplied = true ↔ root.Applies field (.interval bucket.interval))

/-- The items of a facet go one by one with the requested values, or with the counts if no values
are requested, or with the buckets. -/
def FacetItems.Reconciled (root : Conjunction) (field : String) (counts : List Count) :
    Counting → FacetItems → Prop
  | .terms _ [], .terms items =>
    List.Forall₂ (fun c item => item.Shows root field c.id (· = c.count)) counts items
  | .terms _ values, .terms items =>
    List.Forall₂ (fun v item => item.Shows root field v
      (IsCountOf (FirstWhere (fun c => Text.fold c.id = Text.fold v) counts))) values items
  | .buckets buckets, .ranges items =>
    List.Forall₂ (fun b item => item.Shows root field b
      (IsCountOf (LastWhere (fun c => c.id = b.id) counts))) buckets items
  | _, _ => False

/-- The last answer with the id of the aggregation counts. -/
def Facet.Answers (root : Conjunction) (responses : List AggregationResponse) (a : Aggregation)
    (facet : Facet) : Prop :=
  facet.id = a.id ∧ facet.field = a.field ∧ ∃ r, LastWhere (fun r => r.id = a.id) responses r ∧
    facet.items.Reconciled root a.field r.values a.counting

/-! ## Picking -/

section Picking

variable {α β : Type} {p : α → Prop} {test : α → Bool} {xs : List α} {x : α}

theorem firstWhere_iff (h : ∀ y, test y = true ↔ p y) :
    FirstWhere p xs x ↔ xs.find? test = some x := by
  rw [List.find?_eq_some_iff_append]
  simp only [FirstWhere, ← h, Bool.not_eq_true, Bool.not_eq_eq_eq_not, Bool.not_true]

theorem lastWhere_iff_reverse : LastWhere p xs x ↔ FirstWhere p xs.reverse x := by
  refine and_congr_right fun _ => ?_
  constructor
  · rintro ⟨before, after, rfl, hafter⟩
    exact ⟨after.reverse, before.reverse, by simp, by simpa using hafter⟩
  · rintro ⟨before, after, hxs, hbefore⟩
    refine ⟨after.reverse, before.reverse, ?_, by simpa using hbefore⟩
    rw [← List.reverse_reverse xs, hxs]
    simp

theorem lastWhere_iff (h : ∀ y, test y = true ↔ p y) :
    LastWhere p xs x ↔ xs.reverse.find? test = some x := by
  rw [lastWhere_iff_reverse, firstWhere_iff h]

theorem isCountOf_iff {picked : Count → Prop} {found : Option Count} {n : UInt64}
    (h : ∀ c, picked c ↔ found = some c) :
    IsCountOf picked n ↔ n = (found.map (·.count)).getD 0 := by
  simp only [IsCountOf, h]
  cases found <;> simp [eq_comm]

/-- The elements for which there is something go one by one with what there is. -/
theorem forall₂_filter_isSome_iff {f : α → Option β} {as : List α} {bs : List β} :
    List.Forall₂ (fun a b => f a = some b) (as.filter fun a => (f a).isSome) bs ↔
      as.filterMap f = bs := by
  induction as generalizing bs with
  | nil => simp [eq_comm]
  | cons a as ih =>
    cases h : f a with
    | none => rw [List.filter_cons_of_neg (by simp [h]), List.filterMap_cons_none h, ih]
    | some b =>
      rw [List.filter_cons_of_pos (by simp [h]), List.filterMap_cons_some h,
        List.forall₂_cons_left_iff]
      constructor
      · rintro ⟨b', bs, hb, hbs, rfl⟩
        rw [Option.some.inj (h.symm.trans hb), ih.1 hbs]
      · rintro rfl
        exact ⟨b, _, h, ih.2 rfl, rfl⟩

/-- What goes one by one with the elements by a function is the list of its values. -/
theorem forall₂_eq_map_iff {f : α → β} {as : List α} {bs : List β} :
    List.Forall₂ (fun a b => b = f a) as bs ↔ bs = as.map f := by
  rw [eq_comm, ← List.forall₂_eq_eq_eq, List.forall₂_map_left_iff]
  simp only [eq_comm]

end Picking

/-! ## Items -/

section Items

variable {root : Conjunction} {field : String} {count : UInt64 → Prop} {n : UInt64}

theorem Conjunction.selects_iff_applies {s : Selection} :
    root.selects field s = true ↔ root.Applies field s := by
  have hpart : root.selects field s = true ↔ ∃ f, root.HasPart f ∧ f.Carries field s := by
    rw [selects_iff_or]
    constructor
    · rintro (⟨f, hf, hcarries⟩ | ⟨parts, hparts, f, hf, hcarries⟩)
      · exact ⟨f, .inl hf, hcarries⟩
      · exact ⟨f, .inr ⟨parts, hparts, hf⟩, hcarries⟩
    · rintro ⟨f, hf | ⟨parts, hparts, hf⟩, hcarries⟩
      · exact .inl ⟨f, hf, hcarries⟩
      · exact .inr ⟨parts, hparts, f, hf, hcarries⟩
  rw [hpart]
  cases s with
  | value v =>
    constructor
    · rintro ⟨_, hf, name, values, rfl, hnames⟩
      exact ⟨name, values, hf, hnames⟩
    · rintro ⟨name, values, hf, hnames⟩
      exact ⟨_, hf, name, values, rfl, hnames⟩
  | interval i =>
    constructor
    · rintro ⟨_, hf, name, intervals, rfl, hnames⟩
      exact ⟨name, intervals, hf, hnames⟩
    · rintro ⟨name, intervals, hf, hnames⟩
      exact ⟨_, hf, name, intervals, rfl, hnames⟩

theorem TermItem.shows_iff {value : String} {item : TermItem} (h : ∀ m, count m ↔ m = n) :
    item.Shows root field value count ↔ item = ⟨value, n, root.selectsTerm field value⟩ := by
  obtain ⟨term, m, applied⟩ := item
  have hselects : root.Applies field (.value value) ↔ root.selectsTerm field value = true :=
    Conjunction.selects_iff_applies.symm
  rw [Shows, h, hselects, ← Bool.eq_iff_iff, TermItem.mk.injEq]

theorem RangeItem.shows_iff {bucket : Bucket} {item : RangeItem} (h : ∀ m, count m ↔ m = n) :
    item.Shows root field bucket count ↔
      item = ⟨bucket, n, root.selectsInterval field bucket.interval⟩ := by
  obtain ⟨b, m, applied⟩ := item
  have hselects : root.Applies field (.interval bucket.interval) ↔
      root.selectsInterval field bucket.interval = true :=
    Conjunction.selects_iff_applies.symm
  rw [Shows, h, hselects, ← Bool.eq_iff_iff, RangeItem.mk.injEq]

theorem isCountOf_firstWhere_iff {counts : List Count} {value : String} :
    IsCountOf (FirstWhere (fun c => Text.fold c.id = Text.fold value) counts) n ↔
      n = ((counts.find? fun c => Text.same c.id value).map (·.count)).getD 0 :=
  isCountOf_iff fun _ => firstWhere_iff fun _ => Text.same_iff

theorem isCountOf_lastWhere_iff {counts : List Count} {id : String} :
    IsCountOf (LastWhere (fun c => c.id = id) counts) n ↔ n = bucketCount counts id :=
  isCountOf_iff fun _ => lastWhere_iff fun _ => beq_iff_eq

end Items

/-! ## Facets -/

section Facets

variable {root : Conjunction} {a : Aggregation} {request : Request}
  {responses : List AggregationResponse}

theorem FacetItems.reconciled_iff {r : AggregationResponse} {items : FacetItems} :
    items.Reconciled root a.field r.values a.counting ↔
      items = (Facet.ofResponse root a r).items := by
  unfold Facet.ofResponse
  cases a.counting with
  | terms size values =>
    cases items with
    | ranges items => simp [Reconciled]
    | terms items =>
      rw [FacetItems.terms.injEq]
      cases values with
      | nil =>
        simp only [Reconciled, TermItem.shows_iff fun _ => Iff.rfl, forall₂_eq_map_iff]
        rw [termCounts, List.isEmpty_nil, if_pos rfl, List.map_map]
        rfl
      | cons v values =>
        simp only [Reconciled, TermItem.shows_iff fun _ => isCountOf_firstWhere_iff,
          forall₂_eq_map_iff]
        rw [termCounts, if_neg (by simp), List.map_map]
        rfl
  | buckets buckets =>
    cases items with
    | terms items => simp [Reconciled]
    | ranges items =>
      rw [FacetItems.ranges.injEq]
      simp only [Reconciled, RangeItem.shows_iff fun _ => isCountOf_lastWhere_iff,
        forall₂_eq_map_iff]

theorem Facet.answers_iff {facet : Facet} : facet.Answers root responses a ↔
    (responses.reverse.find? (·.id == a.id)).map (ofResponse root a) = some facet := by
  obtain ⟨id, field, items⟩ := facet
  have hlast : ∀ r, LastWhere (fun r => r.id = a.id) responses r ↔
      responses.reverse.find? (·.id == a.id) = some r := fun r => lastWhere_iff fun _ => beq_iff_eq
  simp only [Answers, hlast, FacetItems.reconciled_iff, Option.map_eq_some_iff]
  constructor
  · rintro ⟨rfl, rfl, r, hr, rfl⟩
    exact ⟨r, hr, rfl⟩
  · rintro ⟨r, hr, h⟩
    obtain ⟨rfl, rfl, rfl⟩ := Facet.mk.inj h
    exact ⟨rfl, rfl, r, hr, rfl⟩

end Facets

namespace Request

/-- The facets go one by one with the aggregations that are answered, in the order of the request,
and no other facets do. Their ids are distinct when those of the aggregations are. -/
theorem facets_eq_iff_answers (request : Request) (responses : List AggregationResponse) :
    (∀ facets, request.facets responses = facets ↔
      List.Forall₂ (fun a facet => facet.Answers request.filter responses a)
        (request.aggregations.filter fun a => ∃ r ∈ responses, r.id = a.id) facets) ∧
    ((request.aggregations.map (·.id)).Nodup → ((request.facets responses).map (·.id)).Nodup) := by
  have hanswered : (request.aggregations.filter fun a => ∃ r ∈ responses, r.id = a.id) =
      request.aggregations.filter fun a => ((responses.reverse.find? (·.id == a.id)).map
        (Facet.ofResponse request.filter a)).isSome := by
    refine List.filter_congr fun a _ => ?_
    rw [Option.isSome_map, Bool.eq_iff_iff, List.find?_isSome]
    simp
  have hfacets : ∀ facets, request.facets responses = facets ↔
      List.Forall₂ (fun a facet => facet.Answers request.filter responses a)
        (request.aggregations.filter fun a => ∃ r ∈ responses, r.id = a.id) facets := by
    intro facets
    simp only [hanswered, Facet.answers_iff, forall₂_filter_isSome_iff]
    rfl
  refine ⟨hfacets, fun hids => ?_⟩
  have hsame := ((hfacets _).1 rfl).imp fun a facet hanswers => hanswers.1
  rw [forall₂_eq_map_iff.1 (List.forall₂_map_right_iff.2 hsame)]
  exact (List.filter_sublist.map _).nodup hids

/-- Of the answers for the color the later one counts, and of its counts for red the earlier one;
of those for a bucket the later one. The size is not answered, and nobody asks for the rating. -/
theorem facets_eq_iff_answers_colors :
    let low : Bucket := ⟨"low", .below "5"⟩
    let high : Bucket := ⟨"high", .atLeast "5"⟩
    let root : Conjunction := ⟨[.any [.term "COLOR" ["red"]], .range "price" [.atLeast " 5 "]]⟩
    let color : Aggregation := ⟨"c", "color", .terms 0 ["Red", "blue", "Red"], none⟩
    let price : Aggregation := ⟨"p", "price", .buckets [low, high], none⟩
    let brand : Aggregation := .ofField "brand" 0
    let request : Request := { (Draft.ofMapper ⟨[]⟩).toRequest with
      filter := root, aggregations := [color, .ofField "size" 0, price, brand] }
    let responses : List AggregationResponse :=
      [⟨"brand", [⟨"acme", 4⟩, ⟨"acme", 5⟩]⟩, ⟨"c", [⟨"blue", 1⟩]⟩, ⟨"rating", [⟨"5", 1⟩]⟩,
        ⟨"p", [⟨"low", 1⟩, ⟨"HIGH", 2⟩, ⟨"low", 3⟩]⟩, ⟨"c", [⟨"RED", 7⟩, ⟨"red", 8⟩]⟩]
    let facets : List Facet :=
      [⟨"c", "color", .terms [⟨"Red", 7, true⟩, ⟨"blue", 0, false⟩, ⟨"Red", 7, true⟩]⟩,
        ⟨"p", "price", .ranges [⟨low, 3, false⟩, ⟨high, 0, true⟩]⟩,
        ⟨"brand", "brand", .terms [⟨"acme", 4, false⟩, ⟨"acme", 5, false⟩]⟩]
    request.facets responses = facets ∧
      List.Forall₂ (fun a facet => facet.Answers root responses a) [color, price, brand] facets ∧
      (facets.map (·.id)).Nodup := by
  intro low high root color price brand request responses facets
  obtain ⟨hfacets, hids⟩ := facets_eq_iff_answers request responses
  have hshown : request.facets responses = facets := by decide +kernel
  have hanswered : (request.aggregations.filter fun a => ∃ r ∈ responses, r.id = a.id) =
      [color, price, brand] := by
    decide
  refine ⟨hshown, ?_, ?_⟩
  · rw [← hanswered]
    exact (hfacets facets).1 hshown
  · rw [← hshown]
    exact hids (by decide)

end Request

end FacetedSearch
