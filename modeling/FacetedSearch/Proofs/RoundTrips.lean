import FacetedSearch.Encoding.Config
import FacetedSearch.Encoding.Response
import FacetedSearch.Json.Restated

/-!
# Reading back what was written

Every record of a search can be written as JSON and read back: nothing of it is lost where a part
is left out or written as null, and nothing depends on the order of members or on members that the
reader does not know. Only coordinates must be finite.

## Main definitions

* `GeoPoint.IsFinite` — a point whose coordinates can be written as numbers.
* `Response.SameUpToOrder`, `SearchResult.SameUpToOrder` — documents are values of their own, whose
  members may be reordered as well.
-/

namespace FacetedSearch

open Json

/-- Both coordinates are numbers of JSON, which has none for infinities and NaN. -/
def GeoPoint.IsFinite (p : GeoPoint) : Prop :=
  p.latitude.isFinite = true ∧ p.longitude.isFinite = true

/-! ## Intervals -/

/-- The bounds of an interval may stand among other members. -/
theorem Interval.ofMembers?_of_seen {leftOut : List String} {ms ns : Members} {i : Interval}
    (h : Seen leftOut ["lower", "upper"] ms ns)
    (hms : ∀ name ∈ i.toMembers.map Prod.fst, ms.lookup name = i.toMembers.lookup name) :
    Interval.ofMembers? ns = some i := by
  have hms : ∀ name j, i.toMembers.lookup name = some j → ms.lookup name = some j :=
    fun name j hj => (hms name (List.mem_map_of_mem (mem_of_lookup_eq_some hj))).trans hj
  have lower := h.nullable "lower" (.inl (hms _ _ rfl)) (fun s _ => recovers_str s) rfl
  have upper := h.nullable "upper" (.inl (hms _ _ rfl)) (fun s _ => recovers_str s) rfl
  have includeLower := h.required "include_lower" (hms _ _ rfl) (by simp)
    (recovers_bool i.includeLower)
  have includeUpper := h.required "include_upper" (hms _ _ rfl) (by simp)
    (recovers_bool i.includeUpper)
  simp [ofMembers?, lower, upper, includeLower, includeUpper]

theorem Interval.readsBack (i : Interval) :
    ReadsBack Interval.ofJson? Eq [] ["lower", "upper"] i.toJson i :=
  .of_seen fun _ h => ofMembers?_of_seen h fun _ _ => rfl

/-! ## Filters -/

theorem Filter.ofEach?_eq_mapM (js : List Json) : Filter.ofEach? js = js.mapM Filter.ofJson? := by
  induction js with
  | nil => simp [ofEach?]
  | cons j js ih => simp [ofEach?, ih]

theorem Filter.childrenIn?_eq (ms : Members) :
    Filter.childrenIn? ms = required "children" (list? Filter.ofJson?) ms := by
  induction ms with
  | nil => simp [childrenIn?, required]
  | cons m ms ih =>
    obtain ⟨name, j⟩ := m
    by_cases hname : name = "children"
    · subst hname
      cases j <;> simp [childrenIn?, required, ofArray?, ofEach?_eq_mapM, list?, array?]
    · have hne : ("children" == name) = false := by simpa using Ne.symm hname
      simp [childrenIn?, hname, ih, required, List.lookup_cons, hne]

theorem Filter.array?_toJson (f : Filter) : f.toJson.array? = none := by cases f <;> rfl

theorem Filter.readsBack (f : Filter) : ReadsBack Filter.ofJson? Eq [] [] f.toJson f := by
  induction f with
  | term field values =>
    refine .of_seen fun ns h => ?_
    have type := h.required "type" rfl (by simp) (recovers_str "term")
    have field := h.required "field_name" rfl (by simp) (recovers_str field)
    have values := h.required "values" rfl (by simp) (recovers_strings values)
    simp [ofJson?, type, field, values]
  | wildcard field pattern =>
    refine .of_seen fun ns h => ?_
    have type := h.required "type" rfl (by simp) (recovers_str "wildcard_term")
    have field := h.required "field_name" rfl (by simp) (recovers_str field)
    have pattern := h.required "value" rfl (by simp) (recovers_str pattern)
    simp [ofJson?, type, field, pattern]
  | range field intervals =>
    refine .of_seen fun ns h => ?_
    have type := h.required "type" rfl (by simp) (recovers_str "range")
    have field := h.required "field_name" rfl (by simp) (recovers_str field)
    have intervals := h.required "values" rfl (by simp)
      (recovers_list fun i _ => (Interval.readsBack i).recovers rfl)
    simp [ofJson?, type, field, intervals]
  | ids ids =>
    refine .of_seen fun ns h => ?_
    have type := h.required "type" rfl (by simp) (recovers_str "ids")
    have ids := h.required "values" rfl (by simp) (recovers_strings ids)
    simp [ofJson?, type, ids]
  | all cs ih =>
    refine .of_seen fun ns h => ?_
    have type := h.required "type" rfl (by simp) (recovers_str "and")
    have parts : Recovers (list? ofJson?) (ofList toJson cs) cs :=
      recovers_list fun c hc => (ih c hc).recovers c.array?_toJson
    have children := h.required "children" (by rw [toJsons_eq_map]; rfl) (by simp) parts
    simp [ofJson?, type, childrenIn?_eq, children]
  | any cs ih =>
    refine .of_seen fun ns h => ?_
    have type := h.required "type" rfl (by simp) (recovers_str "or")
    have parts : Recovers (list? ofJson?) (ofList toJson cs) cs :=
      recovers_list fun c hc => (ih c hc).recovers c.array?_toJson
    have children := h.required "children" (by rw [toJsons_eq_map]; rfl) (by simp) parts
    simp [ofJson?, type, childrenIn?_eq, children]

theorem Conjunction.readsBack (root : Conjunction) :
    ReadsBack Conjunction.ofJson? Eq [] [] root.toJson root :=
  .of_seen fun ns h => by
    have children := h.required "children" rfl (by simp)
      (recovers_list fun c _ => c.readsBack.recovers c.array?_toJson)
    simp [ofJson?, record?, Filter.childrenIn?_eq, children]

/-! ## Requests -/

theorem GeoPoint.readsBack {p : GeoPoint} (hp : p.IsFinite) :
    ReadsBack GeoPoint.ofJson? Eq [] [] p.toJson p :=
  .of_seen fun ns h => by
    have hlatitude : p.latitude.toJson = .double p.latitude := if_pos hp.1
    have hlongitude : p.longitude.toJson = .double p.longitude := if_pos hp.2
    have latitude := h.required "latitude" (congrArg some hlatitude) (by simp) (recovers_double _)
    have longitude := h.required "longitude" (congrArg some hlongitude) (by simp)
      (recovers_double _)
    simp [ofJson?, record?, latitude, longitude]

/-- A criterion without a point is written without the member for it. -/
theorem SortField.readsBack {f : SortField} (hf : ∀ p ∈ f.origin, p.IsFinite) :
    ReadsBack SortField.ofJson? Eq ["geo_point"] ["geo_point"] f.toJson f := by
  obtain ⟨field, descending, origin⟩ := f
  refine .of_seen fun ns h => ?_
  have field := h.required "field_name" rfl (by simp) (recovers_str field)
  have descending := h.required "descending" rfl (by simp) (recovers_bool descending)
  have origin : nullable "geo_point" GeoPoint.ofJson? ns = some origin :=
    h.nullable "geo_point" (.inr ⟨by cases origin <;> rfl, by simp⟩)
      (fun p hp => (GeoPoint.readsBack (hf p hp)).recovers rfl) rfl
  simp [ofJson?, record?, field, descending, origin]

theorem Bucket.ofMembers?_of_seen {leftOut : List String} {ms ns : Members} {b : Bucket}
    (h : Seen leftOut ["lower", "upper"] ms ns)
    (hms : ∀ name ∈ b.toMembers.map Prod.fst, ms.lookup name = b.toMembers.lookup name) :
    Bucket.ofMembers? ns = some b := by
  have id := h.required "id" (hms "id" (by simp [toMembers])) (by simp) (recovers_str b.id)
  have interval : Interval.ofMembers? ns = some b.interval := by
    refine Interval.ofMembers?_of_seen h fun name hname => ?_
    rw [hms name (List.mem_cons_of_mem _ hname), toMembers, List.lookup_cons]
    rw [beq_false_of_ne (by rintro rfl; simp [Interval.toMembers] at hname)]
  simp [ofMembers?, id, interval]

theorem Bucket.readsBack (b : Bucket) :
    ReadsBack Bucket.ofJson? Eq [] ["lower", "upper"] b.toJson b :=
  .of_seen fun _ h => ofMembers?_of_seen h fun _ _ => rfl

theorem Aggregation.lookup_filter (id field : String) (counting : Counting)
    (filter : Option Filter) :
    ([("type", str counting.type), ("id", str id), ("field_name", str field)] ++
      counting.toMembers ++ memberOf "filter" Filter.toJson filter).lookup "filter" =
        filter.map Filter.toJson := by
  rcases counting with ⟨size, _ | ⟨v, vs⟩⟩ | bs <;> cases filter <;> rfl

theorem Aggregation.readsBack (a : Aggregation) :
    ReadsBack Aggregation.ofJson? Eq (Counting.parts a.counting.type) ["filter"] a.toJson a := by
  obtain ⟨id, field, counting, filter⟩ := a
  refine .of_seen fun ns h => ?_
  have type := h.required "type" rfl (by simp) (recovers_str counting.type)
  have id := h.required "id" rfl (by simp) (recovers_str id)
  have field := h.required "field_name" rfl (by simp) (recovers_str field)
  have hpart : "filter" ∈ Counting.parts counting.type := by
    cases counting <;> simp [Counting.parts, Counting.type]
  have hfilter : nullable "filter" Filter.ofJson? ns = some filter :=
    h.nullable "filter" (.inr ⟨lookup_filter _ _ _ _, hpart⟩)
      (fun f _ => f.readsBack.recovers f.array?_toJson) rfl
  have counting : Counting.ofMembers? counting.type ns = some counting := by
    cases counting with
    | terms size values =>
      have size := h.required "size" rfl (by simp) (recovers_count size)
      have values : defaulted "values" [] strings? ns = some values := by
        cases values with
        | nil =>
          refine h.defaulted_leftOut "values" [] ?_ (by simp [Counting.parts, Counting.type])
            (by simp)
          cases filter <;> rfl
        | cons v vs => exact h.defaulted "values" [] rfl (by simp) (recovers_strings (v :: vs))
      simp [Counting.type, Counting.ofMembers?, size, values]
    | buckets bs =>
      have values := h.required "values" rfl (by simp)
        (recovers_list fun b _ => (Bucket.readsBack b).recovers rfl)
      simp [Counting.type, Counting.ofMembers?, values]
  simp [ofJson?, variant?, type, id, field, counting, hfilter]

theorem Request.readsBack {r : Request} (hr : ∀ f ∈ r.sorting, ∀ p ∈ f.origin, p.IsFinite) :
    ReadsBack Request.ofJson? Eq [] ["search_keywords", "fuzziness"] r.toJson r :=
  .of_seen fun ns h => by
    have skip := h.required "skip" rfl (by simp) (recovers_window r.skip)
    have take := h.required "take" rfl (by simp) (recovers_window r.take)
    have keywords := h.nullable "search_keywords" (.inl rfl) (fun s _ => recovers_str s) rfl
    have searchFields := h.required "search_fields" rfl (by simp) (recovers_strings r.searchFields)
    have filter := h.required "filter" rfl (by simp) (r.filter.readsBack.recovers rfl)
    have sorting := h.required "sorting" rfl (by simp)
      (recovers_list fun f hf => (SortField.readsBack (hr f hf)).recovers rfl)
    have aggregations := h.required "aggregations" rfl (by simp)
      (recovers_list fun a _ => a.readsBack.recovers rfl)
    have includeFields := h.required "include_fields" rfl (by simp)
      (recovers_strings r.includeFields)
    have fuzzy := h.required "is_fuzzy" rfl (by simp) (recovers_bool r.fuzzy)
    have fuzziness := h.nullable "fuzziness" (.inl rfl) (fun n _ => recovers_level n) rfl
    simp [ofJson?, record?, skip, take, keywords, searchFields, filter, sorting, aggregations,
      includeFields, fuzzy, fuzziness]

/-! ## Queries and parsed expressions -/

theorem Parsed.readsBack (p : Parsed) : ReadsBack Parsed.ofJson? Eq [] [] p.toJson p :=
  .of_seen fun ns h => by
    have keyword := h.defaulted "keyword" "" rfl (by simp) (recovers_str p.keyword)
    have filters := h.defaulted "filters" [] rfl (by simp)
      (recovers_list fun f _ => f.readsBack.recovers f.array?_toJson)
    simp [ofJson?, record?, ofMembers?, keyword, filters]

theorem Query.readsBack (q : Query) :
    ReadsBack Query.ofJson? Eq [] ["skip", "take", "keyword", "filter", "facet", "sort", "culture",
      "currency", "fuzzy_level"] q.toJson q :=
  .of_seen fun ns h => by
    have skip := h.nullable "skip" (.inl rfl) (fun n _ => recovers_window n) rfl
    have take := h.nullable "take" (.inl rfl) (fun n _ => recovers_window n) rfl
    have keyword := h.nullable "keyword" (.inl rfl) (fun s _ => recovers_str s) rfl
    have filter := h.nullable "filter" (.inl rfl) (fun s _ => recovers_str s) rfl
    have facet := h.nullable "facet" (.inl rfl) (fun s _ => recovers_str s) rfl
    have sort := h.nullable "sort" (.inl rfl) (fun s _ => recovers_str s) rfl
    have culture := h.nullable "culture" (.inl rfl) (fun s _ => recovers_str s) rfl
    have currency := h.nullable "currency" (.inl rfl) (fun s _ => recovers_str s) rfl
    have objectIds := h.defaulted "object_ids" [] rfl (by simp) (recovers_strings q.objectIds)
    have terms := h.defaulted "terms" [] rfl (by simp) (recovers_strings q.terms)
    have fuzzy := h.defaulted "fuzzy" false rfl (by simp) (recovers_bool q.fuzzy)
    have fuzzyLevel := h.nullable "fuzzy_level" (.inl rfl) (fun n _ => recovers_level n) rfl
    have includeFields := h.defaulted "include_fields" [] rfl (by simp)
      (recovers_strings q.includeFields)
    rw [ofJson?, record?, Option.bind_eq_bind, Option.bind_some, skip, take, keyword, filter, facet,
      sort, culture, currency, objectIds, terms, fuzzy, fuzzyLevel, includeFields]
    rfl

/-! ## Configurations -/

theorem SearchSettings.readsBack (s : SearchSettings) :
    ReadsBack SearchSettings.ofJson? Eq [] [] s.toJson s :=
  .of_seen fun ns h => by
    let standard : SearchSettings := {}
    have take := h.defaulted "default_take" standard.defaultTake rfl (by simp)
      (recovers_window s.defaultTake)
    have content := h.defaulted "content_field" standard.contentField rfl (by simp)
      (recovers_str s.contentField)
    have sort := h.defaulted "default_sort_field" standard.defaultSortField rfl (by simp)
      (recovers_str s.defaultSortField)
    have descending := h.defaulted "default_sort_descending" standard.defaultSortDescending rfl
      (by simp) (recovers_bool s.defaultSortDescending)
    have localized := h.defaulted "localized_facet_fields" [] rfl (by simp)
      (recovers_strings s.localizedFacetFields)
    have terms := h.defaulted "default_terms" [] rfl (by simp) (recovers_strings s.defaultTerms)
    simp [ofJson?, record?, standard, take, content, sort, descending, localized, terms]

theorem MappingSettings.readsBack (s : MappingSettings) :
    ReadsBack MappingSettings.ofJson? Eq [] [] s.toJson s :=
  .of_seen fun ns h => by
    have pattern := h.required "pattern" rfl (by simp) (recovers_str s.pattern)
    have replacement := h.required "replacement" rfl (by simp) (recovers_str s.replacement)
    have lowercase := h.defaulted "lowercase" false rfl (by simp) (recovers_bool s.lowercase)
    simp [ofJson?, record?, pattern, replacement, lowercase]

theorem FacetSettings.readsBack (s : FacetSettings) :
    ReadsBack FacetSettings.ofJson? Eq [] [] s.toJson s :=
  .of_seen fun ns h => by
    have field := h.required "field" rfl (by simp) (recovers_str s.field)
    have size := h.defaulted "size" 0 rfl (by simp) (recovers_count s.size)
    simp [ofJson?, record?, field, size]

theorem Config.readsBack (c : Config) : ReadsBack Config.ofJson? Eq [] [] c.toJson c :=
  .of_seen fun ns h => by
    have search := h.defaulted "search" {} rfl (by simp) (c.search.readsBack.recovers rfl)
    have mappings := h.defaulted "field_mappings" [] rfl (by simp)
      (recovers_list fun s _ => (MappingSettings.readsBack s).recovers rfl)
    have facets := h.defaulted "facets" [] rfl (by simp)
      (recovers_list fun s _ => (FacetSettings.readsBack s).recovers rfl)
    simp [ofJson?, record?, search, mappings, facets]

/-! ## Answers, facets and results -/

theorem Count.readsBack (c : Count) : ReadsBack Count.ofJson? Eq [] [] c.toJson c :=
  .of_seen fun ns h => by
    have id := h.required "id" rfl (by simp) (recovers_str c.id)
    have count := h.required "count" rfl (by simp) (recovers_count c.count)
    simp [ofJson?, record?, id, count]

theorem AggregationResponse.readsBack (r : AggregationResponse) :
    ReadsBack AggregationResponse.ofJson? Eq [] [] r.toJson r :=
  .of_seen fun ns h => by
    have id := h.required "id" rfl (by simp) (recovers_str r.id)
    have values := h.defaulted "values" [] rfl (by simp)
      (recovers_list fun c _ => (Count.readsBack c).recovers rfl)
    simp [ofJson?, record?, id, values]

/-- The same answer, where members of the documents may stand in another order. -/
def Response.SameUpToOrder (r s : Response) : Prop :=
  List.Forall₂ Reordered r.documents s.documents ∧ s = { r with documents := s.documents }

theorem Response.ofJson?_of_seen {r : Response} {ms ns : Members} {documents : List Json}
    (hms : r.toJson = .obj ms) (h : Seen [] [] ms ns)
    (hdocs : ns.lookup "documents" = some (.arr documents)) :
    Response.ofJson? (.obj ns) = some { r with documents } := by
  cases hms
  have count := h.required "total_count" rfl (by simp) (recovers_count r.totalCount)
  have aggregations := h.defaulted "aggregations" [] rfl (by simp)
    (recovers_list fun a _ => (AggregationResponse.readsBack a).recovers rfl)
  have documents : defaulted "documents" [] array? ns = some documents := by
    simp [defaulted, hdocs, array?]
  simp [ofJson?, record?, documents, count, aggregations]

theorem Response.readsBack (r : Response) :
    ReadsBack Response.ofJson? Response.SameUpToOrder [] [] r.toJson r := by
  refine ⟨ofJson?_of_seen rfl (.refl [] [] _) rfl, fun k hk => ?_⟩
  obtain ⟨ns, rfl, h⟩ := hk.exists_seen
  obtain ⟨documents, hdocs, hsame⟩ := h.items "documents" rfl
  exact ⟨_, ofJson?_of_seen rfl h hdocs, hsame, rfl⟩

theorem TermItem.readsBack (i : TermItem) : ReadsBack TermItem.ofJson? Eq [] [] i.toJson i :=
  .of_seen fun ns h => by
    have term := h.required "term" rfl (by simp) (recovers_str i.term)
    have count := h.required "count" rfl (by simp) (recovers_count i.count)
    have isApplied := h.required "is_applied" rfl (by simp) (recovers_bool i.isApplied)
    simp [ofJson?, record?, term, count, isApplied]

theorem RangeItem.readsBack (i : RangeItem) :
    ReadsBack RangeItem.ofJson? Eq [] ["lower", "upper"] i.toJson i :=
  .of_seen fun ns h => by
    have bucket : Bucket.ofMembers? ns = some i.bucket :=
      Bucket.ofMembers?_of_seen h fun _ hname => lookup_append_of_mem hname _
    have count := h.required "count" rfl (by simp) (recovers_count i.count)
    have isApplied := h.required "is_applied" rfl (by simp) (recovers_bool i.isApplied)
    simp [ofJson?, record?, bucket, count, isApplied]

theorem Facet.readsBack (f : Facet) : ReadsBack Facet.ofJson? Eq [] [] f.toJson f := by
  obtain ⟨id, field, items⟩ := f
  refine .of_seen fun ns h => ?_
  have type := h.required "type" rfl (by simp) (recovers_str items.type)
  have id := h.required "id" rfl (by simp) (recovers_str id)
  have field := h.required "field_name" rfl (by simp) (recovers_str field)
  have items : required "items" (FacetItems.ofJson? items.type) ns = some items := by
    refine h.required "items" rfl (by simp) ?_
    cases items with
    | terms items =>
      intro k hk
      have hitems := recovers_list (fun i _ => (TermItem.readsBack i).recovers rfl) k hk
      simp [FacetItems.type, FacetItems.ofJson?, hitems]
    | ranges items =>
      intro k hk
      have hitems := recovers_list (fun i _ => (RangeItem.readsBack i).recovers rfl) k hk
      simp [FacetItems.type, FacetItems.ofJson?, hitems]
  simp [ofJson?, variant?, type, id, field, items]

/-- The same result, where members of the documents may stand in another order. -/
def SearchResult.SameUpToOrder (r s : SearchResult) : Prop :=
  List.Forall₂ Reordered r.documents s.documents ∧ s = { r with documents := s.documents }

theorem SearchResult.ofJson?_of_seen {r : SearchResult} {ms ns : Members} {documents : List Json}
    (hms : r.toJson = .obj ms) (h : Seen [] [] ms ns)
    (hdocs : ns.lookup "documents" = some (.arr documents)) :
    SearchResult.ofJson? (.obj ns) = some { r with documents } := by
  cases hms
  have count := h.required "total_count" rfl (by simp) (recovers_count r.totalCount)
  have facets := h.required "facets" rfl (by simp)
    (recovers_list fun f _ => (Facet.readsBack f).recovers rfl)
  have documents : required "documents" array? ns = some documents := by
    simp [required, hdocs, array?]
  simp [ofJson?, record?, documents, count, facets]

theorem SearchResult.readsBack (r : SearchResult) :
    ReadsBack SearchResult.ofJson? SearchResult.SameUpToOrder [] [] r.toJson r := by
  refine ⟨ofJson?_of_seen rfl (.refl [] [] _) rfl, fun k hk => ?_⟩
  obtain ⟨ns, rfl, h⟩ := hk.exists_seen
  obtain ⟨documents, hdocs, hsame⟩ := h.items "documents" rfl
  exact ⟨_, ofJson?_of_seen rfl h hdocs, hsame, rfl⟩

/-! ## All records -/

/-- Every record is read back from what it is written as. In every restatement of that the same is
found: unknown members are added to the record, members of all objects are put in any order, and
an optional part is null or left out. -/
theorem toJson_readsBack :
    (∀ f : Filter, ReadsBack Filter.ofJson? Eq [] [] f.toJson f) ∧
    (∀ i : Interval, ReadsBack Interval.ofJson? Eq [] ["lower", "upper"] i.toJson i) ∧
    (∀ a : Aggregation,
      ReadsBack Aggregation.ofJson? Eq (Counting.parts a.counting.type) ["filter"] a.toJson a) ∧
    (∀ p : Parsed, ReadsBack Parsed.ofJson? Eq [] [] p.toJson p) ∧
    (∀ r : Response, ReadsBack Response.ofJson? Response.SameUpToOrder [] [] r.toJson r) ∧
    (∀ f : Facet, ReadsBack Facet.ofJson? Eq [] [] f.toJson f) ∧
    (∀ r : SearchResult,
      ReadsBack SearchResult.ofJson? SearchResult.SameUpToOrder [] [] r.toJson r) ∧
    (∀ q : Query, ReadsBack Query.ofJson? Eq [] ["skip", "take", "keyword", "filter", "facet",
      "sort", "culture", "currency", "fuzzy_level"] q.toJson q) ∧
    (∀ c : Config, ReadsBack Config.ofJson? Eq [] [] c.toJson c) ∧
    ∀ r : Request, (∀ f ∈ r.sorting, ∀ p ∈ f.origin, p.IsFinite) →
      ReadsBack Request.ofJson? Eq [] ["search_keywords", "fuzziness"] r.toJson r :=
  ⟨Filter.readsBack, Interval.readsBack, Aggregation.readsBack, Parsed.readsBack,
    Response.readsBack, Facet.readsBack, SearchResult.readsBack, Query.readsBack, Config.readsBack,
    fun _ hr => Request.readsBack hr⟩

/-- An aggregation with one more member, and these and those of its filter in reverse; and a
request that sorts by the distance to a point. -/
theorem toJson_readsBack_colors :
    let a : Aggregation := { Aggregation.ofField "color" 10 with filter := some (.ids ["a7"]) }
    let k : Json := .obj [("note", .str "new"),
      ("filter", .obj [("values", .arr [.str "a7"]), ("type", .str "ids")]), ("size", .int 10),
      ("field_name", .str "color"), ("id", .str "color"), ("type", .str "term")]
    let spot : GeoPoint := ⟨⟨0x3ff8000000000000⟩, ⟨0xc000000000000000⟩⟩
    let request : Request := ⟨0, 20, some "shoes", ["__content_de"], ⟨[.ids ["a7"]]⟩,
      [.relevance, ⟨"spot", false, some spot⟩], [a], [], false, none⟩
    Restates (Counting.parts a.counting.type) ["filter"] a.toJson k ∧
      Aggregation.ofJson? k = some a ∧
      (∀ f ∈ request.sorting, ∀ p ∈ f.origin, p.IsFinite) ∧
      Request.ofJson? request.toJson = some request := by
  intro a k spot request
  have hk : Restates (Counting.parts a.counting.type) ["filter"] a.toJson k := by
    let head : Members := [("type", .str "term"), ("id", .str "color"),
      ("field_name", .str "color"), ("size", .int 10)]
    let ms : Members := head ++ [("filter", (Filter.ids ["a7"]).toJson)]
    let note : String × Json := ("note", .str "new")
    let filter : Json := .obj [("values", .arr [.str "a7"]), ("type", .str "ids")]
    let ns : Members := head ++ [("filter", filter), note]
    have hfilter : Reordered (Filter.ids ["a7"]).toJson filter :=
      .obj (by decide) rfl (List.forall₂_same.2 fun j _ => .refl j) (.swap ..)
    have hvalues : List.Forall₂ Reordered ((ms ++ [note]).map Prod.snd) (ns.map Prod.snd) :=
      .cons (.refl _) (.cons (.refl _) (.cons (.refl _) (.cons (.refl _)
        (.cons hfilter (.cons (.refl _) .nil)))))
    have hnames : (ms ++ [note]).map Prod.fst = ns.map Prod.fst := rfl
    refine ⟨ms, ms ++ [note], rfl, ⟨by decide, ?_, ?_⟩,
      .obj (by decide) hnames hvalues (List.reverse_perm ns).symm⟩
    · exact fun m hm hn => absurd (List.mem_append_left _ hm) hn
    · intro m hm hn
      obtain rfl : m = note := by simpa [hn] using hm
      decide
  have hspot : spot.IsFinite := ⟨by decide, by decide⟩
  have hrequest : ∀ f ∈ request.sorting, ∀ p ∈ f.origin, p.IsFinite := by
    simp [request, SortField.relevance, hspot]
  obtain ⟨-, -, haggregation, -, -, -, -, -, -, hread⟩ := toJson_readsBack
  obtain ⟨_, ha, rfl⟩ := (haggregation a).restated k hk
  exact ⟨hk, ha, hrequest, (hread request hrequest).written⟩

end FacetedSearch
