import FacetedSearch.Proofs.FilterMeaning
import Mathlib.Data.List.Basic
import Mathlib.Data.List.Induction

/-!
# Facets that are asked for

A facet expression stands for a list of candidates: the predefined aggregations, then those that
its filters ask for, and then those that its words ask for. A candidate is requested when no
earlier one has its id, wherever the two come from.

## Main definitions

* `Aggregation.firsts` — the elements of a list whose id no earlier one has.
* `Draft.askedBy`, `Draft.fieldOfWord` — what a filter asks for, and what a word means.
* `Draft.candidates` — all that a facet expression asks for.
-/

namespace FacetedSearch

namespace Aggregation

/-- The elements of a list whose id no earlier one has. -/
def firsts (as : List Aggregation) : List Aggregation :=
  (as.zipIdx.filter fun (a, i) => ∀ b ∈ as.take i, b.id ≠ a.id).map Prod.fst

/-! ## The first of every id -/

/-- What is at the end of a list has no say in what is kept before it. -/
theorem firsts_concat (as : List Aggregation) (a : Aggregation) : firsts (as ++ [a]) =
    if ∃ b ∈ as, b.id = a.id then firsts as else firsts as ++ [a] := by
  have hbefore : (as.zipIdx.filter fun (b, i) => ∀ c ∈ (as ++ [a]).take i, c.id ≠ b.id) =
      as.zipIdx.filter fun (b, i) => ∀ c ∈ as.take i, c.id ≠ b.id := by
    refine List.filter_congr fun ⟨b, i⟩ hmem => ?_
    have hlt : i < as.length := List.snd_lt_of_mem_zipIdx hmem
    dsimp only
    rw [List.take_append_of_le_length (Nat.le_of_lt hlt)]
  have hlast : (as ++ [a]).take as.length = as := List.take_left
  rw [firsts, List.zipIdx_append, List.filter_append, List.map_append, hbefore, firsts]
  by_cases h : ∃ b ∈ as, b.id = a.id
  · rw [if_pos h, List.zipIdx_singleton, List.filter_cons_of_neg, List.filter_nil]
    · simp
    · simpa [hlast] using h
  · rw [if_neg h, List.zipIdx_singleton, List.filter_cons_of_pos, List.filter_nil]
    · simp
    · simpa [hlast] using h

theorem exists_mem_unique_iff {as : List Aggregation} {id : String} :
    (∃ b ∈ unique as, b.id = id) ↔ ∃ b ∈ as, b.id = id := by
  constructor
  · rintro ⟨b, hb, hid⟩
    exact ⟨b, mem_of_mem_unique hb, hid⟩
  · rintro ⟨b, hb, rfl⟩
    exact exists_mem_unique hb

theorem unique_concat (as : List Aggregation) (a : Aggregation) : unique (as ++ [a]) =
    if ∃ b ∈ as, b.id = a.id then unique as else unique as ++ [a] := by
  have hstep : unique (as ++ [a]) = pushUnique (unique as) a := List.foldl_append ..
  rw [hstep, pushUnique]
  refine if_congr ?_ rfl rfl
  rw [← exists_mem_unique_iff]
  simp

theorem unique_eq_firsts (as : List Aggregation) : unique as = firsts as := by
  induction as using List.reverseRecOn with
  | nil => rfl
  | append_singleton as a ih => rw [unique_concat, firsts_concat, ih]

theorem firsts_prefix (as bs : List Aggregation) : firsts as <+: firsts (as ++ bs) := by
  induction bs using List.reverseRecOn with
  | nil => simp
  | append_singleton bs b ih =>
    rw [← List.append_assoc, firsts_concat]
    split
    · exact ih
    · exact ih.trans (List.prefix_append _ _)

end Aggregation

namespace Draft

variable {d : Draft} {parser : ExpressionParser}

/-- What a parsed filter asks for: the values of a term, under its written form, or the intervals
of a range, under the name of its field. -/
def askedBy (d : Draft) : Filter → List Aggregation
  | .term name values =>
    let field := d.mapper.mapName name
    [{ id := (Filter.term field values).canonical, field,
       counting := .terms (UInt64.ofNat values.length) values }]
  | .range name intervals =>
    let field := fieldInCurrency d.currency (d.mapper.mapName name)
    [{ id := field, field, counting := .buckets (intervals.map fun i => ⟨i.canonical, i⟩) }]
  | .wildcard .. | .ids _ | .all _ | .any _ => []

/-- The field that a word means. If it is a localized one, it is the field in the culture. -/
def fieldOfWord (d : Draft) (word : String) : String :=
  d.mapper.mapName (match d.culture with
    | some culture =>
      if ∃ field ∈ d.localizedFacetFields, Text.fold field = Text.fold word
      then word ++ "_" ++ culture else word
    | none => word)

/-- All that a facet expression asks for, behind the predefined aggregations. -/
def candidates (d : Draft) (predefined : List Aggregation) (parsed : Parsed) : List Aggregation :=
  predefined ++ parsed.filters.flatMap d.askedBy ++ (Text.words parsed.keyword).map fun word =>
    { id := d.fieldOfWord word, field := d.fieldOfWord word, counting := .terms 0 [] }

/-! ## Candidates -/

theorem toList_filterFacet? (d : Draft) (f : Filter) : (d.filterFacet? f).toList = d.askedBy f := by
  cases f with
  | range name intervals => rw [askedBy, ← rangeField_eq_fieldInCurrency]; rfl
  | _ => rfl

theorem mapName_localize (d : Draft) (word : String) :
    d.mapper.mapName (d.localize word) = d.fieldOfWord word := by
  unfold localize fieldOfWord
  cases d.culture with
  | none => rfl
  | some culture => simp only [List.any_eq_true, Text.same_iff]

theorem append_facetsOf (d : Draft) (predefined : List Aggregation) (parsed : Parsed) :
    predefined ++ d.facetsOf parsed = d.candidates predefined parsed := by
  have hfilters : parsed.filters.filterMap d.filterFacet? = parsed.filters.flatMap d.askedBy := by
    rw [List.filterMap_eq_flatMap_toList]
    simp only [toList_filterFacet?]
  have hword : ∀ word, d.keywordFacet word =
      { id := d.fieldOfWord word, field := d.fieldOfWord word, counting := .terms 0 [] } := by
    intro word
    rw [keywordFacet, mapName_localize, Aggregation.ofField]
  rw [facetsOf, candidates, hfilters, funext hword, List.append_assoc]

theorem candidates_empty (d : Draft) (predefined : List Aggregation) :
    d.candidates predefined {} = predefined := by
  rw [← append_facetsOf]
  exact List.append_nil _

theorem acceptFacets_eq (d : Draft) (predefined : List Aggregation) (parsed : Parsed) :
    d.acceptFacets predefined parsed =
      { d with aggregations := Aggregation.firsts (d.candidates predefined parsed) } := by
  rw [acceptFacets, append_facetsOf, Aggregation.unique_eq_firsts]

/-- A facet expression replaces the aggregations by those of its candidates whose id no earlier
candidate has. So the ids are distinct, none of them is lost, and the predefined aggregations come
first. For a blank expression these are all, and the parser is not asked. -/
theorem addFacets_keeps_firsts (hparser : d.parser = some parser) (expression : String)
    (predefined : List Aggregation) :
    (Text.blank expression = true → ∀ earlier : List Aggregation,
      ({ d with aggregations := earlier } : Draft).addFacets expression predefined =
        ⟨[], [], .ok { d with aggregations := Aggregation.firsts predefined }⟩) ∧
    (Text.blank expression = false → ∀ parsed, parser expression = .ok parsed →
      let candidates := d.candidates predefined parsed
      let kept := Aggregation.firsts candidates
      (∀ earlier : List Aggregation,
        ({ d with aggregations := earlier } : Draft).addFacets expression predefined =
          ⟨[expression], [], .ok { d with aggregations := kept }⟩) ∧
      (kept.map (·.id)).Nodup ∧
      (∀ a ∈ candidates, ∃ b ∈ kept, b.id = a.id) ∧
      Aggregation.firsts predefined <+: kept) := by
  have hfacets : ∀ earlier : List Aggregation,
      ({ d with aggregations := earlier } : Draft).addFacets expression predefined =
        ⟨Consulted.calls expression, [],
          (parser.found expression).map (d.acceptFacets predefined)⟩ :=
    fun earlier => addFacets_eq (d := { d with aggregations := earlier }) hparser expression
      predefined
  constructor
  · intro hblank earlier
    rw [hfacets, Consulted.calls, ExpressionParser.found, if_pos hblank, if_pos hblank, Except.map,
      acceptFacets_eq, candidates_empty]
  · intro hblank parsed hparsed candidates kept
    have hkept : Aggregation.unique candidates = kept := Aggregation.unique_eq_firsts _
    refine ⟨fun earlier => ?_, ?_, fun a ha => ?_, ?_⟩
    · rw [hfacets, Consulted.calls, ExpressionParser.found, hblank, if_neg Bool.false_ne_true,
        if_neg Bool.false_ne_true, hparsed, Except.map, acceptFacets_eq]
    · rw [← hkept]
      exact Aggregation.nodup_unique _
    · rw [← hkept]
      exact Aggregation.exists_mem_unique ha
    · simp only [kept, candidates, Draft.candidates, List.append_assoc]
      exact Aggregation.firsts_prefix predefined _

/-- Of the predefined brands the first stays, and it keeps the word for it out. The localized word
for the color is no word for the term on it, and a price is not the one in a currency. -/
theorem addFacets_keeps_firsts_brand :
    let color : Filter := .term "properties.Color" ["red"]
    let price : Filter := .range "PRICE" [.below "5"]
    let parser : ExpressionParser := fun _ => .ok ⟨"brand COLOR\u00a0price", [color, price, color]⟩
    let d : Draft := { Draft.ofMapper .catalog with
      parser := some parser, currency := some "EUR", culture := some "de",
      localizedFacetFields := ["Color"], aggregations := [.ofField "size" 0] }
    d.addFacets "facets" [.ofField "brand" 5, .ofField "brand" 7] = ⟨["facets"], [], .ok { d with
      aggregations := [.ofField "brand" 5, .ofTerm "Color" ["red"],
        .ofRange "price_eur" [.below "5"], .ofField "COLOR_de" 0, .ofField "price" 0] }⟩ := by
  intro color price parser d
  obtain ⟨hadd, -⟩ := (addFacets_keeps_firsts (d := d) rfl "facets"
    [.ofField "brand" 5, .ofField "brand" 7]).2 (by decide) _ rfl
  have hkept : Aggregation.firsts (d.candidates [.ofField "brand" 5, .ofField "brand" 7]
      ⟨"brand COLOR\u00a0price", [color, price, color]⟩) =
        [.ofField "brand" 5, .ofTerm "Color" ["red"], .ofRange "price_eur" [.below "5"],
          .ofField "COLOR_de" 0, .ofField "price" 0] := by
    decide +kernel
  rw [hkept] at hadd
  exact hadd _

end Draft

end FacetedSearch
