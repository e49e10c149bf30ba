import FacetedSearch.Sorting

/-!
# Sort expressions segment by segment

A sort expression is read one segment after the other, and each segment for itself: whatever stands
in one of them, parentheses and colons included, is lost on the others.

## Main definitions

* `SortField.ofSegment?` — the criterion of a segment; a blank one has none.
-/

namespace FacetedSearch

namespace SortField

/-- What a segment sorts by; a blank one says nothing. -/
def ofSegment? (currency : Option String) (segment : List Char) : Option SortField :=
  if segment.all Text.isBlank then none
  else some ((ofItem (Text.strip segment)).resolve currency)

variable (currency : Option String) {segment : List Char}

/-! ## Segments -/

theorem isSome_ofSegment? (segment : List Char) :
    (ofSegment? currency segment).isSome = !segment.all Text.isBlank := by
  cases h : segment.all Text.isBlank <;> simp [ofSegment?, h]

theorem ofSegment?_of_not_blank (h : segment.all Text.isBlank = false) :
    ofSegment? currency segment = some ((ofItem (Text.strip segment)).resolve currency) :=
  if_neg (Bool.not_eq_true _ ▸ h)

/-- The criteria of an expression are those of its segments, in order. -/
theorem ofExpression_eq_filterMap (expression : String) : ofExpression currency expression =
    (expression.toList.splitOn ';').filterMap (ofSegment? currency) := by
  rw [ofExpression, items, Text.pieces_eq_splitOnP, ← List.splitOn_eq_splitOnP, List.filter_map,
    List.map_map, ← List.filterMap_eq_map, List.filterMap_filter]
  congr 1
  funext segment
  cases h : segment.all Text.isBlank <;> simp [ofSegment?, Text.strip_eq_nil_iff, h]

/-- There are as many criteria as segments that are not blank. -/
theorem length_ofExpression (expression : String) : (ofExpression currency expression).length =
    (expression.toList.splitOn ';').countP fun segment => !segment.all Text.isBlank := by
  rw [ofExpression_eq_filterMap, List.length_filterMap_eq_countP]
  simp only [isSome_ofSegment?]

/-! ## Joined expressions -/

theorem ofExpression_append (a b : String) : ofExpression currency (a ++ ";" ++ b) =
    ofExpression currency a ++ ofExpression currency b := by
  have hchars : (a ++ ";" ++ b).toList = a.toList ++ ';' :: b.toList := by simp
  rw [ofExpression_eq_filterMap, ofExpression_eq_filterMap, ofExpression_eq_filterMap, hchars,
    ← List.filterMap_append]
  exact congrArg _ (List.splitOnP_append_cons _ _ (beq_self_eq_true ';'))

/-- An expression without a semicolon is its only segment. -/
theorem ofExpression_of_not_mem {s : String} (h : ';' ∉ s.toList) :
    ofExpression currency s = (ofSegment? currency s.toList).toList := by
  have hone : s.toList.splitOn ';' = [s.toList] := by
    rw [List.splitOn_eq_splitOnP]
    refine List.splitOnP_eq_singleton fun c hc => ?_
    rw [beq_eq_false_iff_ne]
    rintro rfl
    exact h hc
  rw [ofExpression_eq_filterMap, hone]
  cases hs : ofSegment? currency s.toList <;> simp [hs]

theorem ofExpression_of_blank {s : String} (h : Text.blank s = true) :
    ofExpression currency s = [] := by
  have hnone : ofSegment? currency s.toList = none := if_pos h
  rw [ofExpression_of_not_mem currency (Text.not_mem_of_blank h (by decide)), hnone,
    Option.toList_none]

/-- To join expressions is to sort by one after the other. -/
theorem ofExpression_intercalate (parts : List String) :
    ofExpression currency (";".intercalate parts) = parts.flatMap (ofExpression currency) := by
  induction parts with
  | nil => exact ofExpression_of_blank currency rfl
  | cons part parts ih =>
    cases parts with
    | nil => simp
    | cons part' parts =>
      rw [String.intercalate_cons_cons, ofExpression_append, ih]
      rfl

/-- What stands in a segment decides on its own criterion, and on no other one. -/
theorem ofExpression_between (before after : String) {s : String} (h : ';' ∉ s.toList) :
    ofExpression currency (before ++ ";" ++ s ++ ";" ++ after) =
      ofExpression currency before ++ (ofSegment? currency s.toList).toList ++
        ofExpression currency after := by
  rw [ofExpression_append, ofExpression_append, ofExpression_of_not_mem currency h]

/-- A semicolon between two expressions puts their criteria one after the other, and a blank
expression has none. In every expression, each segment that is not blank has one criterion, which
depends on nothing but the segment, and there are no others. -/
theorem ofExpression_by_segments :
    (∀ a b : String, ofExpression currency (a ++ ";" ++ b) =
      ofExpression currency a ++ ofExpression currency b) ∧
    (∀ s : String, Text.blank s = true → ofExpression currency s = []) ∧
    (∀ segment, (ofSegment? currency segment).isSome = !segment.all Text.isBlank) ∧
    (∀ expression : String,
      ofExpression currency expression =
        (expression.toList.splitOn ';').filterMap (ofSegment? currency) ∧
      (ofExpression currency expression).length =
        (expression.toList.splitOn ';').countP fun segment => !segment.all Text.isBlank) ∧
    ∀ before s after : String, ';' ∉ s.toList →
      ofExpression currency (before ++ ";" ++ s ++ ";" ++ after) =
        ofExpression currency before ++ (ofSegment? currency s.toList).toList ++
          ofExpression currency after :=
  ⟨ofExpression_append currency, fun _ => ofExpression_of_blank currency,
    isSome_ofSegment? currency,
    fun expression => ⟨ofExpression_eq_filterMap currency expression,
      length_ofExpression currency expression⟩,
    fun before _ after h => ofExpression_between currency before after h⟩

/-- Parentheses do not reach across a semicolon: there are two columns here and no point. -/
theorem ofExpression_by_segments_open :
    let expression := "spot(1;2) desc; \t"
    ofExpression none expression = ofExpression none "spot(1;2) desc" ++ ofExpression none " \t" ∧
      ofExpression none " \t" = [] ∧ (ofExpression none expression).length = 2 ∧
      ofExpression none expression = [⟨"spot(1", false, none⟩, ⟨"2)", true, none⟩] := by
  intro expression
  obtain ⟨happend, hblank, -, hsegments, -⟩ := ofExpression_by_segments none
  have hlength : (expression.toList.splitOn ';').countP (!·.all Text.isBlank) = 2 := by
    decide +kernel
  exact ⟨happend "spot(1;2) desc" " \t", hblank " \t" (by decide),
    (hsegments expression).2.trans hlength, by decide +kernel⟩

end SortField

end FacetedSearch
