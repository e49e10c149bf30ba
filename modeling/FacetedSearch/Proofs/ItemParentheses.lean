import FacetedSearch.Sorting

/-!
# Sort items at their parentheses

An item with a point is cut at the places of its parentheses, which are counted in octets. All
these cuts can be made, whatever characters the item has, and they give the characters around the
parentheses.

## Main definitions

* `SortField.ComesApart` — an item as the characters around its parentheses.
-/

namespace FacetedSearch

namespace SortField

/-- An item comes apart at its first opening parenthesis and at the first closing one behind it. -/
structure ComesApart (item column inside rest : List Char) : Prop where
  text : item = column ++ '(' :: (inside ++ ')' :: rest)
  column : '(' ∉ column
  inside : ')' ∉ inside

variable {item column inside rest : List Char} {f : SortField}

theorem parentheses_sublist_iff_exists :
    ['(', ')'].Sublist item ↔ ∃ a b c, item = a ++ '(' :: (b ++ ')' :: c) := by
  constructor
  · intro h
    obtain ⟨column, inside, rest, htext, -, -⟩ := exists_parentheses h
    exact ⟨column, inside, rest, htext⟩
  · rintro ⟨a, b, c, rfl⟩
    have hsub : ['(', ')'].Sublist ('(' :: (b ++ ')' :: c)) := by simp
    exact hsub.trans (List.sublist_append_right a _)

theorem parentheses_eq_some_iff {opening closing : Nat} :
    parentheses item = .ok (some (opening, closing)) ↔ ∃ column inside rest,
      ComesApart item column inside rest ∧ (Text.encode column).length = opening ∧
        (Text.encode (column ++ '(' :: inside)).length = closing := by
  constructor
  · intro h
    by_cases hsub : ['(', ')'].Sublist item
    · obtain ⟨column, inside, rest, rfl, hcolumn, hinside⟩ := exists_parentheses hsub
      rw [parentheses_eq_some hcolumn hinside] at h
      obtain ⟨hopening, hclosing⟩ := Prod.mk.inj (Option.some.inj (Except.ok.inj h))
      exact ⟨column, inside, rest, ⟨rfl, hcolumn, hinside⟩, hopening, hclosing⟩
    · rw [parentheses_eq_none hsub] at h
      have hnone := Except.ok.inj h
      contradiction
  · rintro ⟨column, inside, rest, ⟨rfl, hcolumn, hinside⟩, rfl, rfl⟩
    exact parentheses_eq_some hcolumn hinside rest

/-- No cut of an item fails. -/
theorem cutGeoItem_eq_ok (item : List Char) : cutGeoItem item = .ok (ofGeoItem? item) := by
  by_cases hsub : ['(', ')'].Sublist item
  · obtain ⟨column, inside, rest, rfl, hcolumn, hinside⟩ := exists_parentheses hsub
    rw [ofGeoItem?, cutGeoItem_eq_some hcolumn hinside]
  · rw [ofGeoItem?, cutGeoItem_eq_none hsub]

/-- The first comma stands between the coordinates. -/
theorem point?_eq_some_iff {p : GeoPoint} : point? inside = some p ↔
    ∃ latitude longitude, inside = latitude ++ ',' :: longitude ∧ ',' ∉ latitude ∧
      Binary64.parse? (Text.strip latitude) = some p.latitude ∧
        Binary64.parse? (Text.strip longitude) = some p.longitude := by
  constructor
  · intro h
    by_cases hcomma : ',' ∈ inside
    · obtain ⟨latitude, longitude, rfl, hlatitude⟩ := List.eq_append_cons_of_mem hcomma
      exact ⟨latitude, longitude, rfl, hlatitude, (point?_append_cons_eq_some_iff hlatitude).1 h⟩
    · rw [point?, Text.cut_beq_eq_none_iff.2 hcomma] at h
      contradiction
  · rintro ⟨latitude, longitude, rfl, hlatitude, hp⟩
    exact (point?_append_cons_eq_some_iff hlatitude).2 hp

/-- What an item with a point sorts by, read off the characters around its parentheses. -/
theorem ofGeoItem?_eq_some_iff_comesApart : ofGeoItem? item = some f ↔ ∃ column inside rest,
    ComesApart item column inside rest ∧ f.field = String.ofList (Text.strip column) ∧
      f.descending = isDescending (rest.dropWhile isDirectionMark) ∧
      ∀ p, f.origin = some p ↔ ∃ latitude longitude, inside = latitude ++ ',' :: longitude ∧
        ',' ∉ latitude ∧ Binary64.parse? (Text.strip latitude) = some p.latitude ∧
          Binary64.parse? (Text.strip longitude) = some p.longitude := by
  rw [ofGeoItem?_eq_some_iff]
  simp only [← point?_eq_some_iff]
  constructor
  · rintro ⟨column, inside, rest, htext, hcolumn, hinside, rfl⟩
    exact ⟨column, inside, rest, ⟨htext, hcolumn, hinside⟩, rfl, rfl, fun _ => Iff.rfl⟩
  · rintro ⟨column, inside, rest, ⟨htext, hcolumn, hinside⟩, hfield, hdescending, horigin⟩
    refine ⟨column, inside, rest, htext, hcolumn, hinside, ?_⟩
    obtain ⟨field, descending, origin⟩ := f
    obtain rfl : field = _ := hfield
    obtain rfl : descending = _ := hdescending
    obtain rfl : origin = _ := Option.ext horigin
    rfl

/-- Every cut of an item lies within it and between characters: the one behind the first opening
parenthesis, and those around both parentheses. So reading never fails. An item without a closing
parenthesis behind an opening one has no point; every other one sorts by the characters before the
first opening parenthesis, from the point between that and the first closing one behind it, in the
direction that all the characters behind that one say. -/
theorem cutGeoItem_by_characters (item : List Char) :
    (∀ opening, Text.find? '(' item = some opening →
      Text.IsCut item opening (Text.encode item).length) ∧
    (∀ opening closing, parentheses item = .ok (some (opening, closing)) →
      Text.IsCut item 0 opening ∧ Text.IsCut item (opening + 1) closing ∧
        Text.IsCut item (closing + 1) (Text.encode item).length ∧
        ∃ column inside rest, ComesApart item column inside rest ∧
          Text.slice item 0 opening = .ok column ∧
          Text.slice item (opening + 1) closing = .ok inside ∧
          Text.slice item (closing + 1) (Text.encode item).length = .ok rest) ∧
    cutGeoItem item = .ok (ofGeoItem? item) ∧
    (cutGeoItem item = .ok none ↔ ¬ ∃ a b c, item = a ++ '(' :: (b ++ ')' :: c)) ∧
    ∀ f, cutGeoItem item = .ok (some f) ↔ ∃ column inside rest,
      ComesApart item column inside rest ∧ f.field = String.ofList (Text.strip column) ∧
        f.descending = isDescending (rest.dropWhile isDirectionMark) ∧
        ∀ p, f.origin = some p ↔ ∃ latitude longitude, inside = latitude ++ ',' :: longitude ∧
          ',' ∉ latitude ∧ Binary64.parse? (Text.strip latitude) = some p.latitude ∧
            Binary64.parse? (Text.strip longitude) = some p.longitude := by
  refine ⟨?_, ?_, cutGeoItem_eq_ok item, ?_, ?_⟩
  · intro opening hopening
    obtain ⟨column, tail, rfl, -, rfl⟩ := Text.find?_eq_some_iff.1 hopening
    exact Text.isCut_of_slice_eq_ok (Text.slice_right column _)
  · intro opening closing hplaces
    obtain ⟨column, inside, rest, happart, rfl, rfl⟩ := parentheses_eq_some_iff.1 hplaces
    obtain ⟨hbefore, hbetween, hbehind⟩ := slice_parentheses column inside rest
    rw [← happart.text] at hbefore hbetween hbehind
    exact ⟨Text.isCut_of_slice_eq_ok hbefore, Text.isCut_of_slice_eq_ok hbetween,
      Text.isCut_of_slice_eq_ok hbehind, column, inside, rest, happart, hbefore, hbetween, hbehind⟩
  · rw [cutGeoItem_eq_ok, Except.ok.injEq, ofGeoItem?_eq_none_iff, parentheses_sublist_iff_exists]
  · intro f
    rw [cutGeoItem_eq_ok, Except.ok.injEq, ofGeoItem?_eq_some_iff_comesApart]

/-- A letter of two octets stands before the point, and so does a closing parenthesis. -/
theorem cutGeoItem_by_characters_near :
    let item := ")né (1.5,-2):\u00a0desc".toList
    let point : GeoPoint := ⟨⟨0x3ff8000000000000⟩, ⟨0xc000000000000000⟩⟩
    Text.find? '(' item = some 5 ∧ Text.IsCut item 5 (Text.encode item).length ∧
      parentheses item = .ok (some (5, 12)) ∧ Text.IsCut item 0 5 ∧ Text.IsCut item 6 12 ∧
      Text.IsCut item 13 (Text.encode item).length ∧
      cutGeoItem item = .ok (some ⟨")né", true, some point⟩) := by
  intro item point
  obtain ⟨htail, hparts, hread, -⟩ := cutGeoItem_by_characters item
  have hopening : Text.find? '(' item = some 5 := by decide +kernel
  have hplaces : parentheses item = .ok (some (5, 12)) := rfl
  have hpoint : ofGeoItem? item = some ⟨")né", true, some point⟩ := by decide +kernel
  obtain ⟨hbefore, hbetween, hbehind, -⟩ := hparts 5 12 hplaces
  exact ⟨hopening, htail 5 hopening, hplaces, hbefore, hbetween, hbehind, hpoint ▸ hread⟩

end SortField

end FacetedSearch
