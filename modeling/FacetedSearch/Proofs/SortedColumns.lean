import FacetedSearch.Proofs.QueryParts
import FacetedSearch.Proofs.SearchRuns
import FacetedSearch.Proofs.WrittenSorting

/-!
# Columns of sort expressions

A request sorts by a blank field exactly when some item of the sort expression has no column: the
item begins with its point, or with the colon in front of its direction. Such an item is read all
the same, although a blank default field is refused with the configuration.

## Main definitions

* `SortField.LacksColumn` — items without a column.
* `SortField.AllColumnsGiven` — expressions without such an item.
-/

namespace FacetedSearch

namespace SortField

/-- Nothing stands in front of the point of an item, or of the colon if the item has no point. -/
def LacksColumn (item : List Char) : Prop :=
  item.head? = some (if ['(', ')'].Sublist item then '(' else ':')

instance : DecidablePred LacksColumn := fun _ => inferInstanceAs (Decidable (_ = _))

/-- Every segment of an expression that is an item has a column. -/
def AllColumnsGiven (expression : String) : Prop :=
  ∀ segment ∈ expression.toList.splitOn ';', ¬ LacksColumn (Text.strip segment)

instance : DecidablePred AllColumnsGiven := fun expression =>
  inferInstanceAs (Decidable (∀ segment ∈ expression.toList.splitOn ';', _))

variable {item column rest : List Char} {currency : Option String}

/-! ## Fields of items -/

/-- A column that is cut from the front of a stripped item is blank only when nothing is cut. -/
theorem blank_column_iff {s : Char} (h : Text.strip (column ++ s :: rest) = column ++ s :: rest) :
    Text.blank (String.ofList (Text.strip column)) = true ↔ column = [] := by
  rw [Text.blank, String.toList_ofList, ← Text.strip_eq_nil_iff, Text.strip_strip]
  constructor
  · intro hnil
    cases column with
    | nil => rfl
    | cons c column =>
      have hc : Text.isBlank c = false := (Text.strip_eq_self_iff.1 h).1 c rfl
      have hblank := List.all_eq_true.1 ((Text.strip_eq_nil_iff _).1 hnil) c List.mem_cons_self
      rw [hc] at hblank
      contradiction
  · rintro rfl
    rfl

/-- What an item is cut at stands in front exactly when there is no column. -/
theorem head?_append_cons_eq_some_iff {s : Char} (h : s ∉ column) :
    (column ++ s :: rest).head? = some s ↔ column = [] := by
  cases column with
  | nil => simp
  | cons c column =>
    have hne : c ≠ s := fun heq => h (heq ▸ List.mem_cons_self)
    simp [hne]

/-- A stripped item has a blank field exactly when it lacks its column. -/
theorem blank_field_ofItem_iff (h : Text.strip item = item) (hne : item ≠ []) :
    Text.blank (ofItem item).field = true ↔ LacksColumn item := by
  cases hgeo : ofGeoItem? item with
  | some f =>
    have hpoint : ['(', ')'].Sublist item := by
      by_contra hno
      rw [ofGeoItem?_eq_none_iff.2 hno] at hgeo
      contradiction
    obtain ⟨column, inside, rest, rfl, hcolumn, -, rfl⟩ := ofGeoItem?_eq_some_iff.1 hgeo
    rw [ofItem_of_eq_some hgeo, blank_column_iff h, LacksColumn, if_pos hpoint,
      head?_append_cons_eq_some_iff hcolumn]
  | none =>
    have hpoint : ¬ ['(', ')'].Sublist item := ofGeoItem?_eq_none_iff.1 hgeo
    rw [ofItem_of_eq_none hgeo, LacksColumn, if_neg hpoint]
    cases hcut : Text.cut isSeparator item with
    | none =>
      have hplain := Text.cut_eq_none_iff.1 hcut
      have hcolon : item.head? ≠ some ':' := fun hhead =>
        absurd (hplain ':' (List.mem_of_mem_head? hhead)) (by decide)
      rw [ofPlainItem_of_forall hplain]
      refine iff_of_false ?_ hcolon
      rw [Text.blank, String.toList_ofList, ← Text.strip_eq_nil_iff, h]
      exact hne
    | some parts =>
      obtain ⟨column, direction⟩ := parts
      obtain ⟨s, hs, hcolumn, rfl⟩ := Text.cut_eq_some_iff.1 hcut
      rw [ofPlainItem_append_cons hs hcolumn, blank_column_iff h]
      -- An item does not begin with a blank, so a separator in front of it is the colon.
      cases column with
      | nil =>
        have hfirst : Text.isBlank s = false := (Text.strip_eq_self_iff.1 h).1 s rfl
        have hcolon : s = ':' := by simpa [hfirst] using isSeparator_iff.1 hs
        simp [hcolon]
      | cons c column =>
        have hc : c ≠ ':' := by
          rintro rfl
          exact absurd (hcolumn ':' List.mem_cons_self) (by decide)
        simp [hc]

end SortField

/-! ## Fields of criteria -/

namespace Text

theorem isBlank_toLower (c : Char) : isBlank c.toLower = isBlank c := by
  rw [Bool.eq_iff_iff]
  simp only [isBlank, toNat_toLower, Bool.or_eq_true, Bool.and_eq_true, decide_eq_true_eq,
    beq_iff_eq]
  split <;> omega

theorem blank_eq_of_fold_eq {s t : String} (h : fold s = t.toList) : blank s = blank t := by
  rw [blank, blank, ← h, fold, List.all_map]
  simp only [Function.comp_def, isBlank_toLower]

end Text

namespace SortField

/-- Another name for a column is blank only when the column is. -/
theorem blank_fieldOf (currency : Option String) (column : String) :
    Text.blank (fieldOf currency column) = Text.blank column := by
  unfold fieldOf
  split
  · rename_i hname
    have hblank : Text.blank column = false := by
      rcases hname with hname | hname
      · exact Text.blank_eq_of_fold_eq hname
      · exact Text.blank_eq_of_fold_eq hname
    rw [hblank]
    decide
  · cases currency with
    | none => rfl
    | some code =>
      unfold fieldInCurrency
      dsimp only
      split
      · rename_i hprice
        have hp : Text.isBlank 'p' = false := by decide
        rw [Text.blank_eq_of_fold_eq hprice]
        simp [Text.blank, hp]
      · rfl

/-- An expression sorts by a blank field exactly when one of its items has no column. -/
theorem forall_ofExpression_iff (currency : Option String) (expression : String) :
    (∀ f ∈ ofExpression currency expression, Text.blank f.field = false) ↔
      AllColumnsGiven expression := by
  rw [ofExpression_eq_filterMap, List.forall_mem_filterMap]
  refine forall₂_congr fun segment _ => ?_
  cases hblank : segment.all Text.isBlank with
  | true =>
    have hnone : ofSegment? currency segment = none := if_pos hblank
    rw [hnone, (Text.strip_eq_nil_iff segment).2 hblank]
    exact iff_of_true nofun (by decide)
  | false =>
    have hne : Text.strip segment ≠ [] := by
      rw [Ne, Text.strip_eq_nil_iff, hblank]
      exact Bool.false_ne_true
    simp [ofSegment?_of_not_blank currency hblank, resolve_eq, blank_fieldOf,
      ← blank_field_ofItem_iff (Text.strip_strip segment) hne]

end SortField

/-! ## Requests -/

theorem Draft.forall_sorting_sortBy_iff {d : Draft} (expression : String)
    (h : ∀ f ∈ d.sorting, Text.blank f.field = false) :
    (∀ f ∈ (d.sortBy expression).sorting, Text.blank f.field = false) ↔
      SortField.AllColumnsGiven expression := by
  rw [← SortField.forall_ofExpression_iff d.currency, sortBy_eq]
  dsimp only
  split
  · rename_i hnone
    rw [hnone]
    exact iff_of_true h nofun
  · rfl

namespace Catalog

variable {config : Config} {compiler : PatternCompiler} {parser : ExpressionParser}
  {provider : Provider} {catalog : Catalog}

theorem sorting_requestOf (catalog : Catalog) (query : Query) (filters facets : Parsed) :
    (catalog.requestOf query filters facets).sorting =
      ((catalog.prepare query).sortBy (query.sort.getD "")).sorting := by
  rw [requestOf_eq, Draft.sortBy_eq, currency_prepare, prepare_eq, settings_eq]
  rfl

/-- With a usable configuration, what is sorted by is never blank exactly when each item of the
sort expression has a column. A default field counts only without items, and it is not blank. -/
theorem sorts_by_columns_iff
    (hcatalog : ofConfig config compiler parser provider = .ok catalog) :
    (∀ code expression, (∀ f ∈ (((Draft.ofConfig config catalog.mapper).withCurrency code).sortBy
        expression).sorting, Text.blank f.field = false) ↔ SortField.AllColumnsGiven expression) ∧
      ∀ query request, (catalog.compile query).result = .ok request →
        ((∀ f ∈ request.sorting, Text.blank f.field = false) ↔
          SortField.AllColumnsGiven (query.sort.getD "")) := by
  obtain ⟨hvalid, mapper, -, rfl⟩ := ofConfig_eq_ok_iff.1 hcatalog
  obtain ⟨-, -, hdefault, -⟩ := Config.fault?_eq_none_iff.1 (Config.validate_eq_ok_iff.1 hvalid).1
  have hsort : ∀ f ∈ [config.defaultSort], Text.blank f.field = false := by
    simpa [Config.defaultSort] using hdefault
  constructor
  · intro code expression
    exact Draft.forall_sorting_sortBy_iff expression hsort
  · intro query request hrequest
    obtain ⟨filters, facets, -, -, rfl⟩ := result_compile_eq_ok_iff.1 hrequest
    rw [sorting_requestOf]
    refine Draft.forall_sorting_sortBy_iff _ ?_
    rw [prepare_eq, settings_eq]
    exact hsort

/-- The items without a direction, with a point, and with a colon for a column all have one. -/
theorem sorts_by_columns_iff_point :
    let parser : ExpressionParser := fun _ => .ok {}
    let provider : Provider := fun _ => .error (.provider "closed")
    let catalog : Catalog := ⟨{}, .catalog, parser, provider⟩
    let query : Query := { sort := some "Title; spot(1,2):desc;; :(3,4)" }
    ofConfig {} Pattern.compile parser provider = .ok catalog ∧
      (catalog.compile query).result = .ok (catalog.requestOf query {} {}) ∧
      ∀ f ∈ (catalog.requestOf query {} {}).sorting, Text.blank f.field = false := by
  intro parser provider catalog query
  have hcatalog : ofConfig {} Pattern.compile parser provider = .ok catalog :=
    ofConfig_eq_ok_iff.2 ⟨by decide, _, rfl, rfl⟩
  have hrequest : (catalog.compile query).result = .ok (catalog.requestOf query {} {}) :=
    result_compile_eq_ok_iff.2 ⟨_, _, by decide, by decide, rfl⟩
  have hcolumns : SortField.AllColumnsGiven (query.sort.getD "") := by decide +kernel
  exact ⟨hcatalog, hrequest,
    ((sorts_by_columns_iff hcatalog).2 query _ hrequest).2 hcolumns⟩

/-- A direction without a column sorts by the empty field. -/
theorem compile_sorts_by_empty_field :
    let parser : ExpressionParser := fun _ => .ok {}
    let provider : Provider := fun _ => .error (.provider "closed")
    let catalog : Catalog := ⟨{}, .catalog, parser, provider⟩
    let query : Query := { sort := some ":desc" }
    ofConfig {} Pattern.compile parser provider = .ok catalog ∧
      ∃ request, (catalog.compile query).result = .ok request ∧
        request.sorting = [⟨"", true, none⟩] := by
  intro parser provider catalog query
  refine ⟨ofConfig_eq_ok_iff.2 ⟨by decide, _, rfl, rfl⟩, catalog.requestOf query {} {},
    result_compile_eq_ok_iff.2 ⟨_, _, by decide, by decide, rfl⟩, ?_⟩
  rw [requestOf_eq]
  decide +kernel

end Catalog

end FacetedSearch
