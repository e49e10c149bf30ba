import FacetedSearch.Number.Decimal
import FacetedSearch.Text.Blank
import FacetedSearch.Text.Letters
import FacetedSearch.Text.Lowercase
import FacetedSearch.Text.Slice

/-!
# Sorting

A sort expression is a list of items between semicolons. An item is a column with an optional
direction, such as `price desc` or `created:descending`, or a column with a point, such as
`location(52.37,4.89) desc`, which sorts by the distance from that point.

## Main definitions

* `SortField`, `GeoPoint` — one criterion; criteria apply in order.
* `priceField` — the field of the prices in a currency.
* `SortField.ofPlainItem`, `SortField.ofGeoItem?`, `SortField.ofItem` — read an item.
* `SortField.parentheses`, `SortField.cutGeoItem` — cut an item at the places of its parentheses.
* `SortField.resolve` — the field that a column means.
* `SortField.ofExpression` — read an expression.
-/

namespace FacetedSearch

structure GeoPoint where
  latitude : Binary64
  longitude : Binary64
deriving DecidableEq, Repr

structure SortField where
  field : String
  descending : Bool
  origin : Option GeoPoint := none
deriving DecidableEq, Repr

/-- The field of the prices in a currency. -/
def priceField (currency : String) : String := "price_" ++ Text.lowercase currency

namespace SortField

/-! ## Items -/

/-- Whether a direction is `desc` or `descending`; any other text means ascending. -/
def isDescending (cs : List Char) : Bool :=
  let word := String.ofList (Text.strip cs)
  Text.same word "desc" || Text.same word "descending"

/-- What separates the direction from a column. -/
def isSeparator (c : Char) : Bool := c == ':' || Text.isBlank c

/-- A column, and a direction behind the first colon or blank. -/
def ofPlainItem (item : List Char) : SortField :=
  match Text.cut isSeparator item with
  | some (column, direction) =>
    ⟨String.ofList (Text.strip column), isDescending direction, none⟩
  | none => ⟨String.ofList item, false, none⟩

/-- The two coordinates of a point, if both are numbers. -/
def point? (cs : List Char) : Option GeoPoint := do
  let (latitude, longitude) ← Text.cut (· == ',') cs
  some ⟨← Binary64.parse? (Text.strip latitude), ← Binary64.parse? (Text.strip longitude)⟩

/-- What separates the direction from a point. -/
def isDirectionMark (c : Char) : Bool := c == ':' || c == ' ' || c == '\t'

/-- The places of the first opening parenthesis, and of the first closing one behind it. -/
def parentheses (item : List Char) : Except Text.BadCut (Option (Nat × Nat)) :=
  match Text.find? '(' item with
  | none => return none
  | some opening => do
    let tail ← Text.slice item opening (Text.encode item).length
    return (Text.find? ')' tail).map fun distance => (opening, distance + opening)

/-- An item with parentheses, cut at their places. When they hold no point, the item sorts by its
column. -/
def cutGeoItem (item : List Char) : Except Text.BadCut (Option SortField) := do
  match ← parentheses item with
  | none => return none
  | some (opening, closing) =>
    let column ← Text.slice item 0 opening
    let direction ← Text.slice item (closing + 1) (Text.encode item).length
    let inside ← Text.slice item (opening + 1) closing
    return some ⟨String.ofList (Text.strip column),
      isDescending (direction.dropWhile isDirectionMark), point? inside⟩

/-- An item with parentheses, if it has them. There is no item at which a cut fails. -/
def ofGeoItem? (item : List Char) : Option SortField :=
  match cutGeoItem item with
  | .ok field? => field?
  | .error _ => none

def ofItem (item : List Char) : SortField := (ofGeoItem? item).getD (ofPlainItem item)

/-! ## Expressions -/

/-- The field of the index that a column means: `title` is the name, and `price` is the price in
the currency, if there is one. -/
def resolve (currency : Option String) (f : SortField) : SortField :=
  if Text.same f.field "name" || Text.same f.field "title" then { f with field := "name" }
  else match currency with
    | some code => if Text.same f.field "price" then { f with field := priceField code } else f
    | none => f

/-- The items of an expression without blank ends; blank items are left out. -/
def items (expression : List Char) : List (List Char) :=
  ((Text.pieces (· == ';') expression).map Text.strip).filter (!·.isEmpty)

/-- The criteria of an expression. -/
def ofExpression (currency : Option String) (expression : String) : List SortField :=
  (items expression.toList).map fun item => (ofItem item).resolve currency

/-- Best matches first. -/
def relevance : SortField := ⟨"score", true, none⟩

example : ofExpression (some "EUR") "Price desc; title;; code:sideways" =
    [⟨"price_eur", true, none⟩, ⟨"name", false, none⟩, ⟨"code", false, none⟩] := by decide +kernel
example : ofExpression none "spot(1.5, -2): desc" =
    [⟨"spot", true, some ⟨⟨0x3ff8000000000000⟩, ⟨0xc000000000000000⟩⟩⟩] := by decide +kernel
example : ofExpression none "spot(north,east) desc" = [⟨"spot", true, none⟩] := by decide +kernel

/-! ## Laws -/

variable {item column inside rest cs : List Char} {f : SortField}

theorem isDescending_congr {cs cs' : List Char} (h : Text.strip cs = Text.strip cs') :
    isDescending cs = isDescending cs' := by
  rw [isDescending, isDescending, h]

theorem isDescending_of_strip_eq_nil (h : Text.strip cs = []) : isDescending cs = false := by
  rw [isDescending, h]
  decide

theorem isDescending_toList_iff {s : String} : isDescending s.toList = true ↔
    Text.fold (Text.trim s) = "desc".toList ∨ Text.fold (Text.trim s) = "descending".toList := by
  have hdesc : Text.fold "desc" = "desc".toList := by decide
  have hdescending : Text.fold "descending" = "descending".toList := by decide
  rw [isDescending, Bool.or_eq_true, Text.same_iff, Text.same_iff, hdesc, hdescending]
  rfl

/-- An item without a separator is a column. -/
theorem ofPlainItem_of_forall (h : ∀ c ∈ item, isSeparator c = false) :
    ofPlainItem item = ⟨String.ofList item, false, none⟩ := by
  rw [ofPlainItem, Text.cut_eq_none_iff.2 h]

/-- The first separator ends the column. -/
theorem ofPlainItem_append_cons {s : Char} (hs : isSeparator s = true)
    (h : ∀ c ∈ column, isSeparator c = false) (direction : List Char) :
    ofPlainItem (column ++ s :: direction) =
      ⟨String.ofList (Text.strip column), isDescending direction, none⟩ := by
  rw [ofPlainItem, Text.cut_eq_some_iff.2 ⟨s, hs, h, rfl⟩]

/-- A point is cut at its first comma, and both coordinates have to be numbers. -/
theorem point?_append_cons_eq_some_iff {latitude longitude : List Char} {p : GeoPoint}
    (h : ',' ∉ latitude) : point? (latitude ++ ',' :: longitude) = some p ↔
      Binary64.parse? (Text.strip latitude) = some p.latitude ∧
        Binary64.parse? (Text.strip longitude) = some p.longitude := by
  rw [point?, Text.cut_append_cons h, Option.bind_eq_bind, Option.bind_some]
  simp only [Option.bind_eq_bind, Option.bind_eq_some_iff, Option.some.injEq]
  constructor
  · rintro ⟨x, hx, y, hy, rfl⟩
    exact ⟨hx, hy⟩
  · rintro ⟨hx, hy⟩
    exact ⟨_, hx, _, hy, rfl⟩

theorem parentheses_sublist_iff (h : '(' ∉ column) :
    ['(', ')'].Sublist (column ++ '(' :: rest) ↔ ')' ∈ rest := by
  induction column with
  | nil => rw [List.nil_append, List.cons_sublist_cons, List.singleton_sublist]
  | cons c column ih =>
    obtain ⟨hc, hcolumn⟩ := not_or.1 (mt List.mem_cons.2 h)
    rw [← ih hcolumn, List.cons_append, List.sublist_cons_iff]
    simp [hc]

/-- An item with a parenthesis that is closed comes apart at the first ones of each kind. -/
theorem exists_parentheses (h : ['(', ')'].Sublist item) : ∃ column inside rest,
    item = column ++ '(' :: (inside ++ ')' :: rest) ∧ '(' ∉ column ∧ ')' ∉ inside := by
  have hopen : '(' ∈ item := h.subset List.mem_cons_self
  obtain ⟨column, tail, rfl, hcolumn⟩ := List.eq_append_cons_of_mem hopen
  have hclose : ')' ∈ tail := (parentheses_sublist_iff hcolumn).1 h
  obtain ⟨inside, rest, rfl, hinside⟩ := List.eq_append_cons_of_mem hclose
  exact ⟨column, inside, rest, rfl, hcolumn, hinside⟩

theorem parentheses_append_cons (h : '(' ∉ column) (rest : List Char) :
    parentheses (column ++ '(' :: rest) = .ok ((Text.find? ')' ('(' :: rest)).map fun distance =>
      ((Text.encode column).length, distance + (Text.encode column).length)) := by
  rw [parentheses, Text.find?_append_cons h]
  dsimp only
  rw [Text.slice_right]
  rfl

/-- Both places count from the front of the item, although the second parenthesis is looked for
from the first one on. -/
theorem parentheses_eq_some (hcolumn : '(' ∉ column) (hinside : ')' ∉ inside) (rest : List Char) :
    parentheses (column ++ '(' :: (inside ++ ')' :: rest)) =
      .ok (some ((Text.encode column).length, (Text.encode (column ++ '(' :: inside)).length)) := by
  have htail : ')' ∉ '(' :: inside := by simp [hinside]
  have hplace : Text.find? ')' ('(' :: (inside ++ ')' :: rest)) =
      some (Text.encode ('(' :: inside)).length := Text.find?_append_cons htail rest
  rw [parentheses_append_cons hcolumn, hplace, Option.map_some, Text.encode_append column,
    List.length_append, Nat.add_comm]

theorem parentheses_eq_none (h : ¬ ['(', ')'].Sublist item) : parentheses item = .ok none := by
  cases hopen : Text.find? '(' item with
  | none =>
    rw [parentheses, hopen]
    rfl
  | some opening =>
    obtain ⟨column, rest, rfl, hcolumn, -⟩ := Text.find?_eq_some_iff.1 hopen
    have hrest : ')' ∉ '(' :: rest := by
      simpa using mt (parentheses_sublist_iff hcolumn).2 h
    rw [parentheses_append_cons hcolumn, Text.find?_eq_none_iff.2 hrest, Option.map_none]

/-- The parts of an item are the characters before, between and behind its parentheses, since both
of these are one octet long. -/
theorem slice_parentheses (column inside rest : List Char) :
    let item := column ++ '(' :: (inside ++ ')' :: rest)
    let opening := (Text.encode column).length
    let closing := (Text.encode (column ++ '(' :: inside)).length
    Text.slice item 0 opening = .ok column ∧ Text.slice item (opening + 1) closing = .ok inside ∧
      Text.slice item (closing + 1) (Text.encode item).length = .ok rest := by
  intro item opening closing
  have hopening : opening + 1 = (Text.encode (column ++ ['('])).length :=
    (Text.length_encode_concat (by decide) _).symm
  have hclosing : closing + 1 = (Text.encode (column ++ '(' :: inside ++ [')'])).length :=
    (Text.length_encode_concat (by decide) _).symm
  have hitem : item = column ++ '(' :: inside ++ [')'] ++ rest := by simp [item]
  refine ⟨Text.slice_left column _, ?_, ?_⟩
  · rw [hopening]
    simpa [item, closing] using Text.slice_append (column ++ ['(']) inside (')' :: rest)
  · rw [hclosing, hitem]
    exact Text.slice_right _ rest

theorem cutGeoItem_eq_some (hcolumn : '(' ∉ column) (hinside : ')' ∉ inside) (rest : List Char) :
    cutGeoItem (column ++ '(' :: (inside ++ ')' :: rest)) =
      .ok (some ⟨String.ofList (Text.strip column),
        isDescending (rest.dropWhile isDirectionMark), point? inside⟩) := by
  obtain ⟨hbefore, hbetween, hbehind⟩ := slice_parentheses column inside rest
  simp only [cutGeoItem, parentheses_eq_some hcolumn hinside, bind, Except.bind, hbefore, hbetween,
    hbehind]
  rfl

theorem cutGeoItem_eq_none (h : ¬ ['(', ')'].Sublist item) : cutGeoItem item = .ok none := by
  rw [cutGeoItem, parentheses_eq_none h]
  rfl

/-- An item with a point is cut at its first opening parenthesis, and behind that at the first
closing one. -/
theorem ofGeoItem?_eq_some_iff : ofGeoItem? item = some f ↔
    ∃ column inside rest, item = column ++ '(' :: (inside ++ ')' :: rest) ∧ '(' ∉ column ∧
      ')' ∉ inside ∧ f = ⟨String.ofList (Text.strip column),
        isDescending (rest.dropWhile isDirectionMark), point? inside⟩ := by
  constructor
  · intro h
    by_cases hsub : ['(', ')'].Sublist item
    · obtain ⟨column, inside, rest, rfl, hcolumn, hinside⟩ := exists_parentheses hsub
      rw [ofGeoItem?, cutGeoItem_eq_some hcolumn hinside] at h
      exact ⟨column, inside, rest, rfl, hcolumn, hinside, (Option.some.inj h).symm⟩
    · rw [ofGeoItem?, cutGeoItem_eq_none hsub] at h
      contradiction
  · rintro ⟨column, inside, rest, rfl, hcolumn, hinside, rfl⟩
    rw [ofGeoItem?, cutGeoItem_eq_some hcolumn hinside]

/-- An item has no point when no closing parenthesis comes behind an opening one. -/
theorem ofGeoItem?_eq_none_iff : ofGeoItem? item = none ↔ ¬ ['(', ')'].Sublist item := by
  constructor
  · intro h hsub
    obtain ⟨column, inside, rest, rfl, hcolumn, hinside⟩ := exists_parentheses hsub
    rw [ofGeoItem?, cutGeoItem_eq_some hcolumn hinside] at h
    contradiction
  · intro h
    rw [ofGeoItem?, cutGeoItem_eq_none h]

theorem ofItem_of_eq_some (h : ofGeoItem? item = some f) : ofItem item = f := by
  rw [ofItem, h, Option.getD_some]

theorem ofItem_of_eq_none (h : ofGeoItem? item = none) : ofItem item = ofPlainItem item := by
  rw [ofItem, h, Option.getD_none]

theorem ofItem_of_not_mem (h : '(' ∉ item) : ofItem item = ofPlainItem item :=
  ofItem_of_eq_none (ofGeoItem?_eq_none_iff.2 fun hsub => h (hsub.subset List.mem_cons_self))

end SortField

end FacetedSearch
