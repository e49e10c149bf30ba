import FacetedSearch.Proofs.FilterMeaning
import FacetedSearch.Proofs.SortSegments
import Mathlib.Data.List.Forall2

/-!
# Sort expressions as they are written

An item of a sort expression is written as a column, a point and a direction, of which only the
column has to be there. Items that are written so, with anything blank around them, are all read,
each as the column, the point and the direction it was written with.

## Main definitions

* `SortItem`, `SortItem.text` — an item in its parts, and what is written for it.
* `SortItem.IsWritten` — the parts can be told from each other.
* `SortItem.Descends` — the direction of an item is downwards.
* `SortField.Reads` — a criterion is what an item was written for.
-/

namespace FacetedSearch

/-! ## Items -/

/-- The coordinates of a point as they are typed. -/
structure SortItem.Point where
  latitude : String
  longitude : String
deriving DecidableEq, Repr

/-- A direction behind a separator. -/
structure SortItem.Direction where
  separator : Char
  word : String
deriving DecidableEq, Repr

/-- An item with what is blank before and after it. -/
structure SortItem where
  column : String
  point : Option SortItem.Point := none
  direction : Option SortItem.Direction := none
  before : String := ""
  after : String := ""
deriving DecidableEq, Repr

namespace SortItem

def Point.text (p : Point) : String := "(" ++ p.latitude ++ "," ++ p.longitude ++ ")"

def Direction.text (d : Direction) : String := String.singleton d.separator ++ d.word

def text (item : SortItem) : String :=
  item.before ++ item.column ++ item.point.elim "" Point.text ++
    item.direction.elim "" Direction.text ++ item.after

/-- The column, the coordinates and the direction of an item end where they should. A column
without a point must not hold a separator, and a direction without a point no parenthesis. -/
structure IsWritten (item : SortItem) : Prop where
  column_nonempty : item.column ≠ ""
  column_trimmed : Text.trim item.column = item.column
  column : ';' ∉ item.column.toList ∧ '(' ∉ item.column.toList
  column_apart : item.point = none → item.column.toList.any SortField.isSeparator = false
  latitude : ∀ p ∈ item.point,
    ',' ∉ p.latitude.toList ∧ ')' ∉ p.latitude.toList ∧ ';' ∉ p.latitude.toList
  longitude : ∀ p ∈ item.point, ')' ∉ p.longitude.toList ∧ ';' ∉ p.longitude.toList
  separator : ∀ d ∈ item.direction, d.separator = ':' ∨ Text.isBlank d.separator = true
  word : ∀ d ∈ item.direction,
    ';' ∉ d.word.toList ∧ (Text.trim d.word).toList.head? ≠ some ':'
  word_apart : item.point = none → ∀ d ∈ item.direction, '(' ∉ d.word.toList
  before : Text.blank item.before = true
  after : Text.blank item.after = true

theorem isWritten_iff {item : SortItem} : item.IsWritten ↔
    (item.column ≠ "" ∧ Text.trim item.column = item.column ∧
      ';' ∉ item.column.toList ∧ '(' ∉ item.column.toList) ∧
    (∀ p ∈ item.point,
      (',' ∉ p.latitude.toList ∧ ')' ∉ p.latitude.toList ∧ ';' ∉ p.latitude.toList) ∧
      ')' ∉ p.longitude.toList ∧ ';' ∉ p.longitude.toList) ∧
    (∀ d ∈ item.direction, (d.separator = ':' ∨ Text.isBlank d.separator = true) ∧
      ';' ∉ d.word.toList ∧ (Text.trim d.word).toList.head? ≠ some ':') ∧
    (item.point = none → item.column.toList.any SortField.isSeparator = false ∧
      ∀ d ∈ item.direction, '(' ∉ d.word.toList) ∧
    Text.blank item.before = true ∧ Text.blank item.after = true := by
  constructor
  · intro h
    exact ⟨⟨h.column_nonempty, h.column_trimmed, h.column⟩,
      fun p hp => ⟨h.latitude p hp, h.longitude p hp⟩,
      fun d hd => ⟨h.separator d hd, h.word d hd⟩,
      fun hp => ⟨h.column_apart hp, h.word_apart hp⟩, h.before, h.after⟩
  · rintro ⟨⟨hne, htrim, hcolumn⟩, hpoint, hdirection, hplain, hbefore, hafter⟩
    exact ⟨hne, htrim, hcolumn, fun hp => (hplain hp).1, fun p hp => (hpoint p hp).1,
      fun p hp => (hpoint p hp).2, fun d hd => (hdirection d hd).1, fun d hd => (hdirection d hd).2,
      fun hp => (hplain hp).2, hbefore, hafter⟩

instance : DecidablePred IsWritten := fun _ => decidable_of_iff' _ isWritten_iff

/-- The direction is there, and it is `desc` or `descending` up to ASCII case. -/
def Descends (item : SortItem) : Prop := ∃ d ∈ item.direction,
  Text.fold (Text.trim d.word) = "desc".toList ∨ Text.fold (Text.trim d.word) = "descending".toList

end SortItem

namespace SortField

/-- The field of the index that a column is meant for. -/
def fieldOf (currency : Option String) (column : String) : String :=
  if Text.fold column = "name".toList ∨ Text.fold column = "title".toList then "name"
  else fieldInCurrency currency column

/-- A criterion is what an item was written for. -/
structure Reads (currency : Option String) (item : SortItem) (f : SortField) : Prop where
  field : f.field = fieldOf currency item.column
  descending : f.descending = true ↔ item.Descends
  origin : ∀ p, f.origin = some p ↔ ∃ q ∈ item.point,
    Binary64.parse? (Text.trim q.latitude).toList = some p.latitude ∧
      Binary64.parse? (Text.trim q.longitude).toList = some p.longitude

theorem resolve_eq (currency : Option String) (f : SortField) :
    f.resolve currency = { f with field := fieldOf currency f.field } := by
  have hname : Text.fold "name" = "name".toList := by decide
  have htitle : Text.fold "title" = "title".toList := by decide
  have hprice : Text.fold "price" = "price".toList := by decide
  simp only [resolve, fieldOf, Bool.or_eq_true, Text.same_iff, hname, htitle, hprice]
  split
  · rfl
  · cases currency with
    | none => rfl
    | some code =>
      simp only [fieldInCurrency, priceField]
      split <;> rfl

/-! ## Directions -/

/-- The marks in front of a direction do not count, unless a colon follows blanks that are none. -/
theorem strip_dropWhile_isDirectionMark {cs : List Char} (h : (Text.strip cs).head? ≠ some ':') :
    Text.strip (cs.dropWhile isDirectionMark) = Text.strip cs := by
  induction cs with
  | nil => rfl
  | cons c cs ih =>
    by_cases hmark : isDirectionMark c = true
    · have hc : c ≠ ':' := by
        rintro rfl
        exact h (Text.head?_strip_cons (by decide) cs)
      have hblank : Text.isBlank c = true := by
        have hspace : c = ' ' ∨ c = '\t' := by simpa [isDirectionMark, hc] using hmark
        rcases hspace with rfl | rfl <;> decide
      rw [Text.strip_cons_of_isBlank hblank] at h ⊢
      rw [List.dropWhile_cons_of_pos hmark, ih h]
    · rw [List.dropWhile_cons_of_neg hmark]

/-- Neither does the separator in front of a direction. -/
theorem strip_dropWhile_separator {s : Char} {word : List Char}
    (hs : s = ':' ∨ Text.isBlank s = true) (h : (Text.strip word).head? ≠ some ':') :
    Text.strip ((s :: word).dropWhile isDirectionMark) = Text.strip word := by
  rcases hs with rfl | hblank
  · rw [List.dropWhile_cons_of_pos (by decide), strip_dropWhile_isDirectionMark h]
  · have hstrip : Text.strip (s :: word) = Text.strip word :=
      Text.strip_cons_of_isBlank hblank word
    rw [strip_dropWhile_isDirectionMark (by rwa [hstrip]), hstrip]

theorem isSeparator_iff {c : Char} :
    isSeparator c = true ↔ c = ':' ∨ Text.isBlank c = true := by
  simp [isSeparator]

end SortField

namespace SortItem

variable {item : SortItem}

def pointChars (item : SortItem) : List Char := (item.point.elim "" Point.text).toList

def directionChars (item : SortItem) : List Char := (item.direction.elim "" Direction.text).toList

theorem toList_text (item : SortItem) : item.text.toList = item.before.toList ++
    (item.column.toList ++ item.pointChars ++ item.directionChars) ++ item.after.toList := by
  simp [text, pointChars, directionChars]

theorem pointChars_of_none (h : item.point = none) : item.pointChars = [] := by
  rw [pointChars, h]
  rfl

theorem directionChars_of_none (h : item.direction = none) : item.directionChars = [] := by
  rw [directionChars, h]
  rfl

theorem pointChars_of_some {p : Point} (h : item.point = some p) : item.pointChars =
    '(' :: (p.latitude.toList ++ ',' :: p.longitude.toList ++ [')']) := by
  simp [pointChars, h, Point.text]

theorem directionChars_of_some {d : Direction} (h : item.direction = some d) :
    item.directionChars = d.separator :: d.word.toList := by
  simp [directionChars, h, Direction.text]

theorem IsWritten.strip_column (h : item.IsWritten) :
    Text.strip item.column.toList = item.column.toList := Text.trim_eq_self_iff.1 h.column_trimmed

theorem stripEnd_pointChars (item : SortItem) :
    Text.stripEnd item.pointChars = item.pointChars := by
  cases h : item.point with
  | none =>
    rw [pointChars_of_none h]
    rfl
  | some p =>
    rw [pointChars_of_some h, Text.stripEnd_eq_self_iff, ← List.cons_append,
      List.getLast?_concat]
    exact fun c hc => Option.mem_some.1 hc ▸ by decide

theorem IsWritten.column_ne_nil (h : item.IsWritten) : item.column.toList ≠ [] :=
  mt String.toList_eq_nil_iff.1 h.column_nonempty

/-- Without its blank ends, an item may lack some of what is blank in its direction. -/
theorem IsWritten.strip_text (h : item.IsWritten) : Text.strip item.text.toList =
    item.column.toList ++ item.pointChars ++ Text.stripEnd item.directionChars := by
  have hpoint : Text.strip (item.column.toList ++ item.pointChars) =
      item.column.toList ++ item.pointChars := by
    rw [Text.strip_append h.column_ne_nil h.strip_column, stripEnd_pointChars]
  rw [toList_text, Text.strip_surrounded h.before h.after,
    Text.strip_append (by simp [h.column_ne_nil]) hpoint]

theorem IsWritten.blank_text (h : item.IsWritten) : Text.blank item.text = false := by
  rw [← Bool.not_eq_true, Text.blank, ← Text.strip_eq_nil_iff, h.strip_text]
  simp [h.column_ne_nil]

theorem IsWritten.ne_separator (h : item.IsWritten) {d : Direction} (hd : item.direction = some d)
    (c : Char) (hc : SortField.isSeparator c = false) : c ≠ d.separator := by
  rintro rfl
  rw [SortField.isSeparator_iff.2 (h.separator d hd)] at hc
  contradiction

theorem IsWritten.semicolon_not_mem (h : item.IsWritten) : ';' ∉ item.text.toList := by
  have hsemicolon : Text.isBlank ';' = false := by decide
  have hpoint : ';' ∉ item.pointChars := by
    cases hp : item.point with
    | none => simp [pointChars_of_none hp]
    | some p => simp [pointChars_of_some hp, h.latitude p hp, h.longitude p hp]
  have hdirection : ';' ∉ item.directionChars := by
    cases hd : item.direction with
    | none => simp [directionChars_of_none hd]
    | some d =>
      simp [directionChars_of_some hd, h.ne_separator hd ';' (by decide), (h.word d hd).1]
  rw [toList_text]
  simp [Text.not_mem_of_blank h.before hsemicolon, Text.not_mem_of_blank h.after hsemicolon,
    h.column.1, hpoint, hdirection]

theorem descends_iff_of_some {d : Direction} (h : item.direction = some d) :
    item.Descends ↔ SortField.isDescending d.word.toList = true := by
  simp [Descends, h, SortField.isDescending_toList_iff]

/-- What is left of a direction says the same as the whole. -/
theorem stripEnd_directionChars_cases (item : SortItem) :
    Text.stripEnd item.directionChars = [] ∧ ¬ item.Descends ∨
      ∃ d word, item.direction = some d ∧
        Text.stripEnd item.directionChars = d.separator :: word ∧
        Text.strip word = Text.strip d.word.toList := by
  cases hd : item.direction with
  | none =>
    refine .inl ⟨by rw [directionChars_of_none hd]; rfl, ?_⟩
    simp [Descends, hd]
  | some d =>
    rw [directionChars_of_some hd, descends_iff_of_some hd]
    rcases Text.stripEnd_cons_cases d.separator d.word.toList with
      ⟨hnil, hword⟩ | ⟨word, hcons, hword⟩
    · exact .inl ⟨hnil, by simp [SortField.isDescending_of_strip_eq_nil hword]⟩
    · exact .inr ⟨d, word, rfl, hcons, hword⟩

/-! ## Reading an item -/

/-- A column without a point ends at the separator of the direction. -/
theorem IsWritten.ofItem_plain (h : item.IsWritten) (hp : item.point = none) :
    ∃ descending, SortField.ofItem (Text.strip item.text.toList) =
      ⟨item.column, descending, none⟩ ∧ (descending = true ↔ item.Descends) := by
  have hcolumn : ∀ c ∈ item.column.toList, SortField.isSeparator c = false := by
    simpa using h.column_apart hp
  rw [h.strip_text, pointChars_of_none hp, List.append_nil]
  rcases item.stripEnd_directionChars_cases with ⟨hnil, hasc⟩ | ⟨d, word, hd, hcons, hword⟩
  · refine ⟨false, ?_, by simp [hasc]⟩
    rw [hnil, List.append_nil, SortField.ofItem_of_not_mem h.column.2,
      SortField.ofPlainItem_of_forall hcolumn, String.ofList_toList]
  · have hseparator := SortField.isSeparator_iff.2 (h.separator d hd)
    have hparenthesis : '(' ∉ item.column.toList ++ d.separator :: word := by
      have hdirection : '(' ∉ item.directionChars := by
        simp [directionChars_of_some hd, h.ne_separator hd '(' (by decide), h.word_apart hp d hd]
      rw [← hcons]
      simp only [List.mem_append, not_or]
      exact ⟨h.column.2, fun hmem => hdirection ((Text.stripEnd_isPrefix _).subset hmem)⟩
    refine ⟨SortField.isDescending word, ?_, ?_⟩
    · rw [hcons, SortField.ofItem_of_not_mem hparenthesis,
        SortField.ofPlainItem_append_cons hseparator hcolumn, h.strip_column, String.ofList_toList]
    · rw [descends_iff_of_some hd, SortField.isDescending_congr hword]

/-- A column with a point ends at the first parenthesis, and the direction begins behind the
second one. -/
theorem IsWritten.ofItem_point (h : item.IsWritten) {p : Point} (hp : item.point = some p) :
    ∃ descending, SortField.ofItem (Text.strip item.text.toList) =
      ⟨item.column, descending,
        SortField.point? (p.latitude.toList ++ ',' :: p.longitude.toList)⟩ ∧
      (descending = true ↔ item.Descends) := by
  have hinside : ')' ∉ p.latitude.toList ++ ',' :: p.longitude.toList := by
    simp [h.latitude p hp, h.longitude p hp]
  have hitem : Text.strip item.text.toList = item.column.toList ++ '(' ::
      (p.latitude.toList ++ ',' :: p.longitude.toList ++ ')' ::
        Text.stripEnd item.directionChars) := by
    simp [h.strip_text, pointChars_of_some hp]
  have hread := SortField.ofItem_of_eq_some (SortField.ofGeoItem?_eq_some_iff.2
    ⟨_, _, _, hitem, h.column.2, hinside, rfl⟩)
  rw [h.strip_column, String.ofList_toList] at hread
  refine ⟨_, hread, ?_⟩
  rcases item.stripEnd_directionChars_cases with ⟨hnil, hasc⟩ | ⟨d, word, hd, hcons, hword⟩
  · have hnone : Text.strip [] = [] := rfl
    simp [hnil, hasc, SortField.isDescending_of_strip_eq_nil hnone]
  · have hfirst : (Text.strip word).head? ≠ some ':' := by
      have hd_first := (h.word d hd).2
      rwa [Text.trim, String.toList_ofList, ← hword] at hd_first
    have hmarks := SortField.strip_dropWhile_separator (h.separator d hd) hfirst
    rw [hcons, descends_iff_of_some hd, SortField.isDescending_congr (hmarks.trans hword)]

end SortItem

namespace SortField

variable {currency : Option String} {item : SortItem} {items : List SortItem}

theorem reads_ofItem (h : item.IsWritten) :
    Reads currency item ((ofItem (Text.strip item.text.toList)).resolve currency) := by
  rw [resolve_eq]
  cases hp : item.point with
  | none =>
    obtain ⟨descending, hread, hdescends⟩ := h.ofItem_plain hp
    rw [hread]
    exact ⟨rfl, hdescends, by simp [hp]⟩
  | some p =>
    obtain ⟨descending, hread, hdescends⟩ := h.ofItem_point hp
    rw [hread]
    refine ⟨rfl, hdescends, fun point => ?_⟩
    simp [hp, point?_append_cons_eq_some_iff (h.latitude p hp).1, Text.trim]

/-- What is written for an item sorts by one criterion. -/
theorem ofExpression_text (h : item.IsWritten) : ofExpression currency item.text =
    [(ofItem (Text.strip item.text.toList)).resolve currency] := by
  rw [ofExpression_of_not_mem currency h.semicolon_not_mem,
    ofSegment?_of_not_blank currency h.blank_text, Option.toList_some]

/-- Written items are read item by item, in order. Each sorts by the field that its column is meant
for, downwards if its direction says so, and from its point if both of the coordinates are
numbers. -/
theorem ofExpression_reads (h : ∀ item ∈ items, item.IsWritten) :
    List.Forall₂ (Reads currency) items
      (ofExpression currency (";".intercalate (items.map SortItem.text))) := by
  rw [ofExpression_intercalate]
  induction items with
  | nil => exact .nil
  | cons item items ih =>
    obtain ⟨hitem, hitems⟩ := List.forall_mem_cons.1 h
    rw [List.map_cons, List.flatMap_cons, ofExpression_text hitem, List.singleton_append]
    exact .cons (reads_ofItem hitem) (ih hitems)

/-- The prices are those in euros, and the second spot has no point, since its coordinates are no
numbers. -/
theorem ofExpression_reads_spots :
    let items : List SortItem :=
      [{ column := "Price", direction := some ⟨' ', " DESC"⟩, before := "\t" },
        { column := "my: spot", point := some ⟨" 52.37", "4.89"⟩
          direction := some ⟨':', " descending"⟩, after := "\u00a0" },
        { column := "spot", point := some ⟨"north", "east,"⟩, direction := some ⟨'\u2003', "asc"⟩ }]
    let expression :=
      "\tPrice  DESC;my: spot( 52.37,4.89): descending\u00a0;spot(north,east,)\u2003asc"
    let fields := ofExpression (some "EUR") expression
    (∀ item ∈ items, item.IsWritten) ∧ ";".intercalate (items.map SortItem.text) = expression ∧
      List.Forall₂ (Reads (some "EUR")) items fields ∧
      fields = [⟨"price_eur", true, none⟩,
        ⟨"my: spot", true, some ⟨⟨0x404a2f5c28f5c28f⟩, ⟨0x40138f5c28f5c28f⟩⟩⟩,
        ⟨"spot", false, none⟩] := by
  intro items expression fields
  have hitems : ∀ item ∈ items, item.IsWritten := by decide +kernel
  have htext : ";".intercalate (items.map SortItem.text) = expression := by decide +kernel
  have hreads : List.Forall₂ (Reads (some "EUR")) items _ := ofExpression_reads hitems
  rw [htext] at hreads
  exact ⟨hitems, htext, hreads, by decide +kernel⟩

end SortField

end FacetedSearch
