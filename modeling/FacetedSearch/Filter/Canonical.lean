import FacetedSearch.Filter.Basic

/-!
# Canonical texts of filters

Every filter has one written form. It serves as the id of the facet that counts the values
of a filter, so it does not change from one query to the next.

| filter    | text                                   |
|-----------|----------------------------------------|
| term      | `color:red,blue`                       |
| wildcard  | `name:sh*rt`                           |
| range     | `price:[10 TO 20),[20 TO )`            |
| ids       | `__id:p1,p2`                           |
| composite | `(color:red AND (size:M OR size:X*))`  |

## Main definitions

* `Filter.escapeCommas`, `Filter.restoreCommas` — commas inside the values of a term.
* `Filter.chars`, `Filter.canonical` — the written form.
-/

namespace FacetedSearch

namespace Filter

/-! ## Commas in values -/

/-- A comma inside a value is written `%x2C`, since a plain comma separates values. -/
def escapeCommas (cs : List Char) : List Char :=
  cs.flatMap fun c => if c = ',' then ['%', 'x', '2', 'C'] else [c]

/-- Read `%x2C` as a comma. -/
def restoreCommas : List Char → List Char
  | '%' :: 'x' :: '2' :: 'C' :: cs => ',' :: restoreCommas cs
  | c :: cs => c :: restoreCommas cs
  | [] => []

/-- The text that stands for a comma. -/
def escapedComma : List Char := ['%', 'x', '2', 'C']

theorem escapeCommas_cons (c : Char) (cs : List Char) : escapeCommas (c :: cs) =
    (if c = ',' then escapedComma else [c]) ++ escapeCommas cs :=
  List.flatMap_cons

theorem escapeCommas_eq_nil_iff {cs : List Char} : escapeCommas cs = [] ↔ cs = [] := by
  cases cs with
  | nil => simp [escapeCommas]
  | cons c cs =>
    rw [escapeCommas_cons]
    split <;> simp [escapedComma]

theorem not_mem_escapeCommas (cs : List Char) : ',' ∉ escapeCommas cs := by
  rw [escapeCommas, List.mem_flatMap]
  rintro ⟨c, -, hc⟩
  split at hc
  · revert hc
    decide
  · rename_i hne
    exact hne (List.mem_singleton.1 hc).symm

theorem escapeCommas_eq_self {cs : List Char} (h : ',' ∉ cs) : escapeCommas cs = cs := by
  induction cs with
  | nil => rfl
  | cons c cs ih =>
    rw [List.mem_cons, not_or] at h
    rw [escapeCommas_cons, if_neg (Ne.symm h.1), ih h.2, List.singleton_append]

/-- Neither a comma nor what is written for it is blank. -/
theorem all_isBlank_escapeCommas (cs : List Char) :
    (escapeCommas cs).all Text.isBlank = cs.all Text.isBlank := by
  have hcomma : Text.isBlank ',' = false := by decide
  have hescape : (['%', 'x', '2', 'C'].all Text.isBlank) = false := by decide
  induction cs with
  | nil => rfl
  | cons c cs ih =>
    rw [escapeCommas, List.flatMap_cons, ← escapeCommas, List.all_append, List.all_cons, ih]
    by_cases hc : c = ','
    · rw [if_pos hc, hescape, hc, hcomma]
    · simp [hc]

/-! ## Commas that come back -/

/-- What begins an escaped text begins the text itself, unless an escape is involved. -/
theorem prefix_of_prefix_escapeCommas {w cs : List Char} (hw : '%' ∉ w)
    (h : w <+: escapeCommas cs) : w <+: cs := by
  induction w generalizing cs with
  | nil => exact List.nil_prefix
  | cons x w ih =>
    rw [List.mem_cons, not_or] at hw
    cases cs with
    | nil => exact h
    | cons c cs =>
      rw [escapeCommas_cons] at h
      split at h
      · exact absurd (List.cons_prefix_cons.1 h).1.symm hw.1
      · obtain ⟨rfl, hrest⟩ := List.cons_prefix_cons.1 h
        exact List.cons_prefix_cons.2 ⟨rfl, ih hw.2 hrest⟩

theorem prefix_of_prefix_restoreCommas {w cs : List Char} (hw : ',' ∉ w)
    (h : w <+: restoreCommas cs) : w <+: cs := by
  induction w generalizing cs with
  | nil => exact List.nil_prefix
  | cons x w ih =>
    rw [List.mem_cons, not_or] at hw
    unfold restoreCommas at h
    split at h
    · exact absurd (List.cons_prefix_cons.1 h).1.symm hw.1
    · obtain ⟨rfl, hrest⟩ := List.cons_prefix_cons.1 h
      exact List.cons_prefix_cons.2 ⟨rfl, ih hw.2 hrest⟩
    · exact h

@[simp] theorem restoreCommas_escapedComma (cs : List Char) :
    restoreCommas (escapedComma ++ cs) = ',' :: restoreCommas cs := by
  simp [escapedComma, restoreCommas]

theorem restoreCommas_eq_nil_iff {cs : List Char} : restoreCommas cs = [] ↔ cs = [] := by
  fun_cases restoreCommas cs <;> simp

theorem restoreCommas_cons {c : Char} {cs : List Char} (h : ¬ escapedComma <+: c :: cs) :
    restoreCommas (c :: cs) = c :: restoreCommas cs := by
  rw [restoreCommas]
  rintro rest rfl rfl
  exact h ⟨rest, rfl⟩

/-- No comma is lost, and none is found in a text in which nothing looks like the escape. -/
theorem restoreCommas_escapeCommas {cs : List Char} (h : ¬ escapedComma <:+: cs) :
    restoreCommas (escapeCommas cs) = cs := by
  induction cs with
  | nil => rfl
  | cons c cs ih =>
    rw [List.infix_cons_iff, not_or] at h
    rw [escapeCommas_cons]
    split
    · rename_i hc
      rw [restoreCommas_escapedComma, ih h.2, hc]
    · rw [List.singleton_append, restoreCommas_cons, ih h.2]
      -- An escape that begins here cannot run into a written one, which begins with a percent sign.
      intro hbegins
      obtain ⟨rfl, hrest⟩ := List.cons_prefix_cons.1 hbegins
      exact h.1 (List.cons_prefix_cons.2 ⟨rfl, prefix_of_prefix_escapeCommas (by decide) hrest⟩)

/-- Where commas are restored no escape is left, and none comes about. -/
theorem not_infix_restoreCommas (cs : List Char) : ¬ escapedComma <:+: restoreCommas cs := by
  fun_induction restoreCommas cs with
  | case1 cs ih =>
    rw [List.infix_cons_iff, not_or]
    exact ⟨fun h => absurd (List.cons_prefix_cons.1 h).1 (by decide), ih⟩
  | case2 c cs hc ih =>
    rw [List.infix_cons_iff, not_or]
    refine ⟨fun h => ?_, ih⟩
    obtain ⟨rfl, hrest⟩ := List.cons_prefix_cons.1 h
    obtain ⟨rest, rfl⟩ := prefix_of_prefix_restoreCommas (by decide) hrest
    exact hc rest rfl rfl
  | case3 => decide

/-! ## Blank ends -/

theorem strip_escapeCommas {cs : List Char} (h : Text.strip cs = cs) :
    Text.strip (escapeCommas cs) = escapeCommas cs := by
  rw [Text.strip_eq_self_iff] at h ⊢
  constructor
  · cases cs with
    | nil => simp [escapeCommas]
    | cons c cs =>
      rw [escapeCommas_cons]
      split
      · simp [escapedComma, Text.isBlank]
      · simpa using h.1
  · rcases List.eq_nil_or_concat cs with rfl | ⟨cs, c, rfl⟩
    · simp [escapeCommas]
    · rw [escapeCommas, List.concat_eq_append, List.flatMap_append, List.flatMap_singleton]
      split
      · simp [Text.isBlank]
      · simpa using h.2

/-- A restored text ends with a comma or as it did before. -/
theorem mem_getLast?_restoreCommas {c : Char} {cs : List Char}
    (h : c ∈ (restoreCommas cs).getLast?) : c = ',' ∨ c ∈ cs.getLast? := by
  have hrest : ∀ (d : Char) (l : List Char), c ∈ (d :: l).getLast? →
      l = [] ∧ d = c ∨ c ∈ l.getLast? := by
    intro d l hc
    cases l with
    | nil => exact .inl ⟨rfl, by simpa using hc⟩
    | cons e l => exact .inr (by rwa [List.getLast?_cons_cons] at hc)
  have hkeep : ∀ pre cs : List Char, c ∈ cs.getLast? → c ∈ (pre ++ cs).getLast? := by
    intro pre cs hc
    rw [List.getLast?_append, Option.mem_def.1 hc]
    rfl
  fun_induction restoreCommas cs with
  | case1 cs ih =>
    rcases hrest _ _ h with ⟨-, rfl⟩ | h
    · exact .inl rfl
    · exact (ih h).imp_right (hkeep escapedComma cs)
  | case2 d cs hd ih =>
    rcases hrest _ _ h with ⟨hnil, rfl⟩ | h
    · rw [restoreCommas_eq_nil_iff.1 hnil]
      exact .inr rfl
    · exact (ih h).imp_right (hkeep [d] cs)
  | case3 => simp at h

theorem strip_restoreCommas {cs : List Char} (h : Text.strip cs = cs) :
    Text.strip (restoreCommas cs) = restoreCommas cs := by
  rw [Text.strip_eq_self_iff] at h ⊢
  constructor
  · unfold restoreCommas
    split
    · simp [Text.isBlank]
    · simpa using h.1
    · simp
  · intro c hc
    rcases mem_getLast?_restoreCommas hc with rfl | hc
    · decide
    · exact h.2 c hc

/-! ## Written form -/

/-- The name that stands for the document itself where a leaf has its field. -/
def idsField : String := "__id"

/-- A leaf: its field, a colon, and its values with commas between them. -/
def leafChars (field : String) (values : List (List Char)) : List Char :=
  field.toList ++ ':' :: List.intercalate [','] values

/-- A composite: its parts with the joining word between them, in parentheses. -/
def compositeChars (joint : String) (parts : List (List Char)) : List Char :=
  '(' :: (List.intercalate joint.toList parts ++ [')'])

mutual

/-- The characters of the canonical text. -/
def chars : Filter → List Char
  | term f vs => leafChars f (vs.map fun v => escapeCommas v.toList)
  | wildcard f v => leafChars f [v.toList]
  | range f is => leafChars f (is.map Interval.chars)
  | ids vs => leafChars idsField (vs.map String.toList)
  | all cs => compositeChars " AND " (charsEach cs)
  | any cs => compositeChars " OR " (charsEach cs)

/-- The characters of each filter of a list. -/
def charsEach : List Filter → List (List Char)
  | [] => []
  | f :: fs => chars f :: charsEach fs

end

def canonical (f : Filter) : String := String.ofList f.chars

@[simp] theorem charsEach_eq_map (fs : List Filter) : charsEach fs = fs.map chars := by
  induction fs <;> simp_all [charsEach]

@[simp] theorem toList_canonical (f : Filter) : f.canonical.toList = f.chars :=
  String.toList_ofList

/-! ## Written terms -/

/-- The values of a term as they are written. -/
def writtenValues (values : List String) : List Char :=
  List.intercalate [','] (values.map fun v => escapeCommas v.toList)

theorem toList_canonical_term (field : String) (values : List String) :
    (term field values).canonical.toList = field.toList ++ ':' :: writtenValues values :=
  toList_canonical _

/-- The first colon is the one behind the field. -/
theorem cut_canonical_term {field : String} (h : ':' ∉ field.toList) (values : List String) :
    Text.cut (· == ':') (term field values).canonical.toList =
      some (field.toList, writtenValues values) := by
  rw [toList_canonical_term, Text.cut_append_cons h]

/-- Every comma stands between two values. -/
theorem pieces_writtenValues {values : List String} (h : values ≠ []) :
    Text.pieces (· == ',') (writtenValues values) = values.map fun v => escapeCommas v.toList := by
  refine Text.pieces_intercalate rfl (by simpa using h) ?_
  simp only [List.forall_mem_map, beq_eq_false_iff_ne]
  rintro v - c hc rfl
  exact not_mem_escapeCommas _ hc

example : (all [term "color" ["red", "a,b"], any [wildcard "size" "X*", ids ["p1"]]]).canonical =
    "(color:red,a%x2Cb AND (size:X* OR __id:p1))" := by decide +kernel

end Filter

end FacetedSearch
