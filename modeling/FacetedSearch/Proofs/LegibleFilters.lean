import FacetedSearch.Proofs.WrittenIntervals

/-!
# Filters that are legible in their written form

Where names and values are plain words, a filter can be told from its written form at any depth,
though brackets of intervals do not pair up and the word between bounds stands like the words
between filters. The written form is read from the front: a filter ends at its parenthesis or,
as a leaf, where no value goes on.

## Main definitions

* `Text.IsWord`, `Text.IsShape` — plain words, and patterns that are made of them.
* `Filter.IsLegible` — trees with words for names and values.
* `Filter.texts`, `Filter.joint?` — the texts that a leaf and a composite join.
* `Filter.Ends` — what can follow a filter.
-/

namespace FacetedSearch

namespace Text

/-- ASCII letters, digits and the underscore. -/
def isWordChar (c : Char) : Bool := c.isAlphanum || c == '_'

/-- The same, and the characters that stand for others in a pattern. -/
def isShapeChar (c : Char) : Bool := isWordChar c || c == '*' || c == '?'

def IsWord (s : String) : Prop := s ≠ "" ∧ s.toList.all isWordChar = true

def IsShape (s : String) : Prop := isWildcard s = true ∧ s.toList.all isShapeChar = true

instance (s : String) : Decidable (IsWord s) := inferInstanceAs (Decidable (_ ∧ _))

instance (s : String) : Decidable (IsShape s) := inferInstanceAs (Decidable (_ ∧ _))

end Text

structure Interval.IsLegible (i : Interval) : Prop where
  lower : ∀ s ∈ i.lower, Text.IsWord s
  upper : ∀ s ∈ i.upper, Text.IsWord s

namespace Filter

/-- Nothing is empty, a composite has several parts, and no term takes the name that stands for
the document. -/
inductive IsLegible : Filter → Prop
  | term {field : String} {values : List String} (hfield : Text.IsWord field)
      (hids : field ≠ idsField) (hne : values ≠ []) (hvalues : ∀ v ∈ values, Text.IsWord v) :
      IsLegible (.term field values)
  | wildcard {field pattern : String} (hfield : Text.IsWord field)
      (hpattern : Text.IsShape pattern) : IsLegible (.wildcard field pattern)
  | range {field : String} {intervals : List Interval} (hfield : Text.IsWord field)
      (hne : intervals ≠ []) (hintervals : ∀ i ∈ intervals, i.IsLegible) :
      IsLegible (.range field intervals)
  | ids {values : List String} (hne : values ≠ []) (hvalues : ∀ v ∈ values, Text.IsWord v) :
      IsLegible (.ids values)
  | all {parts : List Filter} (hseveral : 2 ≤ parts.length) (hparts : ∀ f ∈ parts, IsLegible f) :
      IsLegible (.all parts)
  | any {parts : List Filter} (hseveral : 2 ≤ parts.length) (hparts : ∀ f ∈ parts, IsLegible f) :
      IsLegible (.any parts)

/-- The texts that stand between the commas of a leaf. -/
def texts : Filter → List (List Char)
  | .term _ values => values.map fun v => escapeCommas v.toList
  | .wildcard _ pattern => [pattern.toList]
  | .range _ intervals => intervals.map Interval.chars
  | .ids values => values.map String.toList
  | .all _ | .any _ => []

/-- The word between the parts of a composite. -/
def joint? : Filter → Option String
  | .all _ => some " AND "
  | .any _ => some " OR "
  | _ => none

/-- A filter ends at the end of the text, before a word between filters, and before the parenthesis
of a composite. -/
def Ends (rest : List Char) : Prop := ∀ c ∈ rest.head?, c = ' ' ∨ c = ')'

/-- The text of a value: characters of a pattern, or an interval. -/
inductive IsText : List Char → Prop
  | shape {cs : List Char} (hne : cs ≠ []) (h : ∀ c ∈ cs, Text.isShapeChar c = true) : IsText cs
  | interval {i : Interval} (h : i.IsLegible) : IsText i.chars

/-- An interval begins with a bracket. -/
def isBracketed (t : List Char) : Bool := t.head?.any fun c => !Text.isShapeChar c

def holdsPattern (t : List Char) : Bool := t.any fun c => c == '*' || c == '?'

/-- The constructors of filters, with one for all composites. -/
inductive Kind where
  | term
  | wildcard
  | range
  | ids
  | composite

def kind : Filter → Kind
  | .term .. => .term
  | .wildcard .. => .wildcard
  | .range .. => .range
  | .ids _ => .ids
  | .all _ | .any _ => .composite

/-- The kind of the leaf for which a field and texts are written. -/
def Kind.ofTexts (field : String) (texts : List (List Char)) : Kind :=
  if texts.any isBracketed then .range
  else if texts.any holdsPattern then .wildcard
  else if field = idsField then .ids
  else .term

end Filter

/-! ## Words -/

namespace Text

theorem isShapeChar_of_isWordChar {c : Char} (h : isWordChar c = true) : isShapeChar c = true := by
  simp [isShapeChar, h]

variable {s : String}

theorem IsWord.isWordChar (h : IsWord s) : ∀ c ∈ s.toList, isWordChar c = true :=
  List.all_eq_true.1 h.2

theorem IsWord.isShapeChar (h : IsWord s) : ∀ c ∈ s.toList, isShapeChar c = true :=
  fun c hc => isShapeChar_of_isWordChar (h.isWordChar c hc)

theorem IsWord.toList_ne_nil (h : IsWord s) : s.toList ≠ [] := by simpa using h.1

theorem IsWord.not_isWildcard (h : IsWord s) : isWildcard s = false := by
  rw [← Bool.not_eq_true, isWildcard_iff]
  rintro (hstar | hquestion)
  · exact absurd (h.isWordChar _ hstar) (by decide)
  · exact absurd (h.isWordChar _ hquestion) (by decide)

theorem IsShape.isShapeChar (h : IsShape s) : ∀ c ∈ s.toList, isShapeChar c = true :=
  List.all_eq_true.1 h.2

theorem IsShape.toList_ne_nil (h : IsShape s) : s.toList ≠ [] := by
  intro hnil
  have hwildcard := h.1
  rw [isWildcard, hnil] at hwildcard
  exact absurd hwildcard (by decide)

end Text

/-! ## Intervals -/

namespace Interval

variable {i j : Interval} {bound bound' : Option String} {r s : List Char}

theorem isWordChar_of_mem_boundChars (h : ∀ s ∈ bound, Text.IsWord s) :
    ∀ c ∈ boundChars bound, Text.isWordChar c = true := by
  intro c hc
  obtain ⟨s, hs, hmem⟩ := mem_boundChars.1 hc
  exact (h s hs).isWordChar c hmem

/-- A missing bound is not confused with an empty one where bounds are words. -/
theorem bound_eq_of_boundChars_eq (h : ∀ s ∈ bound, Text.IsWord s)
    (h' : ∀ s ∈ bound', Text.IsWord s) (heq : boundChars bound = boundChars bound') :
    bound = bound' := by
  cases bound with
  | none =>
    cases bound' with
    | none => rfl
    | some s => exact absurd heq.symm (h' s rfl).toList_ne_nil
  | some s =>
    cases bound' with
    | none => exact absurd heq (h s rfl).toList_ne_nil
    | some t => exact congrArg some (String.toList_inj.1 heq)

theorem space_not_mem_of_isWord (h : ∀ s ∈ bound, Text.IsWord s) : ' ' ∉ boundChars bound :=
  fun hspace => absurd (isWordChar_of_mem_boundChars h _ hspace) (by decide)

/-- The bracket in front and the bracket behind are found, whichever they are. -/
theorem IsLegible.chars_append_inj (hi : i.IsLegible) (hj : j.IsLegible)
    (h : i.chars ++ r = j.chars ++ s) : i = j ∧ r = s := by
  have hclosing : ∀ b : Bool, Text.isWordChar (if b then ']' else ')') = false := by decide
  obtain ⟨hopening, hlower, hrest⟩ := Interval.chars_append_inj
    (space_not_mem_of_isWord hi.lower) (space_not_mem_of_isWord hj.lower) h
  obtain ⟨hupper, hrest⟩ := Text.append_inj_of_all (isWordChar_of_mem_boundChars hi.upper)
    (isWordChar_of_mem_boundChars hj.upper) (by simp [hclosing]) (by simp [hclosing]) hrest
  obtain ⟨hbracket, hrest⟩ := List.cons.inj hrest
  refine ⟨?_, hrest⟩
  obtain ⟨lower, upper, includeLower, includeUpper⟩ := i
  obtain ⟨lower', upper', includeLower', includeUpper'⟩ := j
  obtain rfl := bound_eq_of_boundChars_eq hi.lower hj.lower hlower
  obtain rfl := bound_eq_of_boundChars_eq hi.upper hj.upper hupper
  obtain rfl : includeLower = includeLower' := hopening
  obtain rfl : includeUpper = includeUpper' := closing_inj hbracket
  rfl

/-- Intervals are known by their written forms. -/
theorem eq_of_map_chars_eq {is js : List Interval} (hi : ∀ i ∈ is, i.IsLegible)
    (hj : ∀ j ∈ js, j.IsLegible) (h : is.map chars = js.map chars) : is = js := by
  refine List.ext_getElem (by simpa using congrArg List.length h) fun n hn hn' => ?_
  have hchars : is[n].chars ++ [] = js[n].chars ++ [] := by
    simpa [hn, hn'] using congrArg (·[n]?) h
  exact ((hi _ (List.getElem_mem hn)).chars_append_inj (hj _ (List.getElem_mem hn')) hchars).1

end Interval

/-! ## Leaves -/

namespace Filter

variable {f g : Filter} {field field' : String} {t u r s : List Char} {ts us : List (List Char)}

theorem isShapeChar_of_ends (h : Ends r) : ∀ c ∈ r.head?, Text.isShapeChar c = false := by
  intro c hc
  rcases h c hc with rfl | rfl <;> decide

theorem isBracketed_append (hne : t ≠ []) : isBracketed (t ++ r) = isBracketed t := by
  obtain ⟨c, t, rfl⟩ := List.exists_cons_of_ne_nil hne
  rfl

theorem isBracketed_chars (i : Interval) : isBracketed i.chars = true := by
  have hopening : ∀ b : Bool, Text.isShapeChar (if b then '[' else '(') = false := by decide
  simp [isBracketed, Interval.chars, hopening]

theorem isBracketed_of_isShapeChar (h : ∀ c ∈ t, Text.isShapeChar c = true) :
    isBracketed t = false := by
  cases t with
  | nil => rfl
  | cons c t => simp [isBracketed, h c List.mem_cons_self]

theorem chars_append_ne_of_isShapeChar {i : Interval} (hne : t ≠ [])
    (h : ∀ c ∈ t, Text.isShapeChar c = true) : i.chars ++ r ≠ t ++ s := by
  intro heq
  have hbracket := congrArg isBracketed heq
  rw [isBracketed_append (by simp [Interval.chars]), isBracketed_chars, isBracketed_append hne,
    isBracketed_of_isShapeChar h] at hbracket
  cases hbracket

/-- A text of a value is told from what follows it. -/
theorem IsText.append_inj (ht : IsText t) (hu : IsText u)
    (hr : ∀ c ∈ r.head?, Text.isShapeChar c = false)
    (hs : ∀ c ∈ s.head?, Text.isShapeChar c = false) (h : t ++ r = u ++ s) : t = u ∧ r = s := by
  cases ht with
  | shape hne hshape =>
    cases hu with
    | shape hne' hshape' => exact Text.append_inj_of_all hshape hshape' hr hs h
    | interval => exact absurd h.symm (chars_append_ne_of_isShapeChar hne hshape)
  | interval hi =>
    cases hu with
    | shape hne hshape => exact absurd h (chars_append_ne_of_isShapeChar hne hshape)
    | interval hj =>
      obtain ⟨rfl, hrest⟩ := hi.chars_append_inj hj h
      exact ⟨rfl, hrest⟩

/-- The field ends at the first colon, and the texts between commas come apart. -/
theorem leafChars_append_inj (hfield : Text.IsWord field) (hfield' : Text.IsWord field')
    (hts : ∀ t ∈ ts, IsText t) (hus : ∀ u ∈ us, IsText u) (hne : ts ≠ []) (hne' : us ≠ [])
    (hr : Ends r) (hs : Ends s) (h : leafChars field ts ++ r = leafChars field' us ++ s) :
    field = field' ∧ ts = us ∧ r = s := by
  have hcomma : ∀ {rest : List Char}, Ends rest → ¬ [','] <+: rest := by
    rintro _ hrest ⟨rest, rfl⟩
    exact absurd (hrest ',' rfl) (by decide)
  simp only [leafChars, List.append_assoc, List.cons_append] at h
  obtain ⟨hname, hrest⟩ := Text.append_inj_of_all hfield.isWordChar hfield'.isWordChar
    (by simp [Text.isWordChar]) (by simp [Text.isWordChar]) h
  have htexts := Text.intercalate_append_inj id
    (fun rest => ∀ c ∈ rest.head?, Text.isShapeChar c = false)
    (fun t ht u hu r s hr hs h => (hts t ht).append_inj (hus u hu) hr hs h)
    (by simp [Text.isShapeChar, Text.isWordChar]) (isShapeChar_of_ends hr) (isShapeChar_of_ends hs)
    (hcomma hr) (hcomma hs) hne hne' (by simpa using hrest)
  exact ⟨String.toList_inj.1 hname, htexts⟩

/-- What a leaf writes in front of the colon: its field, or the name that stands for the
document. -/
def writtenField (f : Filter) : String := f.fieldName?.getD idsField

theorem isWord_idsField : Text.IsWord idsField := by decide

theorem escapeCommas_of_isWord {v : String} (h : Text.IsWord v) :
    escapeCommas v.toList = v.toList :=
  escapeCommas_eq_self fun hcomma => absurd (h.isWordChar _ hcomma) (by decide)

theorem texts_term_of_isWord {values : List String} (h : ∀ v ∈ values, Text.IsWord v) :
    (term field values).texts = values.map String.toList :=
  List.map_congr_left fun v hv => escapeCommas_of_isWord (h v hv)

theorem chars_of_joint?_eq_none (h : f.joint? = none) :
    f.chars = leafChars f.writtenField f.texts := by
  cases f with
  | all | any => simp [joint?] at h
  | term | wildcard | range | ids => rfl

theorem IsLegible.isWord_writtenField (hf : f.IsLegible) : Text.IsWord f.writtenField := by
  cases hf with
  | term hfield | wildcard hfield | range hfield => exact hfield
  | ids | all | any => exact isWord_idsField

theorem IsLegible.texts_ne_nil (hf : f.IsLegible) (h : f.joint? = none) : f.texts ≠ [] := by
  cases hf with
  | term _ _ hne | range _ hne | ids hne => simpa [texts] using hne
  | wildcard => simp [texts]
  | all | any => simp [joint?] at h

theorem isText_of_isWord {v : String} (h : Text.IsWord v) : IsText v.toList :=
  .shape h.toList_ne_nil h.isShapeChar

theorem IsLegible.isText (hf : f.IsLegible) : ∀ t ∈ f.texts, IsText t := by
  cases hf with
  | term _ _ _ hvalues =>
    rw [texts_term_of_isWord hvalues, List.forall_mem_map]
    exact fun v hv => isText_of_isWord (hvalues v hv)
  | wildcard _ hpattern =>
    rw [texts, List.forall_mem_singleton]
    exact .shape hpattern.toList_ne_nil hpattern.isShapeChar
  | range _ _ hintervals =>
    rw [texts, List.forall_mem_map]
    exact fun i hi => .interval (hintervals i hi)
  | ids _ hvalues =>
    rw [texts, List.forall_mem_map]
    exact fun v hv => isText_of_isWord (hvalues v hv)
  | all | any => exact fun t ht => absurd ht List.not_mem_nil

/-! ### Kinds of leaves -/

theorem kind_ofTexts_of_isWord {values : List String} (hvalues : ∀ v ∈ values, Text.IsWord v) :
    Kind.ofTexts field (values.map String.toList) =
      if field = idsField then .ids else .term := by
  have hbrackets : ¬ (values.map String.toList).any isBracketed = true := by
    simp only [List.any_map, List.any_eq_true, not_exists, not_and, Bool.not_eq_true]
    exact fun v hv => isBracketed_of_isShapeChar (hvalues v hv).isShapeChar
  have hpatterns : ¬ (values.map String.toList).any holdsPattern = true := by
    simp only [List.any_map, List.any_eq_true, not_exists, not_and, Bool.not_eq_true]
    exact fun v hv => (hvalues v hv).not_isWildcard
  rw [Kind.ofTexts, if_neg hbrackets, if_neg hpatterns]

/-- The kind of a leaf shows in what is written for it. -/
theorem IsLegible.kind_eq (hf : f.IsLegible) (h : f.joint? = none) :
    f.kind = .ofTexts f.writtenField f.texts := by
  cases hf with
  | term hfield hids hne hvalues =>
    rw [texts_term_of_isWord hvalues, kind_ofTexts_of_isWord hvalues]
    exact (if_neg hids).symm
  | wildcard hfield hpattern =>
    have hholds : holdsPattern _ = true := hpattern.1
    simp [Kind.ofTexts, texts, isBracketed_of_isShapeChar hpattern.isShapeChar, hholds, kind]
  | range hfield hne hintervals =>
    obtain ⟨i, is, rfl⟩ := List.exists_cons_of_ne_nil hne
    simp [Kind.ofTexts, texts, isBracketed_chars, kind]
  | ids hne hvalues =>
    rw [texts, kind_ofTexts_of_isWord hvalues]
    rfl
  | all | any => simp [joint?] at h

/-- A leaf is known by what is written for it. -/
theorem IsLegible.eq_of_texts_eq (hf : f.IsLegible) (hg : g.IsLegible) (hleaf : f.joint? = none)
    (hleaf' : g.joint? = none) (hfield : f.writtenField = g.writtenField)
    (htexts : f.texts = g.texts) : f = g := by
  have hkind : f.kind = g.kind := by
    rw [hf.kind_eq hleaf, hg.kind_eq hleaf', hfield, htexts]
  have htoList : Function.Injective String.toList := fun _ _ => String.toList_inj.1
  cases hf with
  | @term field values _ _ _ hvalues =>
    cases hg with
    | @term field' values' _ _ _ hvalues' =>
      obtain rfl : field = field' := hfield
      rw [texts_term_of_isWord hvalues, texts_term_of_isWord hvalues'] at htexts
      rw [htoList.list_map htexts]
    | _ => cases hkind
  | @wildcard field =>
    cases hg with
    | @wildcard field' =>
      obtain rfl : field = field' := hfield
      rw [htoList (List.singleton_inj.1 htexts)]
    | _ => cases hkind
  | @range field intervals _ _ hintervals =>
    cases hg with
    | @range field' intervals' _ _ hintervals' =>
      obtain rfl : field = field' := hfield
      rw [Interval.eq_of_map_chars_eq hintervals hintervals' htexts]
    | _ => cases hkind
  | ids =>
    cases hg with
    | ids => rw [htoList.list_map htexts]
    | _ => cases hkind
  | all | any => simp [joint?] at hleaf

/-! ## Composites -/

theorem chars_of_joint? {joint : String} (h : f.joint? = some joint) :
    f.chars = compositeChars joint (f.children.map chars) := by
  cases f with
  | all | any =>
    obtain rfl := Option.some.inj h
    rw [chars, charsEach_eq_map, children]
  | term | wildcard | range | ids => cases h

theorem eq_of_joint?_eq (hjoint : f.joint? = g.joint?) (hcomposite : f.joint? ≠ none)
    (hchildren : f.children = g.children) : f = g := by
  cases f with
  | all parts =>
    cases g with
    | all parts' => exact congrArg all hchildren
    | term | wildcard | range | ids | any => simp [joint?] at hjoint
  | any parts =>
    cases g with
    | any parts' => exact congrArg any hchildren
    | term | wildcard | range | ids | all => simp [joint?] at hjoint
  | term | wildcard | range | ids => exact absurd rfl hcomposite

/-- The words between filters begin with a space, and differ behind it. -/
theorem eq_of_joint?_append_eq {joint joint' : String} (hf : f.joint? = some joint)
    (hg : g.joint? = some joint') (h : joint.toList ++ r = joint'.toList ++ s) :
    joint = joint' := by
  have hjoint : ∀ {e : Filter} {w : String}, e.joint? = some w → w = " AND " ∨ w = " OR " := by
    intro e w he
    cases e with
    | all => exact .inl (Option.some.inj he).symm
    | any => exact .inr (Option.some.inj he).symm
    | term | wildcard | range | ids => cases he
  rcases hjoint hf with rfl | rfl <;> rcases hjoint hg with rfl | rfl
  · rfl
  · simp at h
  · simp at h
  · rfl

theorem ends_joint {joint : String} (hf : f.joint? = some joint) (rest : List Char) :
    Ends (joint.toList ++ rest) := by
  cases f with
  | all | any =>
    obtain rfl := Option.some.inj hf
    simp [Ends]
  | term | wildcard | range | ids => cases hf

theorem ends_cons_parenthesis (rest : List Char) : Ends (')' :: rest) := by simp [Ends]

theorem not_joint_prefix_parenthesis {joint : String} (hf : f.joint? = some joint)
    (rest : List Char) : ¬ joint.toList <+: ')' :: rest := by
  cases f with
  | all | any =>
    obtain rfl := Option.some.inj hf
    simp [List.cons_prefix_cons]
  | term | wildcard | range | ids => cases hf

theorem IsLegible.exists_children {joint : String} (hf : f.IsLegible)
    (h : f.joint? = some joint) : ∃ c c' cs, f.children = c :: c' :: cs := by
  have hcons : ∀ {parts : List Filter}, 2 ≤ parts.length → ∃ c c' cs, parts = c :: c' :: cs := by
    rintro (_ | ⟨c, _ | ⟨c', cs⟩⟩) hseveral
    · simp at hseveral
    · simp at hseveral
    · exact ⟨c, c', cs, rfl⟩
  cases hf with
  | all hseveral | any hseveral => exact hcons hseveral
  | term | wildcard | range | ids => cases h

theorem IsLegible.of_mem_children (hf : f.IsLegible) : ∀ c ∈ f.children, c.IsLegible := by
  cases hf with
  | all _ hparts | any _ hparts => exact hparts
  | term | wildcard | range | ids => exact fun c hc => absurd hc List.not_mem_nil

/-- No leaf begins with the parenthesis of a composite. -/
theorem IsLegible.chars_append_ne_composite {joint : String} (hf : f.IsLegible)
    (hleaf : f.joint? = none) (hg : g.joint? = some joint) : f.chars ++ r ≠ g.chars ++ s := by
  obtain ⟨c, cs, hfield⟩ := List.exists_cons_of_ne_nil hf.isWord_writtenField.toList_ne_nil
  intro h
  rw [chars_of_joint?_eq_none hleaf, chars_of_joint? hg, leafChars, hfield] at h
  obtain rfl : c = '(' := (List.cons.inj h).1
  have hword := hf.isWord_writtenField.isWordChar '(' (by simp [hfield])
  exact absurd hword (by decide)

/-- Two leaves come apart from what follows them. -/
theorem IsLegible.leaf_append_inj (hf : f.IsLegible) (hg : g.IsLegible) (hleaf : f.joint? = none)
    (hr : Ends r) (hs : Ends s) (h : f.chars ++ r = g.chars ++ s) : f = g ∧ r = s := by
  cases hleaf' : g.joint? with
  | some joint => exact absurd h (hf.chars_append_ne_composite hleaf hleaf')
  | none =>
    rw [chars_of_joint?_eq_none hleaf, chars_of_joint?_eq_none hleaf'] at h
    obtain ⟨hfield, htexts, hrest⟩ := leafChars_append_inj hf.isWord_writtenField
      hg.isWord_writtenField hf.isText hg.isText (hf.texts_ne_nil hleaf) (hg.texts_ne_nil hleaf')
      hr hs h
    exact ⟨hf.eq_of_texts_eq hg hleaf hleaf' hfield htexts, hrest⟩

/-- Two composites come apart from what follows them, when their parts do. -/
theorem IsLegible.composite_append_inj {joint : String} (hf : f.IsLegible) (hg : g.IsLegible)
    (hjoint : f.joint? = some joint)
    (ih : ∀ c ∈ f.children, ∀ {d r s}, d.IsLegible → Ends r → Ends s →
      c.chars ++ r = d.chars ++ s → c = d ∧ r = s)
    (h : f.chars ++ r = g.chars ++ s) : f = g ∧ r = s := by
  cases hjoint' : g.joint? with
  | none => exact absurd h.symm (hg.chars_append_ne_composite hjoint' hjoint)
  | some joint' =>
    obtain ⟨c, c', cs, hcs⟩ := hf.exists_children hjoint
    obtain ⟨d, d', ds, hds⟩ := hg.exists_children hjoint'
    have hread : ∀ c ∈ f.children, ∀ d ∈ g.children, ∀ r s, Ends r → Ends s →
        c.chars ++ r = d.chars ++ s → c = d ∧ r = s :=
      fun c hc d hd r s => ih c hc (hg.of_mem_children d hd)
    rw [chars_of_joint? hjoint, chars_of_joint? hjoint'] at h
    simp only [compositeChars, List.cons_append, List.append_assoc, List.nil_append,
      List.cons.injEq, true_and] at h
    -- The first parts come apart, and the words behind them tell the composites apart.
    obtain rfl : joint = joint' := by
      rw [hcs, hds, Text.intercalate_cons_cons_append, Text.intercalate_cons_cons_append] at h
      obtain ⟨-, hrest⟩ := hread c (by simp [hcs]) d (by simp [hds]) _ _ (ends_joint hjoint _)
        (ends_joint hjoint' _) h
      exact eq_of_joint?_append_eq hjoint hjoint' hrest
    obtain ⟨hchildren, hrest⟩ := Text.intercalate_append_inj chars Ends
      hread (ends_joint hjoint) (ends_cons_parenthesis r) (ends_cons_parenthesis s)
      (not_joint_prefix_parenthesis hjoint r) (not_joint_prefix_parenthesis hjoint s)
      (by simp [hcs]) (by simp [hds]) h
    exact ⟨eq_of_joint?_eq (hjoint.trans hjoint'.symm) (by simp [hjoint]) hchildren,
      (List.cons.inj hrest).2⟩

/-- A legible filter is told from what follows it, at any depth. -/
theorem IsLegible.chars_append_inj (hf : f.IsLegible) (hg : g.IsLegible) (hr : Ends r)
    (hs : Ends s) (h : f.chars ++ r = g.chars ++ s) : f = g ∧ r = s := by
  induction f generalizing g r s with
  | term | wildcard | range | ids => exact hf.leaf_append_inj hg rfl hr hs h
  | all parts ih | any parts ih =>
    exact hf.composite_append_inj hg rfl (fun c hc _ _ _ hd hr hs h =>
      ih c hc (hf.of_mem_children c hc) hd hr hs h) h

/-- Legible filters with one written form are the same tree, down to the order and the nesting of
parts and to the brackets of intervals. -/
theorem legible_filters_apart (hf : f.IsLegible) (hg : g.IsLegible)
    (h : f.canonical = g.canonical) : f = g := by
  have hchars : f.chars ++ [] = g.chars ++ [] := by
    rw [List.append_nil, List.append_nil]
    exact String.ofList_inj.1 h
  exact (hf.chars_append_inj hg (by simp [Ends]) (by simp [Ends]) hchars).1

/-- Intervals with unlike brackets stand in a composite beside a choice that splitting has made. -/
theorem legible_filters_apart_sizes :
    let cheap : List Interval := [.between "0" "5", ⟨none, some "TO", false, true⟩]
    let f : Filter := .all [.range "price" cheap, .any [.wildcard "size" "X*", .term "size" ["M"]]]
    let g := Filter.compile ⟨[]⟩ none (.all [.range "price" cheap, .term "size" ["M", "X*"]])
    f.canonical = "(price:[0 TO 5),( TO TO] AND (size:X* OR size:M))" ∧
      f.IsLegible ∧ g.IsLegible ∧ f.canonical = g.canonical ∧ f = g := by
  intro cheap f g
  have hcheap : ∀ i ∈ cheap, i.IsLegible := by
    simp only [cheap, List.forall_mem_cons]
    exact ⟨⟨by decide, by decide⟩, ⟨by decide, by decide⟩, nofun⟩
  have hf : f.IsLegible := by
    refine .all (by decide) ?_
    simp only [List.forall_mem_cons]
    refine ⟨.range (by decide) (by decide) hcheap, .any (by decide) ?_, nofun⟩
    simp only [List.forall_mem_cons]
    exact ⟨.wildcard (by decide) (by decide),
      .term (by decide) (by decide) (by decide) (by decide), nofun⟩
  have hg : g.IsLegible := hf
  have hwritten : f.canonical = g.canonical := by decide
  exact ⟨by decide, hf, hg, hwritten, legible_filters_apart hf hg hwritten⟩

end Filter

end FacetedSearch
