import FacetedSearch.FieldMapping
import FacetedSearch.Pattern.Spelling

/-!
# The rules of catalogs

The rules for catalogs are written out as they come from their texts. Each pattern begins with
the literals of a word, so a rule leaves alone every name that does not begin like its word. A
match takes up the whole name, and the names that a rule replaces can be said without patterns.

## Main definitions

* `IsCurrencyCode` — the codes that the rule for prices accepts.
* `IsProperty` — the names that the rule for properties accepts.
* `Pattern.anchored`, `Pattern.ofWord` — a pattern that begins with the literals of a word, and
  one that has nothing else.
* `Pattern.price`, `Pattern.subtree`, `Pattern.properties` — the patterns with more than a word.
* `MappingRule.price`, `MappingRule.subtree`, `MappingRule.properties` — their rules.
* `Pattern.filled` — what stands in place of a match.
-/

namespace FacetedSearch

/-- The letters of ASCII, and the long s and the Kelvin sign, which are variants of two of them. -/
def isCodeLetter (c : Char) : Bool := c.isAlpha || c == 'ſ' || c == '\u212a'

/-- Three letters, as the rule for prices wants them. -/
def IsCurrencyCode (s : String) : Prop := s.toList.length = 3 ∧ s.toList.all isCodeLetter = true

instance (s : String) : Decidable (IsCurrencyCode s) := inferInstanceAs (Decidable (_ ∧ _))

/-- The name is a spelling of `properties.` with `rest` behind it, a text of one line. -/
def IsProperty (name rest : String) : Prop :=
  ∃ w, name = w ++ rest ∧ Text.Spells "properties.".toList w.toList ∧ rest ≠ "" ∧
    '\n' ∉ rest.toList

namespace Pattern

/-- The letters of the ranges `A-Z` and `a-z` in a pattern in which letter case does not count. -/
def codeLetters : CharSet := .anyCase (.ofList [.upperAscii, .lowerAscii])

/-- The pattern with the given source that begins with the literals of `word`. -/
def anchored (source word : String) (ns : List Node) : Pattern :=
  ⟨source, .anchored word.toList ns, []⟩

/-- The pattern of a word. -/
def ofWord (source word : String) : Pattern := anchored source word [.place .textEnd]

/-- The pattern of prices whose names end in a code. -/
def price : Pattern :=
  anchored "^price\\.([A-Za-z]\x7b3\x7d)$" "price."
    [.group 1 (.times (.char codeLetters) 3 (some 3) true), .place .textEnd]

/-- The pattern of the subtree of one category or of several. -/
def subtree : Pattern :=
  anchored "^categor(?:y|ies)\\.subtree$" "categor"
    (.alt (.ofList (Node.letters "y".toList)) (.ofList (Node.letters "ies".toList)) ::
      (Node.letters ".subtree".toList ++ [.place .textEnd]))

/-- The pattern of properties, with a group for what stands behind its word. -/
def properties : Pattern :=
  anchored "^properties\\.(.+)$" "properties."
    [.group 1 (.times (.char (.compl (.single '\n'))) 1 none true), .place .textEnd]

/-- The marks of a match with a whole text. -/
def wholeMarks (last : Nat) : Marks := [(1, last), (0, 0)]

/-- The marks of a match with a whole text in which group 1 reaches from `first` to the end. -/
def groupMarks (first last : Nat) : Marks := [(1, last), (3, last), (2, first), (0, 0)]

/-- The text with a filled template in place of a match. -/
def filled (p : Pattern) (replacement : String) (m : Match) : String :=
  String.ofList (m.before ++ Template.fill m.group (p.names.lookup ·) (Template.read replacement) ++
    m.after)

end Pattern

namespace MappingRule

def price : MappingRule := .ofPattern .price "price_$\x7b1\x7d" true

def subtree : MappingRule := .ofPattern .subtree "__outline" false

def properties : MappingRule := .ofPattern .properties "$\x7b1\x7d" false

/-- The rule for a word. -/
def ofWord (source word replacement : String) : MappingRule :=
  .ofPattern (.ofWord source word) replacement false

end MappingRule

namespace FieldMapper

/-- The rules for catalogs without the last one, which is for properties. -/
def fixedRules : List MappingRule :=
  [.price, .ofWord "^catalog\\.id$" "catalog.id" "catalog",
    .ofWord "^category\\.path$" "category.path" "__path", .subtree, .ofWord "^sku$" "sku" "code"]

/-- The words with which their patterns begin. -/
def fixedWords : List String := ["price.", "catalog.id", "category.path", "categor", "sku"]

/-- The patterns with their trees. -/
theorem patterns_catalogTexts : catalogTexts.map (fun texts => Pattern.ofText? texts.1) =
    [some .price, some (.ofWord "^catalog\\.id$" "catalog.id"),
      some (.ofWord "^category\\.path$" "category.path"), some .subtree,
      some (.ofWord "^sku$" "sku"), some .properties] := by
  decide +kernel

theorem rules_catalog : catalog.rules =
    [.price, .ofWord "^catalog\\.id$" "catalog.id" "catalog",
      .ofWord "^category\\.path$" "category.path" "__path", .subtree,
      .ofWord "^sku$" "sku" "code", .properties] := by
  have hpatterns := patterns_catalogTexts
  simp only [catalogTexts, List.map_cons, List.map_nil, List.cons.injEq] at hpatterns
  obtain ⟨hprice, hid, hpath, hsubtree, hsku, hproperties, -⟩ := hpatterns
  simp only [catalog, catalogWith, catalogTexts, List.filterMap_cons, List.filterMap_nil,
    MappingRule.ofTexts_compile hprice, MappingRule.ofTexts_compile hid,
    MappingRule.ofTexts_compile hpath, MappingRule.ofTexts_compile hsubtree,
    MappingRule.ofTexts_compile hsku, MappingRule.ofTexts_compile hproperties, Except.toOption]
  rfl

end FieldMapper

/-! ## Letters of codes -/

theorem isBlank_of_isCodeLetter {c : Char} (h : isCodeLetter c = true) :
    Text.isBlank c = false := by
  simp only [isCodeLetter, Bool.or_eq_true, beq_iff_eq] at h
  rcases h with (h | rfl) | rfl
  · have hspans : ∀ span ∈ Text.blankSpans, span.2 < 0x41 ∨ 0x7A < span.1 := by decide
    rw [← Bool.not_eq_true, Text.isBlank_iff_exists_span]
    rintro ⟨span, hspan, hfirst, hlast⟩
    have hapart := hspans span hspan
    rw [Text.isAlpha_iff] at h
    omega
  · decide
  · decide

theorem Pattern.contains_codeLetters (c : Char) : codeLetters.contains c = isCodeLetter c := by
  have hset : ∀ d, (CharSet.ofList [.upperAscii, .lowerAscii]).contains d = d.isAlpha := by
    intro d
    rw [Bool.eq_iff_iff, Text.isAlpha_iff]
    simp only [CharSet.contains_ofList, List.any_cons, List.any_nil, Bool.or_false,
      CharSet.upperAscii, CharSet.lowerAscii, CharSet.contains, Bool.or_eq_true,
      Bool.and_eq_true, decide_eq_true_eq]
    rfl
  have hascii : ∀ {d : Char}, d.isAlpha = true → d.toNat < 128 := by
    intro d hd
    rw [Text.isAlpha_iff] at hd
    omega
  rw [Bool.eq_iff_iff, codeLetters, CharSet.contains_anyCase]
  simp only [hset, isCodeLetter, Bool.or_eq_true, beq_iff_eq]
  constructor
  · rintro ⟨d, hfold, hd⟩
    rw [Unicode.foldCase_of_ascii (hascii hd)] at hfold
    rw [← Text.isAlpha_toLower, hfold] at hd
    rcases Unicode.ascii_of_foldCase (hascii hd) with hc | hc | hc
    · rw [Unicode.foldCase_of_ascii hc, Text.isAlpha_toLower] at hd
      exact .inl (.inl hd)
    · exact .inl (.inr hc)
    · exact .inr hc
  · rintro ((hc | rfl) | rfl)
    · exact ⟨c, rfl, hc⟩
    · exact ⟨'s', by decide +kernel, rfl⟩
    · exact ⟨'k', by decide +kernel, rfl⟩

/-! ## Names that a rule leaves alone -/

theorem Pattern.replaceFirst?_anchored_eq_none {source word subject : String}
    {ns : List Pattern.Node} (hns : ns ≠ [])
    (h : ¬ word.toList.map Unicode.foldCase <+: subject.toList.map Unicode.foldCase)
    (template : List Piece) :
    (anchored source word ns).replaceFirst? template subject = none := by
  have hnone : (Node.anchored word.toList ns).find? subject.toList = none := by
    rw [← Option.not_isSome_iff_eq_none]
    intro hfound
    obtain ⟨w, hw, hspells⟩ := spells_take_of_find? hns hfound
    exact h (hspells ▸ hw.map Unicode.foldCase)
  rw [replaceFirst?, anchored, hnone]
  rfl

theorem MappingRule.replaced?_anchored_eq_none {source word replacement name : String}
    {lowercase : Bool} {ns : List Pattern.Node} (hns : ns ≠ [])
    (h : ¬ word.toList.map Unicode.foldCase <+: name.toList.map Unicode.foldCase) :
    (ofPattern (.anchored source word ns) replacement lowercase).replaced? name = none := by
  rw [replaced?_ofPattern, Pattern.replaceFirst?_anchored_eq_none hns h, Option.map_none]

namespace FieldMapper

theorem rules_eq_append : catalog.rules = fixedRules ++ [MappingRule.properties] := rules_catalog

theorem replaced?_fixedRules_eq_none {name : String} (h : ∀ word ∈ fixedWords,
      ¬ word.toList.map Unicode.foldCase <+: name.toList.map Unicode.foldCase) :
    ∀ rule ∈ fixedRules, rule.replaced? name = none := by
  simp only [fixedRules, List.forall_mem_cons]
  refine ⟨?_, ?_, ?_, ?_, ?_, nofun⟩
  all_goals exact MappingRule.replaced?_anchored_eq_none (by simp) (h _ (by simp [fixedWords]))

theorem replaced?_catalog_eq_none {name : String} (h : ∀ word ∈ fixedWords ++ ["properties."],
      ¬ word.toList.map Unicode.foldCase <+: name.toList.map Unicode.foldCase) :
    ∀ rule ∈ catalog.rules, rule.replaced? name = none := by
  obtain ⟨hfixed, hproperties⟩ := List.forall_mem_append.1 h
  rw [rules_eq_append, List.forall_mem_append]
  refine ⟨replaced?_fixedRules_eq_none hfixed, ?_⟩
  rw [List.forall_mem_singleton] at hproperties ⊢
  exact MappingRule.replaced?_anchored_eq_none (by simp) hproperties

theorem ascii_of_mem_words {word : String} (h : word ∈ fixedWords ++ ["properties."]) :
    word.toList.all (·.toNat < 128) = true := by
  have hall : ∀ word ∈ fixedWords ++ ["properties."],
      word.toList.all (·.toNat < 128) = true := by
    decide
  exact hall word h

theorem apart_of_ascii {s : String} (hascii : s.toList.all (·.toNat < 128) = true)
    (hapart : ∀ word ∈ fixedWords ++ ["properties."], ¬ Text.fold word <+: Text.fold s) :
    ∀ word ∈ fixedWords ++ ["properties."],
      ¬ word.toList.map Unicode.foldCase <+: s.toList.map Unicode.foldCase := by
  intro word hword
  rw [Text.begins_iff_of_ascii (ascii_of_mem_words hword) hascii]
  exact hapart word hword

/-- No spelling of `price` begins like the word of a rule. -/
theorem replaced?_of_same_price {name : String}
    (h : Text.same name "price" = true) : ∀ rule ∈ catalog.rules, rule.replaced? name = none := by
  have hfold : name.toList.map Unicode.foldCase = "price".toList.map Unicode.foldCase :=
    (Text.spells_iff_of_ascii (by decide)).2 (Text.same_iff.1 h)
  apply replaced?_catalog_eq_none
  rw [hfold]
  exact apart_of_ascii (by decide) (by decide)

end FieldMapper

/-! ## Matches with whole names -/

namespace Pattern

variable {source word : String} {cs : List Char} {m : Marks}

theorem occurs_ofWord : (ofWord source word).root.Occurs 0 none cs m ↔
    Text.Spells word.toList cs ∧ m = wholeMarks cs.length := by
  rw [ofWord, anchored, occurs_anchored (by simp)]
  simp only [Node.ofList, finishes_place, finishes_close, finishes_nil, Place.holds]
  constructor
  · rintro ⟨w, rest, rfl, hw, hend, rfl⟩
    obtain rfl : rest = [] := by simpa using hend
    rw [List.append_nil]
    exact ⟨hw, rfl⟩
  · rintro ⟨hw, rfl⟩
    exact ⟨cs, [], (List.append_nil cs).symm, hw, rfl, rfl⟩

theorem occurs_anchored_group {body : Node} {accepts : List Char → Prop} (h : body.Takes accepts) :
    (anchored source word [.group 1 body, .place .textEnd]).root.Occurs 0 none cs m ↔
      ∃ w rest, cs = w ++ rest ∧ Text.Spells word.toList w ∧ accepts rest ∧
        m = groupMarks w.length cs.length := by
  rw [anchored, occurs_anchored (by simp)]
  simp only [Node.ofList, finishes_seq, finishes_group, finishes_place, h.finishes_iff,
    finishes_close, finishes_nil, Place.holds]
  constructor
  · rintro ⟨w, _, rfl, hw, rest, behind, rfl, hrest, hend, rfl⟩
    obtain rfl : behind = [] := by simpa using hend
    rw [List.append_nil]
    refine ⟨w, rest, rfl, hw, hrest, ?_⟩
    rw [List.length_append]
    rfl
  · rintro ⟨w, rest, rfl, hw, hrest, rfl⟩
    refine ⟨w, rest, rfl, hw, rest, [], (List.append_nil rest).symm, hrest, rfl, ?_⟩
    rw [List.length_append]
    rfl

theorem occurs_subtree : subtree.root.Occurs 0 none cs m ↔
    (Text.Spells "category.subtree".toList cs ∨ Text.Spells "categories.subtree".toList cs) ∧
      m = wholeMarks cs.length := by
  have hending := (takes_letters "y".toList).alt (takes_letters "ies".toList)
  have hone : "category.subtree".toList = "categor".toList ++ ("y".toList ++ ".subtree".toList) :=
    rfl
  have hseveral : "categories.subtree".toList =
      "categor".toList ++ ("ies".toList ++ ".subtree".toList) := rfl
  rw [hone, hseveral, subtree, anchored, occurs_anchored (by simp)]
  simp only [Text.spells_append_iff]
  constructor
  · rintro ⟨u, _, rfl, hu, hrun⟩
    rw [finishes_ofList_cons (by simp), hending.finishes_iff] at hrun
    obtain ⟨v, _, rfl, hv, hrun⟩ := hrun
    rw [finishes_letters (by simp)] at hrun
    obtain ⟨w, rest, rfl, hw, hrun⟩ := hrun
    simp only [Node.ofList, finishes_place, finishes_close, finishes_nil] at hrun
    obtain ⟨hend, rfl⟩ := hrun
    obtain rfl : rest = [] := by simpa [Place.holds] using hend
    refine ⟨?_, by simp [wholeMarks, Marks.set, Nat.add_assoc]⟩
    rcases hv with hv | hv
    · exact .inl ⟨u, _, rfl, hu, v, w, by simp, hv, hw⟩
    · exact .inr ⟨u, _, rfl, hu, v, w, by simp, hv, hw⟩
  · rintro ⟨h, rfl⟩
    obtain ⟨u, v, w, rfl, hu, hv, hw⟩ : ∃ u v w, cs = u ++ (v ++ w) ∧
        Text.Spells "categor".toList u ∧
        (Text.Spells "y".toList v ∨ Text.Spells "ies".toList v) ∧
        Text.Spells ".subtree".toList w := by
      rcases h with ⟨u, _, rfl, hu, v, w, rfl, hv, hw⟩ | ⟨u, _, rfl, hu, v, w, rfl, hv, hw⟩
      · exact ⟨u, v, w, rfl, hu, .inl hv, hw⟩
      · exact ⟨u, v, w, rfl, hu, .inr hv, hw⟩
    refine ⟨u, v ++ w, rfl, hu, ?_⟩
    rw [finishes_ofList_cons (by simp), hending.finishes_iff]
    refine ⟨v, w, rfl, hv, ?_⟩
    rw [finishes_letters (by simp)]
    refine ⟨w, [], by simp, hw, ?_⟩
    simp [Node.ofList, Place.holds, wholeMarks, Marks.set, Nat.add_assoc]

/-- A pattern that has at most one run over a text. -/
theorem replaceFirst?_eq_some_iff {p : Pattern} {accepts : Prop} {marks : Marks}
    {replacement subject s : String} (hregular : p.root.isRegular = true)
    (h : ∀ m, p.root.Occurs 0 none subject.toList m ↔ accepts ∧ m = marks) :
    p.replaceFirst? (Template.read replacement) subject = some s ↔
      accepts ∧ s = p.filled replacement ⟨subject.toList, marks⟩ := by
  simp only [replaceFirst?, Option.map_eq_some_iff, Node.find?_eq_some_iff hregular h]
  constructor
  · rintro ⟨_, ⟨haccepts, rfl⟩, rfl⟩
    exact ⟨haccepts, rfl⟩
  · rintro ⟨haccepts, rfl⟩
    exact ⟨_, ⟨haccepts, rfl⟩, rfl⟩

theorem filled_whole (p : Pattern) {replacement : String}
    (hread : Template.read replacement = replacement.toList.map Piece.char) (cs : List Char) :
    p.filled replacement ⟨cs, wholeMarks cs.length⟩ = replacement := by
  have hbefore : (⟨cs, wholeMarks cs.length⟩ : Match).before = [] := rfl
  have hafter : (⟨cs, wholeMarks cs.length⟩ : Match).after = [] := List.drop_length
  rw [filled, hbefore, hafter, hread]
  simp [Template.fill, List.flatMap_map]

theorem filled_group (p : Pattern) {replacement lead : String}
    (hread : Template.read replacement = lead.toList.map Piece.char ++ [Piece.number 1])
    (w rest : List Char) :
    p.filled replacement ⟨w ++ rest, groupMarks w.length (w ++ rest).length⟩ =
      lead ++ String.ofList rest := by
  obtain ⟨m, hm⟩ : ∃ m : Match, m = ⟨w ++ rest, groupMarks w.length (w ++ rest).length⟩ :=
    ⟨_, rfl⟩
  have hbefore : m.before = [] := hm ▸ rfl
  have hafter : m.after = [] := hm ▸ List.drop_length
  have hgroup : m.group 1 = rest := by
    have hbounds : m.group 1 = ((w ++ rest).take (w ++ rest).length).drop w.length := hm ▸ rfl
    rw [hbounds, List.take_length, List.drop_left]
  have hfill : Template.fill m.group (p.names.lookup ·) (Template.read replacement) =
      (lead ++ String.ofList rest).toList := by
    rw [hread, Template.fill, List.flatMap_append]
    simp [List.flatMap_map, hgroup]
  rw [← hm, filled, hbefore, hfill, hafter, List.nil_append, List.append_nil, String.ofList_toList]

/-- A pattern of a word with a group behind it keeps the text of the group. -/
theorem replaceFirst?_group_eq_some_iff {body : Node} {accepts : List Char → Prop}
    {replacement lead subject s : String}
    (hregular : (anchored source word [.group 1 body, .place .textEnd]).root.isRegular = true)
    (hbody : body.Takes accepts)
    (hread : Template.read replacement = lead.toList.map Piece.char ++ [Piece.number 1]) :
    (anchored source word [.group 1 body, .place .textEnd]).replaceFirst?
        (Template.read replacement) subject = some s ↔
      ∃ w rest, subject = w ++ rest ∧ Text.Spells word.toList w.toList ∧ accepts rest.toList ∧
        s = lead ++ rest := by
  have hoccurs : ∀ m,
      (anchored source word [.group 1 body, .place .textEnd]).root.Occurs 0 none
        subject.toList m ↔
      (∃ w rest, subject.toList = w ++ rest ∧ Text.Spells word.toList w ∧ accepts rest) ∧
        m = groupMarks word.toList.length subject.toList.length := by
    intro m
    rw [occurs_anchored_group hbody]
    constructor
    · rintro ⟨w, rest, hname, hw, hrest, rfl⟩
      exact ⟨⟨w, rest, hname, hw, hrest⟩, by rw [hw.length_eq]⟩
    · rintro ⟨⟨w, rest, hname, hw, hrest⟩, rfl⟩
      exact ⟨w, rest, hname, hw, hrest, by rw [hw.length_eq]⟩
  rw [replaceFirst?_eq_some_iff hregular hoccurs]
  constructor
  · rintro ⟨⟨w, rest, hname, hw, hrest⟩, rfl⟩
    refine ⟨String.ofList w, String.ofList rest, ?_, by simpa using hw, by simpa using hrest, ?_⟩
    · rw [← String.toList_inj, hname]
      simp
    · rw [hname, ← hw.length_eq]
      exact filled_group _ hread w rest
  · rintro ⟨w, rest, rfl, hw, hrest, rfl⟩
    refine ⟨⟨w.toList, rest.toList, String.toList_append, hw, hrest⟩, ?_⟩
    rw [String.toList_append, ← hw.length_eq, filled_group _ hread, String.ofList_toList]

theorem replaceFirst?_price_eq_some_iff {subject s : String} :
    price.replaceFirst? (Template.read "price_$\x7b1\x7d") subject = some s ↔
      ∃ w code, subject = w ++ code ∧ Text.Spells "price.".toList w.toList ∧
        IsCurrencyCode code ∧ s = "price_" ++ code := by
  rw [price, replaceFirst?_group_eq_some_iff (by decide +kernel) (takes_times_char _ _ _)
    (by decide +kernel : _ = "price_".toList.map _ ++ _), funext contains_codeLetters]
  rfl

end Pattern

namespace MappingRule

variable {name s p code source word replacement : String}

/-- A rule for a word replaces its spellings. -/
theorem replaced?_ofWord_eq_some_iff
    (hregular : (Pattern.ofWord source word).root.isRegular = true)
    (hread : Pattern.Template.read replacement = replacement.toList.map Pattern.Piece.char) :
    (ofWord source word replacement).replaced? name = some s ↔
      Text.Spells word.toList name.toList ∧ s = replacement := by
  rw [ofWord, replaced?_ofPattern_false,
    Pattern.replaceFirst?_eq_some_iff hregular fun m => Pattern.occurs_ofWord,
    Pattern.filled_whole _ hread]

theorem replaced?_subtree_eq_some_iff : subtree.replaced? name = some s ↔
    (Text.Spells "category.subtree".toList name.toList ∨
      Text.Spells "categories.subtree".toList name.toList) ∧ s = "__outline" := by
  rw [subtree, replaced?_ofPattern_false,
    Pattern.replaceFirst?_eq_some_iff (by decide +kernel) fun m => Pattern.occurs_subtree,
    Pattern.filled_whole _ (by decide +kernel)]

/-- The rule for properties replaces their names by what stands behind the word. -/
theorem replaced?_properties_eq_some_iff :
    properties.replaced? name = some s ↔ IsProperty name s := by
  rw [properties, replaced?_ofPattern_false, Pattern.properties,
    Pattern.replaceFirst?_group_eq_some_iff (by decide +kernel)
      (Pattern.takes_times_char_free _ _) (by decide +kernel : _ = "".toList.map _ ++ _)]
  have hline : ∀ rest : String,
      (rest.toList ≠ [] ∧ rest.toList.all (CharSet.compl (.single '\n')).contains = true) ↔
        rest ≠ "" ∧ '\n' ∉ rest.toList := by
    intro rest
    rw [← String.toList_inj.ne]
    refine and_congr Iff.rfl ?_
    simp [CharSet.contains, List.forall_mem_ne]
  simp only [hline, String.empty_append]
  constructor
  · rintro ⟨w, rest, hname, hw, hrest, rfl⟩
    exact ⟨w, hname, hw, hrest⟩
  · rintro ⟨w, hname, hw, hrest⟩
    exact ⟨w, s, hname, hw, hrest, rfl⟩

/-! ## Prices -/

theorem spells_price_iff {w : List Char} :
    Text.Spells "price.".toList w ↔ ∃ p, Text.same p "price" = true ∧ w = (p ++ ".").toList := by
  rw [Text.spells_iff_of_ascii (by decide)]
  constructor
  · intro h
    obtain ⟨p, dot, rfl, hp, hdot⟩ := List.map_eq_append_iff.1
      (h.trans (by rfl : _ = "price".toList.map Char.toLower ++ ['.']))
    obtain ⟨c, rfl, hc⟩ := List.map_eq_singleton_iff.1 hdot
    -- Nothing but the full stop itself is lowered to it.
    have hlower := Text.toNat_toLower c
    rw [hc, show '.'.toNat = 0x2E from rfl] at hlower
    have hstop : c.toNat = 0x2E := by split at hlower <;> omega
    obtain rfl : c = '.' := Char.toNat_inj.1 hstop
    exact ⟨String.ofList p, by simpa [Text.same_iff, Text.fold] using hp, by simp⟩
  · rintro ⟨p, hp, rfl⟩
    rw [Text.same_iff, Text.fold] at hp
    simp [hp, Text.fold]

theorem lowercase_price (hcode : IsCurrencyCode code) :
    Text.lowercase ("price_" ++ code) = "price_" ++ Text.lowercase code := by
  have hsigma : 'Σ' ∉ code.toList := fun h => absurd (List.all_eq_true.1 hcode.2 _ h) (by decide)
  rw [Text.lowercase_append (by decide) hsigma, show Text.lowercase "price_" = "price_" by
    decide +kernel]

/-- The rule for prices replaces a spelling of `price`, a full stop and a code. -/
theorem replaced?_price_eq_some_iff {field : String} : price.replaced? name = some field ↔
    ∃ p code, Text.same p "price" = true ∧ IsCurrencyCode code ∧ name = p ++ "." ++ code ∧
      field = "price_" ++ Text.lowercase code := by
  simp only [price, replaced?_ofPattern, Option.map_eq_some_iff,
    Pattern.replaceFirst?_price_eq_some_iff, if_true]
  constructor
  · rintro ⟨_, ⟨w, code, rfl, hw, hcode, rfl⟩, rfl⟩
    obtain ⟨p, hp, hword⟩ := spells_price_iff.1 hw
    obtain rfl := String.toList_inj.1 hword
    exact ⟨p, code, hp, hcode, rfl, lowercase_price hcode⟩
  · rintro ⟨p, code, hp, hcode, rfl, rfl⟩
    exact ⟨_, ⟨p ++ ".", code, rfl, spells_price_iff.2 ⟨p, hp, rfl⟩, hcode, rfl⟩,
      lowercase_price hcode⟩

/-- Behind a spelling of `price` and a full stop the rule accepts the codes. -/
theorem isSome_replaced?_price_iff (hp : Text.same p "price" = true) :
    (price.replaced? (p ++ "." ++ code)).isSome = true ↔ IsCurrencyCode code := by
  constructor
  · intro h
    obtain ⟨field, hfield⟩ := Option.isSome_iff_exists.1 h
    obtain ⟨q, code', hq, hcode', hname, -⟩ := replaced?_price_eq_some_iff.1 hfield
    have hlength : p.toList.length = q.toList.length :=
      (Text.length_of_same hp).trans (Text.length_of_same hq).symm
    have hparts : p.toList ++ '.' :: code.toList = q.toList ++ '.' :: code'.toList := by
      simpa using congrArg String.toList hname
    obtain ⟨-, hcode⟩ := List.append_inj hparts hlength
    rwa [String.toList_inj.1 (List.cons.inj hcode).2]
  · intro hcode
    rw [replaced?_price_eq_some_iff.2 ⟨p, code, hp, hcode, rfl, rfl⟩]
    rfl

end MappingRule

end FacetedSearch
