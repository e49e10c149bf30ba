import FacetedSearch.Filter.Canonical

/-!
# Term tokens

A term can be typed as a token such as `color:red,blue`. The field ends at the first colon, so
values may contain colons; blank ends of the field and of the values do not count, and empty
values are left out.

## Main definitions

* `Filter.tokenValues` — the values behind the colon.
* `Filter.ofToken?` — the term of a token; none without a field or without a value.
-/

namespace FacetedSearch

namespace Filter

/-- The values of a comma-separated list. -/
def tokenValues (cs : List Char) : List String :=
  (((Text.pieces (· == ',') cs).map Text.strip).filter (!·.isEmpty)).map
    fun v => String.ofList (restoreCommas v)

def ofToken? (token : String) : Option Filter := do
  let (name, rest) ← Text.cut (· == ':') token.toList
  let field := Text.strip name
  let values := tokenValues rest
  if field.isEmpty || values.isEmpty then none
  else some (.term (String.ofList field) values)

example : ofToken? " url : http://x, ,a%x2Cb " = some (.term "url" ["http://x", "a,b"]) := by
  decide +kernel
example : ofToken? "color: , " = none := by decide +kernel

/-! ## Laws -/

/-- A token is a term when there is something in front of its first colon and a value behind it. -/
theorem ofToken?_eq_some_iff {token : String} {f : Filter} : ofToken? token = some f ↔
    ∃ name rest, token.toList = name ++ ':' :: rest ∧ ':' ∉ name ∧ Text.strip name ≠ [] ∧
      tokenValues rest ≠ [] ∧ f = .term (String.ofList (Text.strip name)) (tokenValues rest) := by
  simp only [ofToken?, Option.bind_eq_bind, Option.bind_eq_some_iff, Prod.exists,
    Text.cut_beq_eq_some_iff]
  refine exists₂_congr fun name rest => ?_
  rw [and_assoc]
  refine and_congr_right fun _ => and_congr_right fun _ => ?_
  by_cases hname : Text.strip name = []
  · simp [hname]
  · by_cases hrest : tokenValues rest = []
    · simp [hrest]
    · simpa [hname, hrest] using eq_comm

theorem tokenValues_eq_nil_iff {cs : List Char} : tokenValues cs = [] ↔
    ∀ piece ∈ Text.pieces (· == ',') cs, piece.all Text.isBlank = true := by
  rw [tokenValues, List.map_eq_nil_iff, List.filter_eq_nil_iff, List.forall_mem_map]
  simp only [Bool.not_eq_true, Bool.not_eq_false', List.isEmpty_iff, Text.strip_eq_nil_iff]

/-- What is written for the values of a term holds a value when one of them is not blank. -/
theorem tokenValues_written_ne_nil_iff {values : List String} :
    tokenValues (writtenValues values) ≠ [] ↔ ∃ v ∈ values, Text.blank v = false := by
  by_cases hvalues : values = []
  · subst hvalues
    simp [tokenValues_eq_nil_iff, writtenValues, List.intercalate, Text.pieces]
  · rw [Ne, tokenValues_eq_nil_iff, pieces_writtenValues hvalues]
    simp only [List.forall_mem_map, all_isBlank_escapeCommas]
    simp [Text.blank]

end Filter

end FacetedSearch
