import FacetedSearch.Proofs.DraftSteps
import Mathlib.Data.List.Basic
import Mathlib.Tactic.TFAE

/-!
# Terms as they are written

The written form of a term serves as the id of its facet, and it can be typed as a token. It tells
terms apart as long as nothing in a value looks like an escaped comma, whatever else the values
hold. It is read back where a token could have carried the field and the values in the first place.

## Main definitions

* `Filter.IsPlainTerm` — a term whose written form is no other's.
* `Filter.IsTokenTerm` — a term that a token can stand for.
-/

namespace FacetedSearch

namespace Filter

/-- The field can be told from the values, of which there are some, and each comma that is read in
a value was written for one. -/
structure IsPlainTerm (field : String) (values : List String) : Prop where
  colon : ':' ∉ field.toList
  nonempty : values ≠ []
  unescaped : ∀ v ∈ values, ¬ escapedComma <:+: v.toList

/-- A value without blank ends in which every comma has been read. -/
structure IsTokenValue (v : String) : Prop where
  nonempty : v ≠ ""
  trimmed : Text.trim v = v
  unescaped : ¬ escapedComma <:+: v.toList

/-- The field and the values could have come from a token: nothing is empty or missing, nothing has
blank ends, and the field ends before the first colon. -/
structure IsTokenTerm (field : String) (values : List String) : Prop where
  field_nonempty : field ≠ ""
  field_trimmed : Text.trim field = field
  colon : ':' ∉ field.toList
  nonempty : values ≠ []
  values : ∀ v ∈ values, IsTokenValue v

variable {field token : String} {values : List String} {f : Filter}

/-! ## Reading what is written -/

theorem restoreCommas_escaped {v : String} (h : ¬ escapedComma <:+: v.toList) :
    String.ofList (restoreCommas (escapeCommas v.toList)) = v := by
  rw [restoreCommas_escapeCommas h, String.ofList_toList]

/-- The values are those of the pieces. -/
theorem IsPlainTerm.map_pieces (h : IsPlainTerm field values) :
    (Text.pieces (· == ',') (writtenValues values)).map
      (fun p => String.ofList (restoreCommas p)) = values := by
  rw [pieces_writtenValues h.nonempty, List.map_map]
  exact (List.map_congr_left fun v hv => restoreCommas_escaped (h.unescaped v hv)).trans
    (List.map_id _)

/-- The written form tells plain terms apart. -/
theorem IsPlainTerm.eq_of_canonical_eq {field' : String} {values' : List String}
    (h : IsPlainTerm field values) (h' : IsPlainTerm field' values')
    (hsame : (term field values).canonical = (term field' values').canonical) :
    field = field' ∧ values = values' := by
  have hcut := cut_canonical_term h.colon values
  rw [hsame, cut_canonical_term h'.colon] at hcut
  obtain ⟨hfield, hvalues⟩ := Prod.mk.inj (Option.some.inj hcut)
  refine ⟨String.toList_inj.1 hfield.symm, ?_⟩
  rw [← h.map_pieces, ← h'.map_pieces, hvalues]

/-! ## Terms of tokens -/

theorem IsTokenTerm.isPlainTerm (h : IsTokenTerm field values) : IsPlainTerm field values :=
  ⟨h.colon, h.nonempty, fun v hv => (h.values v hv).unescaped⟩

/-- Of the pieces that are written for values without blank ends there is nothing to strip or to
leave out. -/
theorem IsTokenTerm.tokenValues_written (h : IsTokenTerm field values) :
    tokenValues (writtenValues values) = values := by
  have hpieces := pieces_writtenValues h.nonempty
  have hstrip : (Text.pieces (· == ',') (writtenValues values)).map Text.strip =
      Text.pieces (· == ',') (writtenValues values) := by
    rw [hpieces, List.map_map]
    refine List.map_congr_left fun v hv => ?_
    exact strip_escapeCommas (Text.trim_eq_self_iff.1 (h.values v hv).trimmed)
  have hnonempty : (Text.pieces (· == ',') (writtenValues values)).filter (!·.isEmpty) =
      Text.pieces (· == ',') (writtenValues values) := by
    rw [List.filter_eq_self, hpieces, List.forall_mem_map]
    intro v hv
    simpa [escapeCommas_eq_nil_iff] using (h.values v hv).nonempty
  rw [tokenValues, hstrip, hnonempty, h.isPlainTerm.map_pieces]

/-- The written form of a term that a token can stand for is such a token. -/
theorem IsTokenTerm.ofToken?_canonical (h : IsTokenTerm field values) :
    ofToken? (term field values).canonical = some (term field values) := by
  have hstrip : Text.strip field.toList = field.toList := Text.trim_eq_self_iff.1 h.field_trimmed
  have hname : Text.strip field.toList ≠ [] := by
    rw [hstrip]
    simpa using h.field_nonempty
  refine ofToken?_eq_some_iff.2 ⟨field.toList, writtenValues values, toList_canonical_term ..,
    h.colon, hname, ?_, ?_⟩
  · rw [h.tokenValues_written]
    exact h.nonempty
  · rw [hstrip, h.tokenValues_written, String.ofList_toList]

theorem isTokenValue_of_mem {cs : List Char} {v : String} (h : v ∈ tokenValues cs) :
    IsTokenValue v := by
  obtain ⟨piece, hpiece, rfl⟩ := List.mem_map.1 h
  obtain ⟨hmem, hnonempty⟩ := List.mem_filter.1 hpiece
  obtain ⟨raw, -, rfl⟩ := List.mem_map.1 hmem
  constructor
  case nonempty => simpa [← String.toList_inj, restoreCommas_eq_nil_iff] using hnonempty
  case trimmed =>
    rw [Text.trim_eq_self_iff, String.toList_ofList, strip_restoreCommas (Text.strip_strip raw)]
  case unescaped =>
    rw [String.toList_ofList]
    exact not_infix_restoreCommas _

theorem isTokenTerm_of_ofToken? (h : ofToken? token = some (term field values)) :
    IsTokenTerm field values := by
  obtain ⟨name, rest, -, hcolon, hname, hvalues, hterm⟩ := ofToken?_eq_some_iff.1 h
  obtain ⟨rfl, rfl⟩ := Filter.term.inj hterm
  constructor
  case field_nonempty => simpa [← String.toList_inj] using hname
  case field_trimmed => rw [Text.trim, String.toList_ofList, Text.strip_strip]
  case colon =>
    rw [String.toList_ofList]
    exact fun hmem => hcolon ((Text.strip_sublist name).mem hmem)
  case nonempty => exact hvalues
  case values => exact fun v hv => isTokenValue_of_mem hv

/-- A token and the written form of its term stand for the same term. -/
theorem ofToken?_canonical (h : ofToken? token = some f) : ofToken? f.canonical = some f := by
  obtain ⟨name, rest, -, -, -, -, rfl⟩ := ofToken?_eq_some_iff.1 h
  exact (isTokenTerm_of_ofToken? h).ofToken?_canonical

end Filter

namespace Draft

variable {d : Draft} {mapper : FieldMapper} {fs : List Filter}

/-! ## Terms that are typed again -/

theorem termsOf_of_rules_eq_nil (h : mapper.rules = []) (tokens : List String) :
    termsOf mapper tokens = tokens.filterMap Filter.ofToken? := by
  have hmap : mapper.mapFilter = id := by
    funext f
    refine FieldMapper.mapFilter_eq_self fun name _ => FieldMapper.mapName_eq_self ?_
    rw [h]
    exact nofun
  simp only [termsOf, hmap, Option.map_id, id_eq]

/-- The written forms of terms that came from tokens are tokens for these terms. -/
theorem termsOf_canonical (h : mapper.rules = [])
    (hfs : ∀ f ∈ fs, ∃ token, Filter.ofToken? token = some f) :
    termsOf mapper (fs.map Filter.canonical) = fs := by
  rw [termsOf_of_rules_eq_nil h, List.filterMap_map]
  refine (List.filterMap_congr fun f hf => ?_).trans List.filterMap_some
  obtain ⟨token, htoken⟩ := hfs f hf
  exact Filter.ofToken?_canonical htoken

/-- What a draft without rules for names adds for tokens, it adds again for their written forms. -/
theorem addTerms_canonical (h : d.mapper.rules = []) (tokens : List String) (onlyNew : Bool) :
    let terms := tokens.filterMap Filter.ofToken?
    let added := if onlyNew then d.filter.newTo terms else terms
    d.addTerms tokens onlyNew = d.restrict added ∧
      d.addTerms (added.map Filter.canonical) onlyNew = d.restrict added ∧
      ∀ e : Draft, e.mapper.rules = [] →
        e.addTerms (added.map Filter.canonical) false = e.restrict added := by
  intro terms added
  have hterms : termsOf d.mapper tokens = terms := termsOf_of_rules_eq_nil h tokens
  have htokens : ∀ f ∈ added, ∃ token, Filter.ofToken? token = some f := by
    intro f hf
    have hmem : f ∈ terms := by
      cases onlyNew with
      | false => exact hf
      | true => exact Conjunction.mem_of_mem_newTo hf
    obtain ⟨token, -, htoken⟩ := List.mem_filterMap.1 hmem
    exact ⟨token, htoken⟩
  refine ⟨?_, ?_, fun e he => by rw [addTerms_false, termsOf_canonical he htokens]⟩
  · cases onlyNew with
    | false => rw [addTerms_false, hterms]; rfl
    | true => rw [addTerms_true, hterms]; rfl
  · cases onlyNew with
    | false => rw [addTerms_false, termsOf_canonical h htokens]
    | true =>
      rw [addTerms_true, termsOf_canonical h htokens]
      exact congrArg d.restrict (Conjunction.newTo_newTo _ _)

/-- A term is read back from its written form when it came from some token, that is, when its field
and values have no blank ends, nothing is empty or missing, the field has no colon, and no value
looks as if it had an escaped comma. So the written forms of the terms of tokens stand for the same
terms, and where names are not mapped they add the same conjuncts. -/
theorem terms_read_back :
    (∀ field values, List.TFAE [
      Filter.ofToken? (Filter.term field values).canonical = some (.term field values),
      ∃ token, Filter.ofToken? token = some (.term field values),
      Filter.IsTokenTerm field values]) ∧
    (∀ token f, Filter.ofToken? token = some f → Filter.ofToken? f.canonical = some f) ∧
    ∀ d : Draft, d.mapper.rules = [] → ∀ tokens onlyNew,
      let terms := tokens.filterMap Filter.ofToken?
      let added := if onlyNew then d.filter.newTo terms else terms
      d.addTerms tokens onlyNew = d.restrict added ∧
        d.addTerms (added.map Filter.canonical) onlyNew = d.restrict added ∧
        ∀ e : Draft, e.mapper.rules = [] →
          e.addTerms (added.map Filter.canonical) false = e.restrict added := by
  refine ⟨fun field values => ?_, fun _ _ => Filter.ofToken?_canonical,
    fun d hd => addTerms_canonical hd⟩
  tfae_have 1 → 2 := fun h => ⟨_, h⟩
  tfae_have 2 → 3 := fun ⟨_, h⟩ => Filter.isTokenTerm_of_ofToken? h
  tfae_have 3 → 1 := Filter.IsTokenTerm.ofToken?_canonical
  tfae_finish

/-- A token with blanks, an empty value and an escaped comma, and what comes back of it. -/
theorem terms_read_back_url :
    let token := " url : http://x, ,a%x2Cb "
    let url : Filter := .term "url" ["http://x", "a,b"]
    Filter.IsTokenTerm "url" ["http://x", "a,b"] ∧ url.canonical = "url:http://x,a%x2Cb" ∧
      Filter.ofToken? url.canonical = some url ∧
      (Draft.ofMapper ⟨[]⟩).addTerms [token] true = (Draft.ofMapper ⟨[]⟩).restrict [url] ∧
      (Draft.ofMapper ⟨[]⟩).addTerms [url.canonical] true =
        (Draft.ofMapper ⟨[]⟩).restrict [url] := by
  intro token url
  obtain ⟨hterms, htokens, hdrafts⟩ := terms_read_back
  have htoken : Filter.ofToken? token = some url := by decide +kernel
  have hback := htokens token url htoken
  have hadded : Conjunction.newTo {} ([token].filterMap Filter.ofToken?) = [url] := by
    decide +kernel
  have hdraft := hdrafts (Draft.ofMapper ⟨[]⟩) rfl [token] true
  simp only [if_true, show (Draft.ofMapper ⟨[]⟩).filter = {} from rfl, hadded] at hdraft
  exact ⟨((hterms _ _).out 0 2).1 hback, by decide, hback, hdraft.1, hdraft.2.1⟩

/-! ## Facets of terms -/

/-- Plain terms with one written form are the same. So in a facet expression the facet for a plain
term is kept, unless its id is that of an aggregation of another kind. -/
theorem plain_terms_apart :
    (∀ field values field' values', Filter.IsPlainTerm field values →
      Filter.IsPlainTerm field' values' →
      (Filter.term field values).canonical = (Filter.term field' values').canonical →
      field = field' ∧ values = values') ∧
    ∀ (d : Draft) (parser : ExpressionParser) expression predefined parsed,
      d.parser = some parser → parser.found expression = .ok parsed →
      ∃ e, (d.addFacets expression predefined).result = .ok e ∧
        ∀ name values, .term name values ∈ parsed.filters →
          let field := d.mapper.mapName name
          Filter.IsPlainTerm field values →
          .ofTerm field values ∈ e.aggregations ∨
            ∃ b ∈ e.aggregations, b.id = (Filter.term field values).canonical ∧
              ∀ field' values', Filter.IsPlainTerm field' values' → b ≠ .ofTerm field' values' := by
  refine ⟨fun _ _ _ _ h h' => h.eq_of_canonical_eq h', ?_⟩
  intro d parser expression predefined parsed hparser hparsed
  refine ⟨_, result_addFacets_eq_ok_iff.2 ⟨parser, parsed, hparser, hparsed, rfl⟩, ?_⟩
  intro name values hterm field hplain
  have hasked : Aggregation.ofTerm field values ∈ d.facetsOf parsed :=
    List.mem_append_left _ (List.mem_filterMap.2 ⟨_, hterm, rfl⟩)
  obtain ⟨b, hb, hid⟩ := Aggregation.exists_mem_unique (List.mem_append_right predefined hasked)
  by_cases hkind : ∃ field' values', Filter.IsPlainTerm field' values' ∧ b = .ofTerm field' values'
  · obtain ⟨field', values', hplain', rfl⟩ := hkind
    obtain ⟨rfl, rfl⟩ := hplain'.eq_of_canonical_eq hplain hid
    exact .inl hb
  · refine .inr ⟨b, hb, hid, fun field' values' hplain' heq => ?_⟩
    exact hkind ⟨field', values', hplain', heq⟩

/-- An empty value behind the beginning of an escaped comma is not taken for a comma. -/
theorem plain_terms_apart_sizes :
    let two : Filter := .term "size" ["%x2", ""]
    let one : Filter := .term "size" ["%x2,"]
    let parser : ExpressionParser := fun _ => .ok ⟨"", [two, one, two]⟩
    let d : Draft := { Draft.ofMapper ⟨[]⟩ with parser := some parser }
    two.canonical ≠ one.canonical ∧
      ∃ e, (d.addFacets "sizes" []).result = .ok e ∧
        .ofTerm "size" ["%x2", ""] ∈ e.aggregations ∧ .ofTerm "size" ["%x2,"] ∈ e.aggregations := by
  intro two one parser d
  obtain ⟨hterms, hfacets⟩ := plain_terms_apart
  have htwo : Filter.IsPlainTerm "size" ["%x2", ""] := ⟨by decide, by decide, by decide⟩
  have hone : Filter.IsPlainTerm "size" ["%x2,"] := ⟨by decide, by decide, by decide⟩
  have hfound : parser.found "sizes" = .ok ⟨"", [two, one, two]⟩ := by decide
  obtain ⟨e, he, hkept⟩ := hfacets d parser "sizes" [] _ rfl hfound
  obtain rfl : e = d.acceptFacets [] ⟨"", [two, one, two]⟩ :=
    Except.ok.inj (he.symm.trans (result_addFacets_eq_ok_iff.2 ⟨parser, _, rfl, hfound, rfl⟩))
  have hall : ∀ b ∈ (d.acceptFacets [] ⟨"", [two, one, two]⟩).aggregations,
      b = .ofTerm "size" ["%x2", ""] ∨ b = .ofTerm "size" ["%x2,"] := by
    decide +kernel
  have hnone : ∀ b ∈ (d.acceptFacets [] ⟨"", [two, one, two]⟩).aggregations,
      ¬ ∀ field values, Filter.IsPlainTerm field values → b ≠ .ofTerm field values := by
    intro b hb hother
    exact (hall b hb).elim (hother _ _ htwo) (hother _ _ hone)
  refine ⟨fun h => absurd (hterms _ _ _ _ htwo hone h).2 (by decide), _, he, ?_, ?_⟩
  · refine (hkept "size" _ (by simp [two]) htwo).resolve_right ?_
    exact fun ⟨b, hb, _, hother⟩ => hnone b hb hother
  · refine (hkept "size" _ (by simp [one]) hone).resolve_right ?_
    exact fun ⟨b, hb, _, hother⟩ => hnone b hb hother

end Draft

end FacetedSearch
