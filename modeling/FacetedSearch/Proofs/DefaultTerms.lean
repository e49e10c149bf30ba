import FacetedSearch.Proofs.CompiledRequest
import FacetedSearch.Proofs.FilterMeaning

/-!
# Default terms

A default term gives way to the conjuncts that are named by its field. A parsed term with a
pattern among its values becomes a choice, which has no name, so a default term on its field
stays beside it and narrows what the query has selected.

## Main definitions

* `Filter.selectedField?` — the field of the index that a parsed filter is meant for.
* `Filter.HasPattern` — terms that become choices.
* `FieldMapper.tokenField?` — the field of the index that a token is meant for.
* `Config.withoutDefaultsOn` — a configuration without the default terms on some fields.
-/

namespace FacetedSearch

/-- The field of the index that a parsed filter is meant for. -/
def Filter.selectedField? (mapper : FieldMapper) (currency : Option String) :
    Filter → Option String
  | .term field _ | .wildcard field _ => some (mapper.mapName field)
  | .range field _ => some (fieldInCurrency currency (mapper.mapName field))
  | .ids _ | .all _ | .any _ => none

def Filter.HasPattern : Filter → Prop
  | .term _ values => ∃ v ∈ values, '*' ∈ v.toList ∨ '?' ∈ v.toList
  | _ => False

/-- The fields of the index that the filters of an expression are meant for. -/
def Parsed.selectedFields (parsed : Parsed) (mapper : FieldMapper) (currency : Option String) :
    List String :=
  parsed.filters.filterMap (Filter.selectedField? mapper currency)

/-- The field of the index that a token is meant for; none when the token is no term. -/
def FieldMapper.tokenField? (mapper : FieldMapper) (token : String) : Option String :=
  ((Filter.ofToken? token).map mapper.mapFilter).bind Filter.fieldName?

/-- There is a name, and it is that of a field up to ASCII case. -/
def Names (name? : Option String) (field : String) : Prop :=
  ∃ name ∈ name?, Text.fold name = Text.fold field

/-- There is a name, and it is that of one of the fields up to ASCII case. -/
def namesOneOf (fields : List String) (name? : Option String) : Bool :=
  name?.any fun name => fields.any (Text.same · name)

def Config.withDefaults (tokens : List String) (config : Config) : Config :=
  { config with search := { config.search with defaultTerms := tokens } }

def Catalog.withDefaults (tokens : List String) (catalog : Catalog) : Catalog :=
  { catalog with config := catalog.config.withDefaults tokens }

/-- A configuration without the default terms that are meant for one of the fields, up to ASCII
case. -/
def Config.withoutDefaultsOn (mapper : FieldMapper) (fields : List String) (config : Config) :
    Config :=
  config.withDefaults (config.search.defaultTerms.filter fun token =>
    !namesOneOf fields (mapper.tokenField? token))

/-! ## Names of conjuncts -/

section Names

variable {mapper : FieldMapper} {currency : Option String} {field : String}

/-- A compiled filter keeps the name of the field for which it is meant, unless it has become a
choice. -/
theorem Filter.mem_fieldName?_compile {f : Filter} {name : String} :
    name ∈ (f.compile mapper currency).fieldName? ↔
      name ∈ f.selectedField? mapper currency ∧ ¬ f.HasPattern := by
  cases f with
  | term field values =>
    have hpattern : (term field values).HasPattern ↔ values.filter isWildcard ≠ [] := by
      simp [HasPattern, ← isWildcard_iff, List.filter_eq_nil_iff]
    rw [hpattern, not_not, compile]
    by_cases hnil : values.filter isWildcard = []
    · rw [splitWildcards_of_eq_nil hnil]
      simp [fieldName?, selectedField?, hnil]
    · rw [splitWildcards_of_ne_nil hnil]
      simp [fieldName?, hnil]
  | range field intervals =>
    simp [compile, fieldName?, selectedField?, HasPattern, rangeField_eq_fieldInCurrency]
  | _ => simp [compile, fieldName?, selectedField?, HasPattern]

theorem any_filterMap_same_iff {α : Type} {xs : List α} {name? : α → Option String} :
    (xs.filterMap name?).any (Text.same · field) = true ↔ ∃ x ∈ xs, Names (name? x) field := by
  simp only [List.any_eq_true, List.mem_filterMap, Text.same_iff, Names, Option.mem_def]
  constructor
  · rintro ⟨name, ⟨x, hx, hname⟩, hfold⟩
    exact ⟨x, hx, name, hname, hfold⟩
  · rintro ⟨x, hx, name, hname, hfold⟩
    exact ⟨name, ⟨x, hx, hname⟩, hfold⟩

theorem Draft.filterMap_fieldName?_termsOf (mapper : FieldMapper) (tokens : List String) :
    (termsOf mapper tokens).filterMap Filter.fieldName? = tokens.filterMap mapper.tokenField? :=
  List.filterMap_filterMap

theorem Filter.exists_mem_map_compile {fs : List Filter} :
    (∃ g ∈ fs.map (compile mapper currency), Names g.fieldName? field) ↔
      ∃ f ∈ fs, ¬ f.HasPattern ∧ Names (f.selectedField? mapper currency) field := by
  constructor
  · rintro ⟨_, hg, name, hname, hfold⟩
    obtain ⟨f, hf, rfl⟩ := List.mem_map.1 hg
    obtain ⟨hname, hpattern⟩ := mem_fieldName?_compile.1 hname
    exact ⟨f, hf, hpattern, name, hname, hfold⟩
  · rintro ⟨f, hf, hpattern, name, hname, hfold⟩
    exact ⟨_, List.mem_map_of_mem hf, name, mem_fieldName?_compile.2 ⟨hname, hpattern⟩, hfold⟩

/-- What a query adds to the root names a field by a token, or by a filter of its expression that
has not become a choice. -/
theorem Query.constrains_conjuncts_iff {query : Query} {parsed : Parsed} :
    Conjunction.constrains ⟨query.conjuncts mapper parsed⟩ field = true ↔
      (∃ token ∈ query.terms, Names (mapper.tokenField? token) field) ∨
      ∃ f ∈ parsed.filters, ¬ f.HasPattern ∧
        Names (f.selectedField? mapper (query.currency.bind Draft.nonBlank)) field := by
  have hids : ¬ ∃ g ∈ Draft.idsOf query.objectIds, Names g.fieldName? field := by
    unfold Draft.idsOf
    split <;> simp [Filter.fieldName?, Names]
  have hterms : (∃ g ∈ Draft.termsOf mapper query.terms, Names g.fieldName? field) ↔
      ∃ token ∈ query.terms, Names (mapper.tokenField? token) field := by
    rw [← any_filterMap_same_iff, Draft.filterMap_fieldName?_termsOf, any_filterMap_same_iff]
  rw [Conjunction.constrains, any_filterMap_same_iff, ← hterms, ← Filter.exists_mem_map_compile]
  simp only [Query.conjuncts, List.mem_append, or_and_right, exists_or]
  rw [or_iff_right hids]

end Names

/-! ## Dropped offers -/

namespace Conjunction

variable {root : Conjunction} {e f : Filter} {fs : List Filter}

theorem any_constrains_push_iff :
    f.fieldName?.any (root.push e).constrains = true ↔
      f.fieldName?.any root.constrains = true ∨ e.SharesField f := by
  simp only [any_constrains_iff, conjuncts_push, List.mem_append, List.mem_singleton,
    or_and_right, exists_or, exists_eq_left]

/-- A filter that is offered on a new field is taken, or another one on its field is. -/
theorem exists_mem_newTo (hf : f ∈ fs) (hnew : ¬ f.fieldName?.any root.constrains = true) :
    ∃ g ∈ root.newTo fs, g = f ∨ g.SharesField f := by
  induction fs generalizing root with
  | nil => exact (List.not_mem_nil hf).elim
  | cons e fs ih =>
    by_cases he : e.fieldName?.any root.constrains = true
    · rw [newTo, if_pos he]
      rcases List.mem_cons.1 hf with rfl | hf
      · exact (hnew he).elim
      · exact ih hf hnew
    · rw [newTo, if_neg he]
      rcases List.mem_cons.1 hf with rfl | hf
      · exact ⟨f, List.mem_cons_self, .inl rfl⟩
      · by_cases hshare : e.SharesField f
        · exact ⟨e, List.mem_cons_self, .inr hshare⟩
        · have hnew' : ¬ f.fieldName?.any (root.push e).constrains = true :=
            fun h => (any_constrains_push_iff.1 h).elim hnew hshare
          obtain ⟨g, hg, hgf⟩ := ih hf hnew'
          exact ⟨g, List.mem_cons_of_mem e hg, hgf⟩

/-- Dropping all offers on some fields beforehand makes no difference exactly when none of them
is on a new field. -/
theorem newTo_filter_eq_iff {keep : Filter → Bool}
    (hkeep : ∀ f g : Filter, f.SharesField g → keep f = keep g) :
    root.newTo (fs.filter keep) = root.newTo fs ↔
      ∀ f ∈ fs, keep f = false → f.fieldName?.any root.constrains = true := by
  constructor
  · intro heq f hf hdrop
    by_contra hnew
    obtain ⟨g, hg, hgf⟩ := exists_mem_newTo hf hnew
    have hkept : keep g = true := by
      rw [← heq] at hg
      exact (List.mem_filter.1 (mem_of_mem_newTo hg)).2
    have hsame : keep g = keep f := hgf.elim (congrArg keep) (hkeep g f)
    rw [hsame, hdrop] at hkept
    exact Bool.false_ne_true hkept
  · intro hold
    induction fs generalizing root with
    | nil => rfl
    | cons e fs ih =>
      have hrest : ∀ f ∈ fs, keep f = false → f.fieldName?.any root.constrains = true :=
        fun f hf => hold f (List.mem_cons_of_mem e hf)
      by_cases he : keep e = true
      · rw [List.filter_cons_of_pos he, newTo, newTo, ih hrest]
        split
        · rfl
        · rw [ih fun f hf hdrop => any_constrains_push_iff.2 (.inl (hrest f hf hdrop))]
      · have hfield := hold e List.mem_cons_self (Bool.not_eq_true _ ▸ he)
        rw [List.filter_cons_of_neg he, newTo, if_pos hfield, ih hrest]

end Conjunction

/-! ## Fewer default terms -/

theorem Filter.SharesField.namesOneOf_eq {f g : Filter} (h : f.SharesField g)
    (fields : List String) : namesOneOf fields f.fieldName? = namesOneOf fields g.fieldName? := by
  obtain ⟨name, hname, name', hname', hfold⟩ := h
  have hsame : (Text.same · name) = (Text.same · name') := by
    funext field
    simp only [Text.same, hfold]
  rw [Option.mem_def.1 hname, Option.mem_def.1 hname', namesOneOf, namesOneOf, Option.any_some,
    Option.any_some, hsame]

theorem namesOneOf_imp_iff {fields : List String} {test : String → Bool}
    {name? : Option String} :
    ((!namesOneOf fields name?) = false → name?.any test = true) ↔
      ∀ name, name? = some name → fields.any (Text.same · name) = true → test name = true := by
  unfold namesOneOf
  cases name? <;> simp

theorem Draft.termsOf_filter (mapper : FieldMapper) (fields tokens : List String) :
    termsOf mapper (tokens.filter fun token => !namesOneOf fields (mapper.tokenField? token)) =
      (termsOf mapper tokens).filter fun f => !namesOneOf fields f.fieldName? := by
  rw [termsOf, termsOf, List.filterMap_filter, List.filter_filterMap]
  congr 1
  funext token
  unfold FieldMapper.tokenField?
  cases (Filter.ofToken? token).map mapper.mapFilter with
  | none => simp
  | some f => rfl

namespace Catalog

variable {config : Config} {compiler : PatternCompiler} {parser : ExpressionParser}
  {provider : Provider} {catalog : Catalog} {query : Query} {request : Request}
  {filters facets : Parsed}

theorem ofConfig_withDefaults (h : ofConfig config compiler parser provider = .ok catalog)
    (tokens : List String) : ofConfig (config.withDefaults tokens) compiler parser provider =
      .ok (catalog.withDefaults tokens) := by
  obtain ⟨hvalid, mapper, hmapper, rfl⟩ := ofConfig_eq_ok_iff.1 h
  exact ofConfig_eq_ok_iff.2 ⟨hvalid, mapper, hmapper, rfl⟩

/-- Other default terms make no difference to a request exactly when those that are new to the
query are the same. -/
theorem requestOf_withDefaults_eq_iff (catalog : Catalog) (query : Query)
    (filters facets : Parsed) (tokens : List String) :
    (catalog.withDefaults tokens).requestOf query filters facets =
        catalog.requestOf query filters facets ↔
      Conjunction.newTo ⟨query.conjuncts catalog.mapper filters⟩
          (Draft.termsOf catalog.mapper tokens) =
        Conjunction.newTo ⟨query.conjuncts catalog.mapper filters⟩
          (Draft.termsOf catalog.mapper catalog.config.search.defaultTerms) := by
  constructor
  · intro h
    have hroot := congrArg (·.filter.conjuncts) h
    simp only [conjuncts_requestOf] at hroot
    exact List.append_cancel_left hroot
  · intro h
    have hdraft : ((catalog.prepare query).acceptFilters filters).addTerms tokens true =
        ((catalog.prepare query).acceptFilters filters).addTerms
          catalog.config.search.defaultTerms true := by
      rw [Draft.addTerms_true, Draft.addTerms_true, filter_acceptFilters_prepare,
        mapper_acceptFilters_prepare, h]
    unfold requestOf
    rw [← hdraft]
    rfl

/-- Without the default terms on the fields for which the filters of an expression are meant, a
query has the same request exactly when each of these fields is named beside it: by a token of
the query, or by a filter of the expression without a pattern. A term with a pattern does not keep
a default term on its field out. -/
theorem compile_withoutDefaultsOn_iff
    (hcatalog : ofConfig config compiler parser provider = .ok catalog)
    (hrequest : (catalog.compile query).result = .ok request) :
    let mapper := catalog.mapper
    let currency := query.currency.bind Draft.nonBlank
    ∃ parsed catalog' request', parser.found (query.filter.getD "") = .ok parsed ∧
      ofConfig (config.withoutDefaultsOn mapper (parsed.selectedFields mapper currency)) compiler
        parser provider = .ok catalog' ∧
      (catalog'.compile query).result = .ok request' ∧
      (request' = request ↔
        ∀ token ∈ config.search.defaultTerms, ∀ field ∈ mapper.tokenField? token,
          (∃ f ∈ parsed.filters, Names (f.selectedField? mapper currency) field) →
          (∃ own ∈ query.terms, Names (mapper.tokenField? own) field) ∨
            ∃ f ∈ parsed.filters, ¬ f.HasPattern ∧
              Names (f.selectedField? mapper currency) field) := by
  intro mapper currency
  obtain ⟨-, _, -, hcatalog_eq⟩ := ofConfig_eq_ok_iff.1 hcatalog
  obtain ⟨filters, facets, hfilters, hfacets, rfl⟩ := result_compile_eq_ok_iff.1 hrequest
  have hconfig : catalog.config = config := by rw [hcatalog_eq]
  have hparser : catalog.parser = parser := by rw [hcatalog_eq]
  refine ⟨filters, _, _, hparser ▸ hfilters, ofConfig_withDefaults hcatalog _,
    result_compile_eq_ok_iff.2 ⟨filters, facets, hfilters, hfacets, rfl⟩, ?_⟩
  rw [requestOf_withDefaults_eq_iff, hconfig, Draft.termsOf_filter,
    Conjunction.newTo_filter_eq_iff fun _ _ hshare => by rw [hshare.namesOneOf_eq]]
  -- Both sides say something of the fields of the default terms, one by one.
  simp only [namesOneOf_imp_iff]
  rw [← List.forall_mem_filterMap, Draft.filterMap_fieldName?_termsOf, List.forall_mem_filterMap]
  refine forall₄_congr fun _ _ field _ => ?_
  rw [Query.constrains_conjuncts_iff]
  exact imp_congr_left any_filterMap_same_iff

/-- A wildcard is named by its field, so the default color has given way to it already. -/
theorem compile_withoutDefaultsOn_iff_wildcard :
    let config : Config := { search := { defaultTerms := ["color:red", "status:visible"] } }
    let parsed : Parsed := { filters := [.wildcard "Color" "bl*"] }
    let parser : ExpressionParser := fun _ => .ok parsed
    let provider : Provider := fun _ => .error (.provider "closed")
    let catalog : Catalog := ⟨config, .catalog, parser, provider⟩
    let query : Query := { filter := some "color" }
    let request := catalog.requestOf query parsed {}
    ofConfig config Pattern.compile parser provider = .ok catalog ∧
      (catalog.compile query).result = .ok request ∧
      ∃ catalog', ofConfig (config.withoutDefaultsOn .catalog ["Color"]) Pattern.compile parser
          provider = .ok catalog' ∧
        (catalog'.compile query).result = .ok request := by
  intro config parsed parser provider catalog query request
  have hcatalog : ofConfig config Pattern.compile parser provider = .ok catalog :=
    ofConfig_eq_ok_iff.2 ⟨by decide, _, rfl, rfl⟩
  have hrequest : (catalog.compile query).result = .ok request :=
    result_compile_eq_ok_iff.2 ⟨_, _, by decide, by decide, rfl⟩
  refine ⟨hcatalog, hrequest, ?_⟩
  obtain ⟨found, catalog', request', hfound, hcatalog', hrequest', hiff⟩ :=
    compile_withoutDefaultsOn_iff hcatalog hrequest
  have hparsed : parser.found "color" = .ok parsed := by decide
  obtain rfl := Except.ok.inj (hparsed.symm.trans hfound)
  have hfields : parsed.selectedFields .catalog none = ["Color"] := by decide +kernel
  rw [hiff.2 ?_] at hrequest'
  · exact ⟨catalog', hfields ▸ hcatalog', hrequest'⟩
  · rintro _ - field - ⟨f, hf, hnames⟩
    obtain rfl := List.mem_singleton.1 hf
    exact .inr ⟨_, hf, id, hnames⟩

/-- A term with a pattern has become a choice, beside which the default color stays. -/
theorem compile_withoutDefaultsOn_ne_of_pattern :
    let config : Config := { search := { defaultTerms := ["color:red"] } }
    let parsed : Parsed := { filters := [.term "color" ["bl*"]] }
    let parser : ExpressionParser := fun _ => .ok parsed
    let provider : Provider := fun _ => .error (.provider "closed")
    let query : Query := { filter := some "color:bl*" }
    ∃ catalog request catalog' request',
      ofConfig config Pattern.compile parser provider = .ok catalog ∧
      (catalog.compile query).result = .ok request ∧
      ofConfig (config.withoutDefaultsOn catalog.mapper
        (parsed.selectedFields catalog.mapper none)) Pattern.compile parser provider =
          .ok catalog' ∧
      (catalog'.compile query).result = .ok request' ∧
      request.filter.conjuncts = [.any [.wildcard "color" "bl*"], .term "color" ["red"]] ∧
      request'.filter.conjuncts = [.any [.wildcard "color" "bl*"]] ∧ request' ≠ request := by
  intro config parsed parser provider query
  let catalog : Catalog := ⟨config, .catalog, parser, provider⟩
  have hcatalog : ofConfig config Pattern.compile parser provider = .ok catalog :=
    ofConfig_eq_ok_iff.2 ⟨by decide, _, rfl, rfl⟩
  have hfilters : parser.found "color:bl*" = .ok parsed := by decide
  have hfacets : parser.found "" = .ok {} := by decide
  have hrequest : (catalog.compile query).result = .ok (catalog.requestOf query parsed {}) :=
    result_compile_eq_ok_iff.2 ⟨_, _, hfilters, hfacets, rfl⟩
  have hrequest' : ∀ tokens, ((catalog.withDefaults tokens).compile query).result =
      .ok ((catalog.withDefaults tokens).requestOf query parsed {}) :=
    fun _ => result_compile_eq_ok_iff.2 ⟨_, _, hfilters, hfacets, rfl⟩
  refine ⟨catalog, _, _, _, hcatalog, hrequest, ofConfig_withDefaults hcatalog _, hrequest' _, ?_⟩
  decide +kernel

end Catalog

end FacetedSearch
