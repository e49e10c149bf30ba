import FacetedSearch.Proofs.DefaultTerms
import FacetedSearch.Proofs.WrittenTerms

/-!
# Terms on new fields

Terms that are only added on new fields join the root like the members of a set: each field that a
token is meant for gets restricted, none is restricted twice by them, and to add the same tokens
again changes nothing.

## Main definitions

* `Draft.AddsNewTerms` — the terms that tokens add to a draft when only new fields count.
-/

namespace FacetedSearch

/-- The terms that tokens add to the root of a draft. The names of fields are compared up to ASCII
case, after they are mapped. -/
structure Draft.AddsNewTerms (d : Draft) (tokens : List String) (added : List Filter) : Prop where
  /-- Each of them is the term of a token on the mapped field. -/
  terms : ∀ f ∈ added, ∃ token ∈ tokens, ∃ field values,
    Filter.ofToken? token = some (.term field values) ∧
      f = .term (d.mapper.mapName field) values ∧ values ≠ [] ∧ ∀ v ∈ values, v ≠ ""
  apart : added.Pairwise fun f g => ¬ f.SharesField g
  new : ∀ f ∈ added, ∀ g ∈ d.filter.conjuncts, ¬ g.SharesField f
  /-- Every field that a token is meant for is that of a conjunct, an old or an added one. -/
  covered : ∀ token ∈ tokens, ∀ field ∈ d.mapper.tokenField? token,
    ∃ g ∈ d.filter.conjuncts ++ added, Names g.fieldName? field

/-! ## Filters that are taken -/

namespace Conjunction

variable {root : Conjunction} {f g : Filter} {fs : List Filter}

/-- What is taken is on another field than each conjunct before it. -/
theorem not_sharesField_of_mem_newTo (hf : f ∈ root.newTo fs) (hg : g ∈ root.conjuncts) :
    ¬ g.SharesField f := by
  induction fs generalizing root with
  | nil => exact (List.not_mem_nil hf).elim
  | cons e fs ih =>
    unfold newTo at hf
    split at hf
    · exact ih hf hg
    · rename_i hnew
      rcases List.mem_cons.1 hf with rfl | hf
      · exact fun hshare => hnew (any_constrains_iff.2 ⟨g, hg, hshare⟩)
      · exact ih hf (List.mem_append_left [e] hg)

/-- No two of the filters that are taken are on one field. -/
theorem pairwise_newTo (root : Conjunction) (fs : List Filter) :
    (root.newTo fs).Pairwise fun f g => ¬ f.SharesField g := by
  induction fs generalizing root with
  | nil => exact .nil
  | cons e fs ih =>
    unfold newTo
    split
    · exact ih root
    · refine List.pairwise_cons.2 ⟨fun g hg => ?_, ih (root.push e)⟩
      exact not_sharesField_of_mem_newTo hg (List.mem_append_right _ List.mem_cons_self)

theorem newTo_eq_nil_iff :
    root.newTo fs = [] ↔ ∀ f ∈ fs, f.fieldName?.any root.constrains = true := by
  induction fs with
  | nil => simp [newTo]
  | cons e fs ih =>
    unfold newTo
    split
    · rename_i hold
      rw [ih, List.forall_mem_cons, and_iff_right hold]
    · rename_i hnew
      simp [hnew]

/-- Once the offers are decided, the field of each named one is restricted. -/
theorem constrains_append_newTo {name : String} (hf : f ∈ fs) (hname : f.fieldName? = some name) :
    f.fieldName?.any (constrains ⟨root.conjuncts ++ root.newTo fs⟩) = true := by
  rw [any_constrains_iff]
  have hself : f.SharesField f := ⟨name, hname, name, hname, rfl⟩
  by_cases hold : f.fieldName?.any root.constrains = true
  · obtain ⟨g, hg, hshare⟩ := any_constrains_iff.1 hold
    exact ⟨g, List.mem_append_left _ hg, hshare⟩
  · obtain ⟨g, hg, hgf⟩ := exists_mem_newTo hf hold
    refine ⟨g, List.mem_append_right _ hg, ?_⟩
    rcases hgf with rfl | hshare
    · exact hself
    · exact hshare

end Conjunction

/-! ## Terms of tokens -/

namespace Draft

variable {mapper : FieldMapper} {tokens : List String} {token : String} {f : Filter}

theorem exists_of_mem_termsOf (h : f ∈ termsOf mapper tokens) : ∃ token ∈ tokens,
    ∃ field values, Filter.ofToken? token = some (.term field values) ∧
      f = .term (mapper.mapName field) values ∧ Filter.IsTokenTerm field values := by
  obtain ⟨token, htoken, hterm⟩ := List.mem_filterMap.1 h
  obtain ⟨e, he, rfl⟩ := Option.map_eq_some_iff.1 hterm
  obtain ⟨name, rest, -, -, -, -, rfl⟩ := Filter.ofToken?_eq_some_iff.1 he
  exact ⟨token, htoken, _, _, he, rfl, Filter.isTokenTerm_of_ofToken? he⟩

/-- The field that a token is meant for is the name of one of the terms. -/
theorem exists_mem_termsOf {field : String} (htoken : token ∈ tokens)
    (hfield : mapper.tokenField? token = some field) :
    ∃ f ∈ termsOf mapper tokens, f.fieldName? = some field := by
  obtain ⟨f, hf, hname⟩ := Option.bind_eq_some_iff.1 hfield
  exact ⟨f, List.mem_filterMap.2 ⟨token, htoken, hf⟩, hname⟩

theorem constrains_termsOf (root : Conjunction) (hf : f ∈ termsOf mapper tokens) :
    f.fieldName?.any (Conjunction.constrains
      ⟨root.conjuncts ++ root.newTo (termsOf mapper tokens)⟩) = true := by
  obtain ⟨_, -, field, values, -, rfl, -⟩ := exists_of_mem_termsOf hf
  exact Conjunction.constrains_append_newTo hf rfl

/-- The terms of the tokens that are new to the root are all that is added. -/
theorem addsNewTerms_newTo (d : Draft) (tokens : List String) :
    d.AddsNewTerms tokens (d.filter.newTo (termsOf d.mapper tokens)) where
  terms := by
    intro f hf
    obtain ⟨token, htoken, field, values, hterm, rfl, hvalid⟩ :=
      exists_of_mem_termsOf (Conjunction.mem_of_mem_newTo hf)
    exact ⟨token, htoken, field, values, hterm, rfl, hvalid.nonempty,
      fun v hv => (hvalid.values v hv).nonempty⟩
  apart := Conjunction.pairwise_newTo _ _
  new := fun _ hf _ hg => Conjunction.not_sharesField_of_mem_newTo hf hg
  covered := by
    intro token htoken field hfield
    obtain ⟨f, hf, hname⟩ := exists_mem_termsOf htoken hfield
    obtain ⟨g, hg, name, hg_name, name', hf_name, hfold⟩ :=
      Conjunction.any_constrains_iff.1 (constrains_termsOf d.filter hf)
    obtain rfl : field = name' := Option.some.inj (hname.symm.trans hf_name)
    exact ⟨g, hg, name, hg_name, hfold⟩

/-- Nothing is new in tokens that have been added. -/
theorem addTerms_addTerms_true (d : Draft) (tokens : List String) :
    (d.addTerms tokens true).addTerms tokens true = d.addTerms tokens true := by
  have hnothing : (d.addTerms tokens true).filter.newTo (termsOf d.mapper tokens) = [] := by
    rw [addTerms_true, filter_restrict, Conjunction.newTo_eq_nil_iff]
    exact fun _ hf => constrains_termsOf d.filter hf
  have hmapper : (d.addTerms tokens true).mapper = d.mapper := by
    rw [addTerms_true, mapper_restrict]
  rw [addTerms_true (d.addTerms tokens true), hmapper, hnothing, restrict_nil]

/-- Tokens that are added on new fields only restrict every field that they are meant for, by terms
of which none shares its field with another one or with a conjunct that was there before. Nothing
else of the draft changes, and adding them again changes nothing at all. -/
theorem addTerms_unites (d : Draft) (tokens : List String) :
    (d.addTerms tokens true).addTerms tokens true = d.addTerms tokens true ∧
      ∃ added, d.AddsNewTerms tokens added ∧
        d.addTerms tokens true =
          { d with filter := { conjuncts := d.filter.conjuncts ++ added } } :=
  ⟨addTerms_addTerms_true d tokens, _, addsNewTerms_newTo d tokens, addTerms_true d tokens⟩

/-- Two tokens are meant for the code, of which the first is taken, and the price is restricted
already. -/
theorem addTerms_unites_codes :
    let rule := MappingRule.ofTexts Pattern.compile "^sku$" "code" false
    let mapper : FieldMapper := ⟨rule.toOption.toList⟩
    let d : Draft := (ofMapper mapper).restrict [.range "PRICE" [.below "5"]]
    let tokens := ["sku:1", "Code:2", "price:7", "color", "color: a%x2Cb ,"]
    let once := d.addTerms tokens true
    once.filter.conjuncts =
        [.range "PRICE" [.below "5"], .term "code" ["1"], .term "color" ["a,b"]] ∧
      once.addTerms tokens true = once := by
  intro rule mapper d tokens once
  have hroot : once.filter.conjuncts =
      [.range "PRICE" [.below "5"], .term "code" ["1"], .term "color" ["a,b"]] := by
    decide +kernel
  exact ⟨hroot, (addTerms_unites d tokens).1⟩

end Draft

end FacetedSearch
