import FacetedSearch.Draft

/-!
# What the steps of a draft do

Each step that adds conjuncts is written out as the draft with those conjuncts. A step that
needs a parser succeeds exactly when there is a parser that finds something in the expression.

## Main definitions

* `Draft.restrict` — a draft with further conjuncts.
* `Draft.idsOf`, `Draft.termsOf` — the conjuncts for ids and for tokens.
* `Conjunction.newTo` — the filters that are on fields of their own when they are added in turn.
* `ExpressionParser.found` — what a parser finds in an expression.
* `Consulted.calls` — the expressions for which a parser is asked.
-/

namespace FacetedSearch

/-- Of filters that are offered one after the other, those whose field no conjunct and no filter
taken before restricts. -/
def Conjunction.newTo (root : Conjunction) : List Filter → List Filter
  | [] => []
  | f :: fs =>
    if f.fieldName?.any root.constrains then newTo root fs else f :: newTo (root.push f) fs

/-- What a parser finds in an expression. It is not asked for a blank one, in which there is
nothing. -/
def ExpressionParser.found (parser : ExpressionParser) (expression : String) :
    Except SearchError Parsed :=
  if Text.blank expression then .ok {} else parser expression

/-- The calls of a parser for an expression: one, with the expression as it is, unless it is
blank. -/
def Consulted.calls (expression : String) : List String :=
  if Text.blank expression then [] else [expression]

namespace Conjunction

variable {root : Conjunction} {f : Filter} {fs : List Filter}

theorem mem_of_mem_newTo (h : f ∈ root.newTo fs) : f ∈ fs := by
  induction fs generalizing root with
  | nil => exact h
  | cons e fs ih =>
    unfold newTo at h
    split at h
    · exact List.mem_cons_of_mem e (ih h)
    · rcases List.mem_cons.1 h with rfl | h
      · exact List.mem_cons_self
      · exact List.mem_cons_of_mem e (ih h)

/-- What is taken once is taken again. -/
theorem newTo_newTo (root : Conjunction) (fs : List Filter) :
    root.newTo (root.newTo fs) = root.newTo fs := by
  induction fs generalizing root with
  | nil => rfl
  | cons f fs ih =>
    by_cases h : f.fieldName?.any root.constrains = true
    · rw [newTo, if_pos h, ih]
    · rw [newTo, if_neg h, newTo, if_neg h, ih]

end Conjunction

namespace Filter

variable {field : String} {values : List String}

/-- A term without patterns stays as it is. -/
theorem splitWildcards_of_eq_nil (h : values.filter isWildcard = []) :
    splitWildcards field values = .term field values := by
  have hlit : values.filter (not ∘ isWildcard) = values := by
    rw [List.filter_eq_self]
    simpa using h
  simp [splitWildcards, h, hlit]

/-- The patterns of a term stand before the term of its other values, if there are any. -/
theorem splitWildcards_of_ne_nil (h : values.filter isWildcard ≠ []) :
    splitWildcards field values = .any ((values.filter isWildcard).map (.wildcard field) ++
      if values.filter (!isWildcard ·) = [] then []
      else [.term field (values.filter (!isWildcard ·))]) := by
  have hlit : values.filter (not ∘ isWildcard) = values.filter (!isWildcard ·) := rfl
  rw [splitWildcards, List.partition_eq_filter_filter]
  dsimp only
  rw [if_neg (by simpa using h), hlit]
  simp only [List.isEmpty_iff]

end Filter

namespace Draft

/-- Add conjuncts behind the others. -/
def restrict (fs : List Filter) (d : Draft) : Draft :=
  { d with filter := ⟨d.filter.conjuncts ++ fs⟩ }

/-- The conjunct for ids; none without ids. -/
def idsOf (ids : List String) : List Filter := if ids = [] then [] else [.ids ids]

/-- The terms of tokens under their mapped names; a token that is no term has none. -/
def termsOf (mapper : FieldMapper) (tokens : List String) : List Filter :=
  tokens.filterMap fun token => (Filter.ofToken? token).map mapper.mapFilter

/-- Take over a parsed facet expression: predefined aggregations come before its own. -/
def acceptFacets (predefined : List Aggregation) (parsed : Parsed) (d : Draft) : Draft :=
  { d with aggregations := Aggregation.unique (predefined ++ d.facetsOf parsed) }

variable {d d' : Draft}

/-! ## Conjuncts -/

@[simp] theorem restrict_nil (d : Draft) : d.restrict [] = d := by simp [restrict]

@[simp] theorem restrict_restrict (d : Draft) (fs gs : List Filter) :
    (d.restrict fs).restrict gs = d.restrict (fs ++ gs) := by simp [restrict]

@[simp] theorem filter_restrict (d : Draft) (fs : List Filter) :
    (d.restrict fs).filter = ⟨d.filter.conjuncts ++ fs⟩ := rfl

@[simp] theorem mapper_restrict (d : Draft) (fs : List Filter) :
    (d.restrict fs).mapper = d.mapper := rfl

/-- Ids become one conjunct and set the number of documents; no ids change nothing. -/
theorem addIds_eq (d : Draft) (ids : List String) :
    d.addIds ids = { d.restrict (idsOf ids) with
      take := if ids = [] then d.take else Int64.ofNat ids.length } := by
  cases ids with
  | nil => exact (restrict_nil d).symm
  | cons id ids => rfl

section Terms

variable {mapper : FieldMapper} {token : String} {f : Filter}

theorem termsOf_cons_of_eq_none (h : Filter.ofToken? token = none) (tokens : List String) :
    termsOf mapper (token :: tokens) = termsOf mapper tokens :=
  List.filterMap_cons_none (by simp [h])

theorem termsOf_cons_of_eq_some (h : Filter.ofToken? token = some f) (tokens : List String) :
    termsOf mapper (token :: tokens) = mapper.mapFilter f :: termsOf mapper tokens :=
  List.filterMap_cons_some (by simp [h])

theorem addTerm_of_eq_none (h : Filter.ofToken? token = none) (onlyNew : Bool) :
    d.addTerm onlyNew token = d := by simp [addTerm, h]

theorem addTerm_of_eq_some (h : Filter.ofToken? token = some f) (onlyNew : Bool) :
    d.addTerm onlyNew token =
      if onlyNew && (d.mapper.mapFilter f).fieldName?.any d.filter.constrains then d
      else d.restrict [d.mapper.mapFilter f] := by
  simp only [addTerm, h, Option.map_some]
  rfl

theorem addTerms_cons (d : Draft) (token : String) (tokens : List String) (onlyNew : Bool) :
    d.addTerms (token :: tokens) onlyNew = (d.addTerm onlyNew token).addTerms tokens onlyNew :=
  rfl

/-- All terms of the tokens become conjuncts, in order. -/
theorem addTerms_false (d : Draft) (tokens : List String) :
    d.addTerms tokens false = d.restrict (termsOf d.mapper tokens) := by
  induction tokens generalizing d with
  | nil => exact (restrict_nil d).symm
  | cons token tokens ih =>
    rw [addTerms_cons, ih]
    cases h : Filter.ofToken? token with
    | none => rw [addTerm_of_eq_none h, termsOf_cons_of_eq_none h]
    | some f =>
      have hstep : d.addTerm false token = d.restrict [d.mapper.mapFilter f] :=
        addTerm_of_eq_some h false
      rw [hstep, restrict_restrict, mapper_restrict, termsOf_cons_of_eq_some h,
        List.singleton_append]

/-- With `onlyNew`, the terms on new fields become conjuncts. -/
theorem addTerms_true (d : Draft) (tokens : List String) :
    d.addTerms tokens true = d.restrict (d.filter.newTo (termsOf d.mapper tokens)) := by
  induction tokens generalizing d with
  | nil => exact (restrict_nil d).symm
  | cons token tokens ih =>
    rw [addTerms_cons, ih]
    cases h : Filter.ofToken? token with
    | none => rw [addTerm_of_eq_none h, termsOf_cons_of_eq_none h]
    | some f =>
      rw [addTerm_of_eq_some h, termsOf_cons_of_eq_some h, Conjunction.newTo, Bool.true_and]
      split
      · rfl
      · rw [restrict_restrict]
        rfl

end Terms

/-! ## Parsed expressions -/

section Parser

variable {parser : ExpressionParser} {expression : String}

theorem requireParser_of_eq_some (h : d.parser = some parser) : d.requireParser = pure parser := by
  simp only [requireParser, h]
  rfl

theorem requireParser_of_eq_none (h : d.parser = none) :
    d.requireParser.result = .error (.missing "phrase parser") := by
  simp only [requireParser, h]
  rfl

theorem acceptFilters_empty (d : Draft) : d.acceptFilters {} = d := by
  simp [acceptFilters, nonBlank, Text.blank]

theorem acceptFacets_empty (d : Draft) (predefined : List Aggregation) :
    d.acceptFacets predefined {} = { d with aggregations := Aggregation.unique predefined } := by
  have h : d.facetsOf {} = [] := rfl
  rw [acceptFacets, h, List.append_nil]

/-- Both kinds of expressions are read alike: `accept` takes over what is found, and nothing is
found in a blank expression, for which nobody is asked. -/
theorem read_eq {α : Type} (parser : ExpressionParser) (expression : String)
    (accept : Parsed → α) :
    (if Text.blank expression then pure (accept {})
      else Consulted.ask parser expression >>= fun parsed => pure (accept parsed)) =
      ⟨Consulted.calls expression, [], (parser.found expression).map accept⟩ := by
  unfold ExpressionParser.found Consulted.calls
  split
  · rfl
  · cases h : parser expression with
    | ok parsed => exact Consulted.bind_of_ok h _
    | error e => exact Consulted.bind_of_error h _

theorem map_eq_ok_iff {α β : Type} {x : Except SearchError α} {f : α → β} {b : β} :
    x.map f = .ok b ↔ ∃ a, x = .ok a ∧ b = f a := by
  cases x <;> simp [Except.map, eq_comm]

/-- A draft with a parser is restricted by what the parser finds in a filter expression. -/
theorem addFilters_eq (h : d.parser = some parser) (expression : String) :
    d.addFilters expression =
      ⟨Consulted.calls expression, [], (parser.found expression).map d.acceptFilters⟩ := by
  have hread := read_eq parser expression d.acceptFilters
  rw [acceptFilters_empty] at hread
  rw [addFilters, requireParser_of_eq_some h, Consulted.pure_bind, hread]

/-- A draft with a parser gets the predefined aggregations and those for what the parser finds in
a facet expression. -/
theorem addFacets_eq (h : d.parser = some parser) (expression : String)
    (predefined : List Aggregation) :
    d.addFacets expression predefined =
      ⟨Consulted.calls expression, [], (parser.found expression).map (d.acceptFacets predefined)⟩ := by
  have hread := read_eq parser expression (d.acceptFacets predefined)
  rw [acceptFacets_empty] at hread
  rw [addFacets, requireParser_of_eq_some h, Consulted.pure_bind]
  exact hread

/-- A filter expression restricts the draft by what the parser finds in it. -/
theorem result_addFilters_eq_ok_iff :
    (d.addFilters expression).result = .ok d' ↔
      ∃ parser parsed, d.parser = some parser ∧
        ExpressionParser.found parser expression = .ok parsed ∧ d' = d.acceptFilters parsed := by
  cases hp : d.parser with
  | none =>
    rw [addFilters, Consulted.result_bind, requireParser_of_eq_none hp]
    simp [bind, Except.bind]
  | some parser =>
    rw [addFilters_eq hp, map_eq_ok_iff]
    simp

/-- A facet expression replaces the aggregations by the predefined ones and those for what the
parser finds in it. -/
theorem result_addFacets_eq_ok_iff {predefined : List Aggregation} :
    (d.addFacets expression predefined).result = .ok d' ↔
      ∃ parser parsed, d.parser = some parser ∧
        ExpressionParser.found parser expression = .ok parsed ∧
        d' = d.acceptFacets predefined parsed := by
  cases hp : d.parser with
  | none =>
    rw [addFacets, Consulted.result_bind, requireParser_of_eq_none hp]
    simp [bind, Except.bind]
  | some parser =>
    rw [addFacets_eq hp, map_eq_ok_iff]
    simp

end Parser

end Draft

end FacetedSearch
