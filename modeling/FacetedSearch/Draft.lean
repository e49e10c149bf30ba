import FacetedSearch.Config
import FacetedSearch.Collaborator
import FacetedSearch.Filter.Token

/-!
# Drafts of requests

A draft is a request under construction. Each step of the construction sets or adds a part; the
steps that need a parser can fail.

## Main definitions

* `Draft` — the request so far, and what the steps need to know.
* `Draft.ofMapper`, `Draft.ofConfig` — where a draft begins.
* `Filter.splitWildcards`, `Draft.compileFilter` — parsed filters as the index needs them.
* `Draft.addTerms`, `Draft.addFilters`, `Draft.addFacets` and others — the steps.
-/

namespace FacetedSearch

structure Draft extends Request where
  contentField : String
  /-- The code of the currency as it was given, and the culture in lower case. -/
  currency : Option String := none
  culture : Option String := none
  localizedFacetFields : List String := []
  mapper : FieldMapper
  parser : Option ExpressionParser := none

namespace Draft

/-! ## Beginnings -/

def ofMapper (mapper : FieldMapper) : Draft where
  skip := 0
  take := defaultTake
  keywords := none
  contentField := defaultContentField
  searchFields := [defaultContentField]
  filter := {}
  sorting := [.relevance]
  aggregations := []
  includeFields := []
  fuzzy := false
  fuzziness := none
  mapper := mapper

/-- A draft with the settings of a configuration and its mapper. -/
def ofConfig (config : Config) (mapper : FieldMapper) : Draft :=
  { ofMapper mapper with
    take := config.search.defaultTake
    contentField := config.search.contentField
    searchFields := [config.search.contentField]
    sorting := [config.defaultSort]
    localizedFacetFields := config.search.localizedFacetFields }

/-! ## Settings -/

/-- The text without blank ends, if anything is left of it. -/
def nonBlank (s : String) : Option String := if Text.blank s then none else some (Text.trim s)

/-- The window is not checked, since the index has bounds of its own. -/
def withPaging (skip take : Int64) (d : Draft) : Draft := { d with skip, take }

/-- Blank text matches every document. -/
def withKeywords (text : String) (d : Draft) : Draft := { d with keywords := nonBlank text }

/-- Search the field with the text in a culture beside the general one. -/
def withCulture (name : String) (d : Draft) : Draft :=
  let culture := (nonBlank name).map Text.lowercase
  { d with
    culture
    searchFields := d.contentField :: (culture.map (d.contentField ++ "_" ++ ·)).toList }

def withCurrency (code : String) (d : Draft) : Draft := { d with currency := nonBlank code }

def withFuzziness (fuzzy : Bool) (fuzziness : Option UInt32) (d : Draft) : Draft :=
  { d with fuzzy, fuzziness }

def withIncludeFields (fields : List String) (d : Draft) : Draft :=
  { d with includeFields := d.includeFields ++ fields }

def withLocalizedFacetFields (fields : List String) (d : Draft) : Draft :=
  { d with localizedFacetFields := fields }

def withParser (parser : ExpressionParser) (d : Draft) : Draft := { d with parser := some parser }

/-! ## Filters -/

def push (f : Filter) (d : Draft) : Draft := { d with filter := d.filter.push f }

/-- Restrict the request to documents; all of them are to be returned. -/
def addIds (ids : List String) (d : Draft) : Draft :=
  if ids.isEmpty then d else { d.push (.ids ids) with take := Int64.ofNat ids.length }

/-- Add the term of a token. A token that is no term is dropped, and so is one on a restricted
field when `onlyNew` is set. -/
def addTerm (onlyNew : Bool) (d : Draft) (token : String) : Draft :=
  match (Filter.ofToken? token).map d.mapper.mapFilter with
  | none => d
  | some f => if onlyNew && f.fieldName?.any d.filter.constrains then d else d.push f

/-- Add the terms of tokens, in order. -/
def addTerms (tokens : List String) (onlyNew : Bool) (d : Draft) : Draft :=
  tokens.foldl (addTerm onlyNew) d

end Draft

/-- A term with patterns among its values becomes a choice of one wildcard for each of them and
a term of the other values. -/
def Filter.splitWildcards (field : String) (values : List String) : Filter :=
  let (patterns, literals) := values.partition isWildcard
  if patterns.isEmpty then .term field literals
  else .any (patterns.map (.wildcard field) ++
    if literals.isEmpty then [] else [.term field literals])

/-- The field of a range: a plain price is one in the currency. -/
def rangeField (currency : Option String) (field : String) : String :=
  match currency with
  | some code => if Text.same field "price" then priceField code else field
  | none => field

mutual

/-- A parsed filter as the index needs it: with mapped names, split wildcards and the price in
the currency. -/
def Filter.compile (mapper : FieldMapper) (currency : Option String) : Filter → Filter
  | .term f vs => .splitWildcards (mapper.mapName f) vs
  | .wildcard f v => .wildcard (mapper.mapName f) v
  | .range f is => .range (rangeField currency (mapper.mapName f)) is
  | .ids vs => .ids vs
  | .all cs => .all (compileEach mapper currency cs)
  | .any cs => .any (compileEach mapper currency cs)

def Filter.compileEach (mapper : FieldMapper) (currency : Option String) :
    List Filter → List Filter
  | [] => []
  | f :: fs => compile mapper currency f :: compileEach mapper currency fs

end

@[simp] theorem Filter.compileEach_eq_map (mapper : FieldMapper) (currency : Option String)
    (fs : List Filter) : compileEach mapper currency fs = fs.map (compile mapper currency) := by
  induction fs <;> simp_all [compileEach]

namespace Draft

def compileFilter (d : Draft) (f : Filter) : Filter := f.compile d.mapper d.currency

/-- The parser of a draft, which a step may need before it looks at its expression. -/
def requireParser (d : Draft) : Consulted ExpressionParser :=
  .ofExcept (match d.parser with
    | some parser => .ok parser
    | none => .error (.missing "phrase parser"))

/-- Take over a parsed filter expression: its filters become conjuncts, and its keyword counts
if there are no keywords yet. -/
def acceptFilters (parsed : Parsed) (d : Draft) : Draft :=
  { d with
    keywords := d.keywords.or (nonBlank parsed.keyword)
    filter := ⟨d.filter.conjuncts ++ parsed.filters.map d.compileFilter⟩ }

/-- Parse a filter expression; a blank one says nothing. -/
def addFilters (expression : String) (d : Draft) : Consulted Draft := do
  let parser ← d.requireParser
  if Text.blank expression then return d
  let parsed ← .ask parser expression
  return d.acceptFilters parsed

/-! ## Facets -/

/-- The aggregation that counts what a parsed filter names; only terms and ranges do. -/
def filterFacet? (d : Draft) (f : Filter) : Option Aggregation :=
  match d.mapper.mapFilter f with
  | .term field values => some (.ofTerm field values)
  | .range field intervals => some (.ofRange (rangeField d.currency field) intervals)
  | _ => none

/-- The field that a facet keyword means in the culture of the draft. -/
def localize (keyword : String) (d : Draft) : String :=
  match d.culture with
  | some culture =>
    if d.localizedFacetFields.any (Text.same · keyword) then keyword ++ "_" ++ culture else keyword
  | none => keyword

/-- The aggregation for a keyword; the index decides how many values it finds. -/
def keywordFacet (d : Draft) (keyword : String) : Aggregation :=
  .ofField (d.mapper.mapName (d.localize keyword)) 0

/-- The aggregations that a parsed facet expression asks for: those of its filters, then those
of its keywords. -/
def facetsOf (d : Draft) (parsed : Parsed) : List Aggregation :=
  parsed.filters.filterMap d.filterFacet? ++ (Text.words parsed.keyword).map d.keywordFacet

/-- Replace the aggregations by predefined ones and those of a facet expression. Of several with
one id the first counts. -/
def addFacets (expression : String) (predefined : List Aggregation) (d : Draft) :
    Consulted Draft := do
  let parser ← d.requireParser
  if Text.blank expression then return { d with aggregations := Aggregation.unique predefined }
  let parsed ← .ask parser expression
  return { d with aggregations := Aggregation.unique (predefined ++ d.facetsOf parsed) }

/-- Give every aggregation its filter. -/
def isolateFacets (d : Draft) : Draft :=
  { d with aggregations := Aggregation.isolateEach d.filter d.aggregations }

/-! ## Sorting -/

/-- Replace the sorting, unless the expression has no item. -/
def sortBy (expression : String) (d : Draft) : Draft :=
  match SortField.ofExpression d.currency expression with
  | [] => d
  | fields => { d with sorting := fields }

/-! ## Steps -/

/-- A step of the construction, with its arguments. -/
inductive Step where
  | paging (skip take : Int64)
  | keywords (text : String)
  | culture (name : String)
  | currency (code : String)
  | fuzziness (fuzzy : Bool) (fuzziness : Option UInt32)
  | includeFields (fields : List String)
  | localizedFacetFields (fields : List String)
  | parser (parser : ExpressionParser)
  | ids (ids : List String)
  | terms (tokens : List String) (onlyNew : Bool)
  | filters (expression : String)
  | facets (expression : String) (predefined : List Aggregation)
  | sorting (expression : String)
  | isolation

/-- Do one step. -/
def apply (d : Draft) : Step → Consulted Draft
  | .paging skip take => pure (d.withPaging skip take)
  | .keywords text => pure (d.withKeywords text)
  | .culture name => pure (d.withCulture name)
  | .currency code => pure (d.withCurrency code)
  | .fuzziness fuzzy level => pure (d.withFuzziness fuzzy level)
  | .includeFields fields => pure (d.withIncludeFields fields)
  | .localizedFacetFields fields => pure (d.withLocalizedFacetFields fields)
  | .parser parser => pure (d.withParser parser)
  | .ids ids => pure (d.addIds ids)
  | .terms tokens onlyNew => pure (d.addTerms tokens onlyNew)
  | .filters expression => d.addFilters expression
  | .facets expression predefined => d.addFacets expression predefined
  | .sorting expression => pure (d.sortBy expression)
  | .isolation => pure d.isolateFacets

/-- Do steps in order, up to the first error. -/
def applyAll (d : Draft) : List Step → Consulted Draft
  | [] => pure d
  | s :: ss => d.apply s >>= (·.applyAll ss)

end Draft

end FacetedSearch
