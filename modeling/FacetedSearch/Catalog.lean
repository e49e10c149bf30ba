import FacetedSearch.Draft
import FacetedSearch.Facet

/-!
# Searching a catalog

A catalog has a configuration, a parser for expressions and an index. A query is compiled into
a request; the index answers it; the answer is shown as facets beside the documents. The calls
of the parser and of the index are noted on the way.

## Main definitions

* `Query` — what a user asks for.
* `Catalog`, `Catalog.ofConfig` — a catalog with a valid configuration.
* `Catalog.compile` — the request of a query.
* `Catalog.search` — the result of a query.
-/

namespace FacetedSearch

structure Query where
  skip : Option Int64 := none
  take : Option Int64 := none
  keyword : Option String := none
  filter : Option String := none
  facet : Option String := none
  sort : Option String := none
  culture : Option String := none
  currency : Option String := none
  objectIds : List String := []
  terms : List String := []
  fuzzy : Bool := false
  fuzzyLevel : Option UInt32 := none
  includeFields : List String := []
deriving DecidableEq, Repr

structure SearchResult where
  totalCount : UInt64
  documents : List Json
  facets : List Facet
deriving DecidableEq, Repr

structure Catalog where
  config : Config
  mapper : FieldMapper
  parser : ExpressionParser
  provider : Provider

namespace Catalog

/-- A catalog with a configuration that is checked first. -/
def ofConfig (config : Config) (compiler : PatternCompiler) (parser : ExpressionParser)
    (provider : Provider) : Except SearchError Catalog := do
  config.validate compiler
  return ⟨config, ← config.mapper compiler, parser, provider⟩

/-- A draft with the settings that a query makes. -/
def settings (catalog : Catalog) (query : Query) : Draft :=
  let draft := ((Draft.ofConfig catalog.config catalog.mapper).withParser catalog.parser).withPaging
    (query.skip.getD 0) (query.take.getD catalog.config.search.defaultTake)
  let draft := query.culture.elim draft draft.withCulture
  let draft := query.currency.elim draft draft.withCurrency
  let draft := query.keyword.elim draft draft.withKeywords
  (draft.withFuzziness query.fuzzy query.fuzzyLevel).withIncludeFields query.includeFields

/-- All that a query asks for without expressions. -/
def prepare (catalog : Catalog) (query : Query) : Draft :=
  ((catalog.settings query).addIds query.objectIds).addTerms query.terms false

/-- The request of a query. The terms of the configuration come behind all that the query
restricts, so that they give way to it, and the facets are isolated at the end. -/
def compile (catalog : Catalog) (query : Query) : Consulted Request := do
  let draft ← (catalog.prepare query).addFilters (query.filter.getD "")
  let draft := draft.addTerms catalog.config.search.defaultTerms true
  let draft ← draft.addFacets (query.facet.getD "") catalog.config.predefined
  return ((draft.sortBy (query.sort.getD "")).isolateFacets).toRequest

/-- Compile a query, have the index answer it and show the facets. -/
def search (catalog : Catalog) (query : Query) : Consulted SearchResult := do
  let request ← catalog.compile query
  let response ← .send catalog.provider request
  return ⟨response.totalCount, response.documents, request.facets response.aggregations⟩

end Catalog

end FacetedSearch
