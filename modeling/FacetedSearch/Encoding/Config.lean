import FacetedSearch.Config
import FacetedSearch.Json.Record
import FacetedSearch.Toml.Reader

/-!
# Configurations as JSON and as files

## Main definitions

* `Config.toJson`, `Config.ofJson?` — a configuration as a record.
* `Config.ofText` — the configuration of a text, checked.
* `Config.ofFile` — the configuration of a file, which may be missing or hold no text.
-/

namespace FacetedSearch

open Json

def SearchSettings.toJson (s : SearchSettings) : Json :=
  .obj [("default_take", ofWindow s.defaultTake), ("content_field", .str s.contentField),
    ("default_sort_field", .str s.defaultSortField),
    ("default_sort_descending", .bool s.defaultSortDescending),
    ("localized_facet_fields", ofStrings s.localizedFacetFields),
    ("default_terms", ofStrings s.defaultTerms)]

def SearchSettings.ofJson? (j : Json) : Option SearchSettings := do
  let ms ← j.record? ["default_take", "content_field", "default_sort_field",
    "default_sort_descending", "localized_facet_fields", "default_terms"] 0
  let standard : SearchSettings := {}
  return {
    defaultTake := ← defaulted "default_take" standard.defaultTake window? ms
    contentField := ← defaulted "content_field" standard.contentField string? ms
    defaultSortField := ← defaulted "default_sort_field" standard.defaultSortField string? ms
    defaultSortDescending :=
      ← defaulted "default_sort_descending" standard.defaultSortDescending bool? ms
    localizedFacetFields := ← defaulted "localized_facet_fields" [] strings? ms
    defaultTerms := ← defaulted "default_terms" [] strings? ms }

def MappingSettings.toJson (s : MappingSettings) : Json :=
  .obj [("pattern", .str s.pattern), ("replacement", .str s.replacement),
    ("lowercase", .bool s.lowercase)]

def MappingSettings.ofJson? (j : Json) : Option MappingSettings := do
  let ms ← j.record? ["pattern", "replacement", "lowercase"] 2
  return ⟨← required "pattern" string? ms, ← required "replacement" string? ms,
    ← defaulted "lowercase" false bool? ms⟩

def FacetSettings.toJson (s : FacetSettings) : Json :=
  .obj [("field", .str s.field), ("size", ofCount s.size)]

def FacetSettings.ofJson? (j : Json) : Option FacetSettings := do
  let ms ← j.record? ["field", "size"] 1
  return ⟨← required "field" string? ms, ← defaulted "size" 0 count? ms⟩

def Config.toJson (c : Config) : Json :=
  .obj [("search", c.search.toJson),
    ("field_mappings", ofList MappingSettings.toJson c.fieldMappings),
    ("facets", ofList FacetSettings.toJson c.facets)]

def Config.ofJson? (j : Json) : Option Config := do
  let ms ← j.record? ["search", "field_mappings", "facets"] 0
  return ⟨← defaulted "search" {} SearchSettings.ofJson? ms,
    ← defaulted "field_mappings" [] (list? MappingSettings.ofJson?) ms,
    ← defaulted "facets" [] (list? FacetSettings.ofJson?) ms⟩

namespace Config

/-- Read and check a configuration. -/
def ofText (compiler : PatternCompiler) (text : String) : Except SearchError Config := do
  let some table := Toml.parse? text | throw (.malformedConfig "not a TOML document")
  let some config := ofJson? table.toJson | throw (.malformedConfig "not a configuration")
  config.validate compiler
  return config

/-- Read a file, given its bytes or the fault of reading it. -/
def ofFile (compiler : PatternCompiler) (content : Except FileFault ByteArray) :
    Except SearchError Config :=
  match content with
  | .error fault => .error (.unreadable fault)
  | .ok bytes =>
    match String.fromUTF8? bytes with
    | none => .error (.unreadable ⟨.invalidData, "stream did not contain valid UTF-8"⟩)
    | some text => ofText compiler text

end Config

end FacetedSearch
