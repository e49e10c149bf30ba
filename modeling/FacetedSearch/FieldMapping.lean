import FacetedSearch.Error
import FacetedSearch.Filter.Basic
import FacetedSearch.Pattern.Basic
import FacetedSearch.Text.Lowercase

/-!
# Mapping field names

Users know fields by other names than the index does. A list of rules replaces the names; the
first rule whose pattern matches decides, so special rules stand before general ones.

## Main definitions

* `MappingRule` — a pattern, a template for its first match, and whether the result is
  lower-cased.
* `FieldMapper` — rules in order of precedence.
* `FieldMapper.catalogWith` — the rules for catalogs, compiled by an engine for patterns.
* `FieldMapper.catalog` — the same with the engine of this library.
* `FieldMapper.mapName`, `FieldMapper.mapFilter` — replace a name, or the name in a leaf.
-/

namespace FacetedSearch

structure MappingRule where
  pattern : CompiledPattern
  replacement : String
  lowercase : Bool

namespace MappingRule

/-- The rule with the given texts; the pattern has to be one for the engine. -/
def ofTexts (compiler : PatternCompiler) (pattern replacement : String) (lowercase : Bool) :
    Except SearchError MappingRule :=
  match compiler pattern with
  | .ok p => .ok ⟨p, replacement, lowercase⟩
  | .error fault => .error (.invalidPattern fault)

/-- The new name; none when the pattern does not match. -/
def replaced? (rule : MappingRule) (name : String) : Option String :=
  if rule.pattern.isMatch name then
    let s := rule.pattern.replace name rule.replacement
    some (if rule.lowercase then Text.lowercase s else s)
  else none

/-- The rule with a pattern of this library. -/
def ofPattern (p : Pattern) (replacement : String) (lowercase : Bool) : MappingRule :=
  ⟨p.compiled, replacement, lowercase⟩

theorem ofTexts_compile {source : String} {p : Pattern} (h : Pattern.ofText? source = some p)
    (replacement : String) (lowercase : Bool) :
    ofTexts Pattern.compile source replacement lowercase = .ok (ofPattern p replacement lowercase) := by
  rw [ofTexts, Pattern.compile_of_ofText? h]
  rfl

theorem replaced?_ofPattern (p : Pattern) (replacement : String) (lowercase : Bool)
    (name : String) : (ofPattern p replacement lowercase).replaced? name =
      (p.replaceFirst? (Pattern.Template.read replacement) name).map fun s =>
        if lowercase then Text.lowercase s else s := by
  cases h : p.root.find? name.toList <;>
    simp [replaced?, ofPattern, Pattern.compiled, Pattern.replaceFirst?, h]

@[simp] theorem replaced?_ofPattern_false (p : Pattern) (replacement name : String) :
    (ofPattern p replacement false).replaced? name =
      p.replaceFirst? (Pattern.Template.read replacement) name := by
  simp [replaced?_ofPattern]

end MappingRule

structure FieldMapper where
  rules : List MappingRule

namespace FieldMapper

/-- Compile rules; the first pattern that the engine refuses is an error. -/
def ofTexts (compiler : PatternCompiler) (rules : List (String × String × Bool)) :
    Except SearchError FieldMapper := do
  let rules ← rules.mapM fun (pattern, replacement, lowercase) =>
    MappingRule.ofTexts compiler pattern replacement lowercase
  return ⟨rules⟩

/-- The rules for catalogs. Names of price fields are lower-cased, so that they agree with the
names that come from a currency, whatever the case in which its code is typed. -/
def catalogTexts : List (String × String × Bool) :=
  [("^price\\.([A-Za-z]\x7b3\x7d)$", "price_$\x7b1\x7d", true),
   ("^catalog\\.id$", "catalog", false),
   ("^category\\.path$", "__path", false),
   ("^categor(?:y|ies)\\.subtree$", "__outline", false),
   ("^sku$", "code", false),
   ("^properties\\.(.+)$", "$\x7b1\x7d", false)]

/-- The rules for catalogs that the engine can compile. -/
def catalogWith (compiler : PatternCompiler) : FieldMapper :=
  ⟨catalogTexts.filterMap fun (pattern, replacement, lowercase) =>
    (MappingRule.ofTexts compiler pattern replacement lowercase).toOption⟩

def catalog : FieldMapper := catalogWith Pattern.compile

def mapName (mapper : FieldMapper) (name : String) : String :=
  (mapper.rules.findSome? (·.replaced? name)).getD name

/-- Replace the field of a named leaf. Composites and ids stay as they are, with all their
parts. -/
def mapFilter (mapper : FieldMapper) (f : Filter) : Filter :=
  match f.fieldName? with
  | some name => f.withField (mapper.mapName name)
  | none => f

@[simp] theorem fieldName?_mapFilter (mapper : FieldMapper) (f : Filter) :
    (mapper.mapFilter f).fieldName? = f.fieldName?.map mapper.mapName := by
  cases f <;> rfl

theorem mapName_eq_self {mapper : FieldMapper} {name : String}
    (h : ∀ rule ∈ mapper.rules, rule.replaced? name = none) : mapper.mapName name = name := by
  rw [mapName, List.findSome?_eq_none_iff.2 h, Option.getD_none]

@[simp] theorem mapName_nil (name : String) : mapName ⟨[]⟩ name = name := rfl

/-- A filter whose name is kept is kept as it is. -/
theorem mapFilter_eq_self {mapper : FieldMapper} {f : Filter}
    (h : ∀ name ∈ f.fieldName?, mapper.mapName name = name) : mapper.mapFilter f = f := by
  unfold mapFilter
  split
  · rename_i name hname
    rw [h name hname, Filter.withField_fieldName? hname]
  · rfl

example : ["Price.USD", "properties.Color", "skus"].map catalog.mapName =
    ["price_usd", "Color", "skus"] := by decide +kernel

end FieldMapper

end FacetedSearch
