import FacetedSearch.Error
import FacetedSearch.Pattern.Reader
import FacetedSearch.Pattern.Search
import FacetedSearch.Pattern.Template

/-!
# Patterns

Mapping rules leave patterns to an engine, which compiles their texts and accepts whatever it
likes. This library brings an engine of its own for the part of the language in which most
patterns are written: literals, classes, groups, repetitions, anchors and flags.

## Main definitions

* `CompiledPattern`, `PatternCompiler` — what an engine makes of a text, and an engine.
* `Pattern` — a written pattern with its tree and the names of its groups.
* `Pattern.ofText?` — read a pattern.
* `Pattern.replaceFirst?` — put a filled template in the place of the first match.
* `Pattern.compile` — the engine of this library.
-/

namespace FacetedSearch

/-- A pattern as an engine has compiled it. -/
structure CompiledPattern where
  source : String
  isMatch : (subject : String) → Bool
  /-- The subject with the filled template in the place of the first match. -/
  replace : (subject template : String) → String

/-- An engine for patterns in which letter case does not count. -/
abbrev PatternCompiler := (source : String) → Except PatternFault CompiledPattern

structure Pattern where
  source : String
  root : Pattern.Node
  names : List (String × Nat)
deriving DecidableEq, Repr

namespace Pattern

/-- The pattern that a text writes, if it writes one. -/
def ofText? (source : String) : Option Pattern :=
  (read? source.toList).map fun (root, names) => ⟨source, root, names⟩

/-- The text with its first match replaced; none without a match. -/
def replaceFirst? (p : Pattern) (template : List Piece) (subject : String) : Option String :=
  (p.root.find? subject.toList).map fun m =>
    String.ofList (m.before ++ Template.fill m.group (p.names.lookup ·) template ++ m.after)

def compiled (p : Pattern) : CompiledPattern where
  source := p.source
  isMatch subject := (p.root.find? subject.toList).isSome
  replace subject template := (p.replaceFirst? (Template.read template) subject).getD subject

/-- Compile what `ofText?` reads, and refuse every other text. -/
def compile : PatternCompiler := fun source =>
  match ofText? source with
  | some p => .ok p.compiled
  | none => .error (.malformed ("cannot read the pattern " ++ source))

theorem compile_of_ofText? {source : String} {p : Pattern} (h : ofText? source = some p) :
    compile source = .ok p.compiled := by
  rw [compile, h]

example : (ofText? "^(a|ab)(c|bcd)?").bind
    (·.replaceFirst? (Template.read "<$1|$2>") "ABCD.") = some "<A|BCD>." := by decide +kernel
example : (ofText? "((a)|b)*").bind
    (·.replaceFirst? (Template.read "<$0|$1|$2>") "xab") = some "<||>xab" := by decide +kernel
example : (ofText? "(a*)*").bind
    (·.replaceFirst? (Template.read "<$0|$1>") "aab") = some "<aa|aa>b" := by decide +kernel
example : (ofText? "a(?!b)").isNone = true := by decide +kernel

end Pattern

end FacetedSearch
