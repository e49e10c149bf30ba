import FacetedSearch.Number.Decimal
import FacetedSearch.Text.Split

/-!
# Templates of replacements

A template is a text with references to the groups of a match. `$name` takes the longest run
of ASCII letters, digits and low lines; a name in braces ends at the closing brace; `$$` is a
dollar sign, and so is any other dollar sign.

## Main definitions

* `Piece` — a character or a reference.
* `Template.read` — the pieces of a template.
* `Template.fill` — the text for given groups.
-/

namespace FacetedSearch

namespace Pattern

inductive Piece where
  | char (c : Char)
  | number (index : Nat)
  | name (name : String)
deriving DecidableEq, Repr

namespace Template

def isNameChar (c : Char) : Bool := c.isAlphanum || c == '_'

/-- A reference by number, if the name is one that 64 bits hold; a plus sign may precede it. -/
def reference (cs : List Char) : Piece :=
  let digits := match cs with
    | '+' :: ds => ds
    | _ => cs
  if !digits.isEmpty && digits.all Char.isDigit && digitsValue digits < UInt64.size then
    .number (digitsValue digits)
  else .name (String.ofList cs)

/-- The reference behind a dollar sign and the text behind the reference. -/
def reference? : List Char → Option (Piece × List Char)
  | '$' :: cs => some (.char '$', cs)
  | '\x7b' :: cs => (Text.cut (· == '\x7d') cs).map fun (name, rest) => (reference name, rest)
  | cs =>
    let (name, rest) := cs.span isNameChar
    if name.isEmpty then none else some (reference name, rest)

/-- The pieces of a template; the bound is on their number. -/
def readPieces : Nat → List Char → List Piece
  | 0, _ | _, [] => []
  | n + 1, '$' :: cs =>
    match reference? cs with
    | some (piece, rest) => piece :: readPieces n rest
    | none => .char '$' :: readPieces n cs
  | n + 1, c :: cs => .char c :: readPieces n cs

def read (template : String) : List Piece :=
  readPieces template.toList.length template.toList

/-- The text of a template, given the texts of the groups. An unknown group is empty. -/
def fill (group : Nat → List Char) (index? : String → Option Nat) (pieces : List Piece) :
    List Char :=
  pieces.flatMap fun
    | .char c => [c]
    | .number i => group i
    | .name s => ((index? s).map group).getD []

example : read "a$1b$$\x24\x7bx\x7d$\x7b" = [.char 'a', .name "1b", .char '$', .name "x",
    .char '$', .char '\x7b'] := by decide +kernel

end Template

end Pattern

end FacetedSearch
