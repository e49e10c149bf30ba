import FacetedSearch.Json.Number
import FacetedSearch.Json.Text

/-!
# Reading JSON texts

A text holds exactly one value. Arrays and objects nest at most 127 deep, and the last of
several members with one name counts.

## Main definitions

* `Json.Reader` — a function that reads something at the front of a text.
* `Json.readValue` — a value with a bound on its nesting.
* `Json.parse?` — the value of a whole text.
-/

namespace FacetedSearch

namespace Json

/-- Reads a result at the front of a text and returns what follows it. -/
abbrev Reader (α : Type) := List Char → Option (α × List Char)

/-- Drop the white space that may stand between tokens. -/
def skipSpace (cs : List Char) : List Char :=
  cs.dropWhile fun c => c == ' ' || c == '\n' || c == '\t' || c == '\r'

/-- Items with commas between them up to `close`, at least one. The bound is on their number. -/
def readItems {α : Type} (item : Reader α) (close : Char) : Nat → Reader (List α)
  | 0, _ => none
  | n + 1, cs => do
    let (x, cs) ← item (skipSpace cs)
    match skipSpace cs with
    | [] => none
    | c :: cs =>
      if c = ',' then
        let (xs, cs) ← readItems item close n cs
        some (x :: xs, cs)
      else if c = close then some ([x], cs)
      else none

/-- Any number of items up to `close`. -/
def readSequence {α : Type} (item : Reader α) (close : Char) (cs : List Char) :
    Option (List α × List Char) :=
  let cs := skipSpace cs
  if cs.head? = some close then some ([], cs.tail) else readItems item close cs.length cs

/-- A member of an object: a string, a colon and a value. -/
def readMember (value : Reader Json) : Reader (String × Json)
  | '"' :: cs => do
    let (name, cs) ← readString cs
    match skipSpace cs with
    | ':' :: cs =>
      let (v, cs) ← value (skipSpace cs)
      some ((String.ofList name, v), cs)
    | _ => none
  | _ => none

/-- Set a member, in place if there is one of its name. -/
def setMember (members : List (String × Json)) (m : String × Json) : List (String × Json) :=
  match members with
  | [] => [m]
  | n :: ns => if n.1 = m.1 then m :: ns else n :: setMember ns m

/-- A value that is no array and no object. -/
def readScalar : Reader Json
  | '"' :: cs => (readString cs).map fun (s, cs) => (str (String.ofList s), cs)
  | 'n' :: 'u' :: 'l' :: 'l' :: cs => some (null, cs)
  | 't' :: 'r' :: 'u' :: 'e' :: cs => some (bool true, cs)
  | 'f' :: 'a' :: 'l' :: 's' :: 'e' :: cs => some (bool false, cs)
  | cs => readNumber cs

/-- A value whose arrays and objects nest at most as deep as the bound. -/
def readValue : Nat → Reader Json
  | 0, cs => readScalar cs
  | depth + 1, cs =>
    match cs with
    | '[' :: cs => (readSequence (readValue depth) ']' cs).map fun (xs, cs) => (arr xs, cs)
    | '\x7b' :: cs =>
      (readSequence (readMember (readValue depth)) '\x7d' cs).map fun (ms, cs) =>
        (obj (ms.foldl setMember []), cs)
    | cs => readScalar cs

/-- How deep arrays and objects may nest. -/
def nestingLimit : Nat := 127

def parse? (s : String) : Option Json := do
  let (v, cs) ← readValue nestingLimit (skipSpace s.toList)
  if (skipSpace cs).isEmpty then some v else none

end Json

end FacetedSearch
