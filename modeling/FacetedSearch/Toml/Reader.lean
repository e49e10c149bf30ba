import FacetedSearch.Toml.Number
import FacetedSearch.Toml.Table
import FacetedSearch.Toml.Text

/-!
# Reading configuration texts

A text is a list of lines: headers, keys with values, comments and blank lines. Arrays may run
over several lines, tables in braces may not.

## Main definitions

* `readKey` — a key with its dotted parts.
* `readValue` — a value with a bound on its nesting.
* `Line`, `readLine` — one line.
* `Toml.parse?` — the table of a whole text.
-/

namespace FacetedSearch

namespace Toml

/-! ## Blanks and comments -/

/-- Drop a comment up to the end of its line. -/
def skipComment : List Char → List Char
  | '#' :: cs => cs.dropWhile isPlain
  | cs => cs

/-- Drop spaces, comments and line ends. The bound is on the number of lines. -/
def skipLayout : Nat → List Char → List Char
  | 0, cs => cs
  | n + 1, cs =>
    let cs := skipComment (skipSpace cs)
    match newline? cs with
    | some cs => skipLayout n cs
    | none => cs

/-- The end of a line, behind spaces and a comment; the end of the text is one too. -/
def readEnd (cs : List Char) : Option (List Char) :=
  match skipComment (skipSpace cs) with
  | [] => some []
  | cs => newline? cs

/-! ## Keys -/

def isKeyChar (c : Char) : Bool := c.isAlphanum || c == '_' || c == '-'

/-- One part of a key: a bare word, or a string on one line. -/
def readPart (cs : List Char) : Option (String × List Char) :=
  match cs with
  | '"' :: cs => (readBasic (cs.length + 1) cs).map fun (s, cs) => (String.ofList s, cs)
  | '\'' :: cs => (readLiteral cs).map fun (s, cs) => (String.ofList s, cs)
  | cs =>
    let (word, rest) := cs.span isKeyChar
    if word.isEmpty then none else some (String.ofList word, rest)

/-- The number of parts that a key must not reach, and of levels that values must not. -/
def nestingLimit : Nat := 80

/-- The parts before the last one, and the last part, with spaces around each. -/
def readKey : Nat → List Char → Option ((List String × String) × List Char)
  | 0, _ => none
  | n + 1, cs => do
    let (part, cs) ← readPart (skipSpace cs)
    match skipSpace cs with
    | '.' :: cs =>
      let ((path, key), cs) ← readKey n cs
      return ((part :: path, key), cs)
    | cs => return (([], part), cs)

/-- A key, an equals sign and a value. -/
def readPair (value : List Char → Option (Toml × List Char)) (cs : List Char) :
    Option (((List String × String) × Toml) × List Char) := do
  let (key, cs) ← readKey (nestingLimit - 1) cs
  match cs with
  | '=' :: cs =>
    let (v, cs) ← value (skipSpace cs)
    return ((key, v), cs)
  | _ => none

/-! ## Values -/

/-- The items of an array behind its bracket. A comma may follow the last one. -/
def readItems (value : List Char → Option (Toml × List Char)) :
    Nat → List Char → Option (List Toml × List Char)
  | 0, _ => none
  | n + 1, cs =>
    match skipLayout cs.length cs with
    | ']' :: cs => some ([], cs)
    | cs => do
      let (v, cs) ← value cs
      match skipLayout cs.length cs with
      | ',' :: cs =>
        let (vs, cs) ← readItems value n cs
        return (v :: vs, cs)
      | ']' :: cs => some ([v], cs)
      | _ => none

/-- The pairs of a table in braces, at least one. No comma follows the last one. -/
def readPairs (value : List Char → Option (Toml × List Char)) :
    Nat → Entries → List Char → Option (Entries × List Char)
  | 0, _, _ => none
  | n + 1, es, cs => do
    let (((path, key), v), cs) ← readPair value cs
    let es ← es.assign v key path
    match skipSpace cs with
    | ',' :: cs => readPairs value n es cs
    | '\x7d' :: cs => return (es, cs)
    | _ => none

/-- A value without values inside. -/
def readScalar (cs : List Char) : Option (Toml × List Char) :=
  match cs with
  | '"' :: _ | '\'' :: _ => (readText cs).map fun (s, cs) => (string (String.ofList s), cs)
  | 't' :: 'r' :: 'u' :: 'e' :: cs => some (boolean true, cs)
  | 'f' :: 'a' :: 'l' :: 's' :: 'e' :: cs => some (boolean false, cs)
  | cs => readNumber cs

/-- A value whose arrays and tables nest at most as deep as the bound. -/
def readValue : Nat → List Char → Option (Toml × List Char)
  | 0, cs => readScalar cs
  | depth + 1, cs =>
    match cs with
    | '[' :: cs => (readItems (readValue depth) (cs.length + 1) cs).map fun (vs, cs) => (array vs, cs)
    | '\x7b' :: cs =>
      match skipSpace cs with
      | '\x7d' :: cs => some (table .inline [], cs)
      | cs => (readPairs (readValue depth) (cs.length + 1) [] cs).map fun (es, cs) =>
          (table .inline es, cs)
    | cs => readScalar cs

/-! ## Lines -/

inductive Line where
  | blank
  | header (path : List String) (key : String)
  | element (path : List String) (key : String)
  | pair (path : List String) (key : String) (value : Toml)

/-- One line with its end. -/
def readLine (cs : List Char) : Option (Line × List Char) := do
  match skipSpace cs with
  | '[' :: '[' :: cs =>
    let ((path, key), cs) ← readKey (nestingLimit - 1) cs
    match cs with
    | ']' :: ']' :: cs => return (.element path key, ← readEnd cs)
    | _ => none
  | '[' :: cs =>
    let ((path, key), cs) ← readKey (nestingLimit - 1) cs
    match cs with
    | ']' :: cs => return (.header path key, ← readEnd cs)
    | _ => none
  | cs =>
    match readEnd cs with
    | some rest => return (.blank, rest)
    | none =>
      let (((path, key), value), cs) ← readPair (readValue (nestingLimit - 1)) cs
      return (.pair path key value, ← readEnd cs)

/-- The lines of a text. The bound is on their number. -/
def readLines : Nat → List Char → Option (List Line)
  | 0, _ => none
  | _, [] => some []
  | n + 1, cs => do
    let (line, cs) ← readLine cs
    return line :: (← readLines n cs)

/-! ## Texts -/

/-- Apply a line to the tables so far, given the table of the last header. -/
def Line.apply : Line → List String × Entries → Option (List String × Entries)
  | blank, state => some state
  | header path key, (_, es) => do return (path ++ [key], ← es.openTable path key)
  | element path key, (_, es) => do return (path ++ [key], ← es.openElement path key)
  | pair path key value, (current, es) => do
    return (current, ← es.update (Entries.assign value key path) current)

/-- Read a text, which may begin with a byte order mark. -/
def parse? (s : String) : Option Toml := do
  let cs := match s.toList with
    | '\ufeff' :: cs => cs
    | cs => cs
  let lines ← readLines (cs.length + 1) cs
  let (_, es) ← lines.foldlM (fun state line => line.apply state) ([], [])
  return table .header es

end Toml

end FacetedSearch
