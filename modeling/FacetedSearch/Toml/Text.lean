import FacetedSearch.Pattern.Escape

/-!
# Strings of configuration texts

## Main definitions

* `readBasic`, `readLiteral` — strings on one line, with and without escapes.
* `readBasicLines`, `readLiteralLines` — strings over several lines.
* `readText` — any of them.
-/

namespace FacetedSearch

namespace Toml

/-- Whether a character may stand in a comment or string: no control character but the tab. -/
def isPlain (c : Char) : Bool := c == '\t' || (0x20 ≤ c.toNat && c.toNat ≠ 0x7F)

def isSpace (c : Char) : Bool := c == ' ' || c == '\t'

/-- Drop spaces and tabs. -/
def skipSpace (cs : List Char) : List Char := cs.dropWhile isSpace

/-- A line end: a line feed, with or without a carriage return before it. -/
def newline? : List Char → Option (List Char)
  | '\n' :: cs => some cs
  | '\r' :: '\n' :: cs => some cs
  | _ => none

/-- Exactly `count` hexadecimal digits as a character. -/
def readCode (count : Nat) (cs : List Char) : Option (Char × List Char) :=
  if cs.length < count then none
  else do return (← Pattern.charOfHex? (cs.take count), cs.drop count)

/-- The character behind a backslash. -/
def readEscape : List Char → Option (Char × List Char)
  | 'b' :: cs => some ('\x08', cs)
  | 't' :: cs => some ('\t', cs)
  | 'n' :: cs => some ('\n', cs)
  | 'f' :: cs => some ('\x0c', cs)
  | 'r' :: cs => some ('\r', cs)
  | '"' :: cs => some ('"', cs)
  | '\\' :: cs => some ('\\', cs)
  | 'u' :: cs => readCode 4 cs
  | 'U' :: cs => readCode 8 cs
  | _ => none

/-! ## One line -/

/-- Up to the closing double quote. The bound is on the number of characters. -/
def readBasic : Nat → List Char → Option (List Char × List Char)
  | 0, _ | _, [] => none
  | n + 1, c :: cs =>
    if c = '"' then some ([], cs)
    else do
      let (d, cs) ← if c = '\\' then readEscape cs
        else if isPlain c then some (c, cs) else none
      let (s, cs) ← readBasic n cs
      return (d :: s, cs)

/-- Up to the closing single quote. -/
def readLiteral : List Char → Option (List Char × List Char)
  | [] => none
  | c :: cs =>
    if c = '\'' then some ([], cs)
    else if isPlain c then do
      let (s, cs) ← readLiteral cs
      return (c :: s, cs)
    else none

/-! ## Several lines -/

/-- The quotes at the front: up to two belong to the string when three more close it. -/
def closing? (quote : Char) (cs : List Char) : Option (List Char × List Char) :=
  let (quotes, rest) := cs.span (· == quote)
  if quotes.length < 3 then none
  else if quotes.length ≤ 5 then some (quotes.drop 3, rest)
  else some (quotes.take 2, quotes.drop 5 ++ rest)

/-- A line end in a string is a line feed. -/
def lineChar? (c : Char) (cs : List Char) : Option (Char × List Char) :=
  match newline? (c :: cs) with
  | some rest => some ('\n', rest)
  | none => if isPlain c then some (c, cs) else none

/-- A backslash at the end of a line hides the line end and all blanks behind it. -/
def skipLines (cs : List Char) : Option (List Char) := do
  let rest ← newline? (skipSpace cs)
  let rec skip : Nat → List Char → List Char
    | 0, cs => cs
    | n + 1, cs =>
      match newline? (skipSpace cs) with
      | some cs => skip n cs
      | none => skipSpace cs
  return skip rest.length rest

/-- Up to three double quotes. -/
def readBasicLines : Nat → List Char → Option (List Char × List Char)
  | 0, _ | _, [] => none
  | n + 1, c :: cs =>
    match closing? '"' (c :: cs) with
    | some (s, rest) => some (s, rest)
    | none =>
      match (if c = '\\' then skipLines cs else none) with
      | some cs => readBasicLines n cs
      | none => do
        let (d, cs) ← if c = '\\' then readEscape cs else lineChar? c cs
        let (s, cs) ← readBasicLines n cs
        return (d :: s, cs)

/-- Up to three single quotes. -/
def readLiteralLines : Nat → List Char → Option (List Char × List Char)
  | 0, _ | _, [] => none
  | n + 1, c :: cs =>
    match closing? '\'' (c :: cs) with
    | some (s, rest) => some (s, rest)
    | none => do
      let (d, cs) ← lineChar? c cs
      let (s, cs) ← readLiteralLines n cs
      return (d :: s, cs)

/-- A line end right behind the opening quotes does not count. -/
def skipFirstNewline (cs : List Char) : List Char := (newline? cs).getD cs

/-- A string of any notation. -/
def readText (cs : List Char) : Option (List Char × List Char) :=
  match cs with
  | '"' :: '"' :: '"' :: cs => readBasicLines (cs.length + 1) (skipFirstNewline cs)
  | '\'' :: '\'' :: '\'' :: cs => readLiteralLines (cs.length + 1) (skipFirstNewline cs)
  | '"' :: cs => readBasic (cs.length + 1) cs
  | '\'' :: cs => readLiteral cs
  | _ => none

end Toml

end FacetedSearch
