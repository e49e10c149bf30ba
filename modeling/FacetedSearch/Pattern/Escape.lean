import FacetedSearch.Json.Text
import FacetedSearch.Pattern.Node

/-!
# Escapes in patterns

## Main definitions

* `Symbol` — what one written element of a pattern stands for.
* `readEscape` — the symbol behind a backslash.
-/

namespace FacetedSearch

namespace Pattern

inductive Symbol where
  | literal (c : Char)
  | set (set : CharSet)
  | place (place : Place)
deriving DecidableEq, Repr

/-- The character with the number that hexadecimal digits write. -/
def charOfHex? (digits : List Char) : Option Char := do
  let n ← Json.hexValue? digits
  if n.isValidChar then some (Char.ofNat n) else none

/-- A number of exactly `count` hexadecimal digits, or any positive count of them in braces. -/
def readHex (count : Nat) : List Char → Option (Char × List Char)
  | '\x7b' :: cs => do
    let (digits, rest) ← Text.cut (· == '\x7d') cs
    if digits.isEmpty then none else some (← charOfHex? digits, rest)
  | cs =>
    if cs.length < count then none
    else do some (← charOfHex? (cs.take count), cs.drop count)

/-- Whether a backslash takes the meaning from a character: all of ASCII but letters, digits and
angle brackets. -/
def isEscapable (c : Char) : Bool :=
  c.toNat < 128 && !c.isAlphanum && c != '<' && c != '>'

/-- The symbol behind a backslash. -/
def readEscape : List Char → Option (Symbol × List Char)
  | [] => none
  | c :: cs =>
    match c with
    | 'd' => some (.set .digit, cs)
    | 'D' => some (.set (.compl .digit), cs)
    | 's' => some (.set .blank, cs)
    | 'S' => some (.set (.compl .blank), cs)
    | 'w' => some (.set .word, cs)
    | 'W' => some (.set (.compl .word), cs)
    | 'A' => some (.place .textStart, cs)
    | 'z' => some (.place .textEnd, cs)
    | 'b' => some (.place .wordEdge, cs)
    | 'B' => some (.place .noWordEdge, cs)
    | 'a' => some (.literal '\x07', cs)
    | 'f' => some (.literal '\x0c', cs)
    | 'n' => some (.literal '\n', cs)
    | 'r' => some (.literal '\r', cs)
    | 't' => some (.literal '\t', cs)
    | 'v' => some (.literal '\x0b', cs)
    | 'x' => (readHex 2 cs).map fun (c, cs) => (.literal c, cs)
    | 'u' => (readHex 4 cs).map fun (c, cs) => (.literal c, cs)
    | 'U' => (readHex 8 cs).map fun (c, cs) => (.literal c, cs)
    | _ => if isEscapable c then some (.literal c, cs) else none

end Pattern

end FacetedSearch
