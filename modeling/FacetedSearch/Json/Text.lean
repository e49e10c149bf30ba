import FacetedSearch.Json.Value

/-!
# Strings in JSON texts

## Main definitions

* `Json.readString` — the characters of a string whose opening quote has been read.
* `Json.writeString` — a string with its quotes.
-/

namespace FacetedSearch

namespace Json

/-! ## Reading -/

def hexDigit? (c : Char) : Option Nat :=
  if c.isDigit then some (c.toNat - '0'.toNat)
  else if 'a' ≤ c ∧ c ≤ 'f' then some (c.toNat - 'a'.toNat + 10)
  else if 'A' ≤ c ∧ c ≤ 'F' then some (c.toNat - 'A'.toNat + 10)
  else none

/-- The number that hexadecimal digits write. -/
def hexValue? (cs : List Char) : Option Nat :=
  cs.foldlM (fun n c => (hexDigit? c).map (n * 16 + ·)) 0

/-- The character behind a backslash that is not written by number. -/
def escaped? : Char → Option Char
  | '"' => some '"'
  | '\\' => some '\\'
  | '/' => some '/'
  | 'b' => some '\x08'
  | 'f' => some '\x0c'
  | 'n' => some '\n'
  | 'r' => some '\r'
  | 't' => some '\t'
  | _ => none

/-- Whether a code unit is the first half of a character beyond the basic plane. -/
def isHighHalf (n : Nat) : Bool := 0xD800 ≤ n && n < 0xDC00

def isLowHalf (n : Nat) : Bool := 0xDC00 ≤ n && n < 0xE000

/-- Read up to the closing quote. Control characters must be escaped, and a half of a character
must stand with its other half. -/
def readString : List Char → Option (List Char × List Char)
  | [] => none
  | '"' :: cs => some ([], cs)
  | '\\' :: 'u' :: a :: b :: c :: d :: cs => do
    let high ← hexValue? [a, b, c, d]
    if isHighHalf high then
      match cs with
      | '\\' :: 'u' :: e :: f :: g :: h :: cs =>
        let low ← hexValue? [e, f, g, h]
        if isLowHalf low then
          let (s, rest) ← readString cs
          some (Char.ofNat (0x10000 + (high - 0xD800) * 0x400 + (low - 0xDC00)) :: s, rest)
        else none
      | _ => none
    else if isLowHalf high then none
    else
      let (s, rest) ← readString cs
      some (Char.ofNat high :: s, rest)
  | '\\' :: e :: cs => do
    let c ← escaped? e
    let (s, rest) ← readString cs
    some (c :: s, rest)
  | c :: cs =>
    if c.toNat < 0x20 || c == '\\' then none
    else do
      let (s, rest) ← readString cs
      some (c :: s, rest)

/-! ## Writing -/

/-- A control character by its number, in four hexadecimal digits. -/
def writeControl (c : Char) : List Char :=
  let digits := Nat.toDigits 16 c.toNat
  '\\' :: 'u' :: (List.replicate (4 - digits.length) '0' ++ digits)

def writeChar (c : Char) : List Char :=
  if c = '"' ∨ c = '\\' then ['\\', c]
  else if c.toNat < 0x20 then writeControl c
  else [c]

def writeString (s : String) : String :=
  String.ofList ('"' :: (s.toList.flatMap writeChar ++ ['"']))

end Json

end FacetedSearch
