import FacetedSearch.Json.Text
import FacetedSearch.Number.Decimal
import FacetedSearch.Toml.Value

/-!
# Numbers and dates of configuration texts

## Main definitions

* `spanGrouped` — digits with single low lines between them.
* `readInteger`, `readFloat`, `readMoment` — the three kinds.
* `readNumber` — any of them.
-/

namespace FacetedSearch

namespace Toml

/-! ## Digits -/

/-- Digits at the front; a low line may stand between two of them. -/
def spanGrouped (digit : Char → Bool) : List Char → List Char × List Char
  | [] => ([], [])
  | '_' :: c :: cs =>
    if digit c then
      let (ds, rest) := spanGrouped digit cs
      (c :: ds, rest)
    else ([], '_' :: c :: cs)
  | c :: cs =>
    if digit c then
      let (ds, rest) := spanGrouped digit cs
      (c :: ds, rest)
    else ([], c :: cs)

/-- At least one digit. -/
def readDigits (digit : Char → Bool) (cs : List Char) : Option (List Char × List Char) :=
  if cs.head?.any digit then some (spanGrouped digit cs) else none

/-- Decimal digits without a leading zero. -/
def readWhole (cs : List Char) : Option (List Char × List Char) :=
  match cs with
  | '0' :: cs => some (['0'], cs)
  | _ => readDigits Char.isDigit cs

/-! ## Integers -/

/-- An integer that 64 bits with a sign hold. -/
def integer? (n : Int) : Option Toml :=
  if Int64.minValue.toInt ≤ n ∧ n ≤ Int64.maxValue.toInt then some (.integer n) else none

/-- The digits of a base and their value. -/
def readBase (base : Nat) (cs : List Char) : Option (Toml × List Char) := do
  let digit (c : Char) : Bool := (Json.hexDigit? c).any (· < base)
  let (ds, cs) ← readDigits digit cs
  let n := ds.foldl (fun n c => n * base + (Json.hexDigit? c).getD 0) 0
  return (← integer? n, cs)

def readInteger : List Char → Option (Toml × List Char)
  | '0' :: 'x' :: cs => readBase 16 cs
  | '0' :: 'o' :: cs => readBase 8 cs
  | '0' :: 'b' :: cs => readBase 2 cs
  | cs => do
    let (negative, cs) := readSign cs
    let (ds, cs) ← readWhole cs
    return (← integer? (if negative then -(digitsValue ds : Int) else digitsValue ds), cs)

/-! ## Floats -/

/-- An exponent, if there is one. -/
def readExponent : List Char → Option (Option Int × List Char)
  | c :: cs =>
    if c = 'e' ∨ c = 'E' then do
      let (negative, cs) := readSign cs
      let (ds, cs) ← readDigits Char.isDigit cs
      return (some (if negative then -(digitsValue ds : Int) else digitsValue ds), cs)
    else some (none, c :: cs)
  | [] => some (none, [])

/-- The digits behind a point, if there is one. -/
def readFraction : List Char → Option (Option (List Char) × List Char)
  | '.' :: cs => do
    let (ds, cs) ← readDigits Char.isDigit cs
    return (some ds, cs)
  | cs => some (none, cs)

/-- A number with a point or an exponent, or the name of one without digits. A positive number
must not be too large for a double. -/
def readFloat (cs : List Char) : Option (Toml × List Char) :=
  let (negative, cs) := readSign cs
  match cs with
  | 'i' :: 'n' :: 'f' :: cs => some (.float (Binary64.infinity negative), cs)
  | 'n' :: 'a' :: 'n' :: cs => some (.float (Binary64.notANumber negative), cs)
  | cs => do
    let (whole, cs) ← readWhole cs
    let (fraction, cs) ← readFraction cs
    let (exponent, cs) ← readExponent cs
    if fraction.isNone && exponent.isNone then none
    else
      let behind := fraction.getD []
      let x := Binary64.ofDecimal negative (digitsValue (whole ++ behind))
        (exponent.getD 0 - behind.length)
      if x = Binary64.infinity false then none else return (.float x, cs)

/-! ## Dates and times -/

/-- A number of exactly `count` digits between two bounds. -/
def readField (count lo hi : Nat) (cs : List Char) : Option (Nat × List Char) :=
  let ds := cs.take count
  let n := digitsValue ds
  if ds.length = count && ds.all Char.isDigit && lo ≤ n && n ≤ hi then some (n, cs.drop count)
  else none

/-- A given character. -/
def readMark (c : Char) : List Char → Option (List Char)
  | d :: cs => if d = c then some cs else none
  | [] => none

/-- The number of days in a month. -/
def daysIn (year month : Nat) : Nat :=
  if month = 2 then if year % 4 = 0 ∧ (year % 100 ≠ 0 ∨ year % 400 = 0) then 29 else 28
  else if month = 4 ∨ month = 6 ∨ month = 9 ∨ month = 11 then 30
  else 31

def readDate (cs : List Char) : Option (List Char) := do
  let (year, cs) ← readField 4 0 9999 cs
  let (month, cs) ← readField 2 1 12 (← readMark '-' cs)
  let (_, cs) ← readField 2 1 (daysIn year month) (← readMark '-' cs)
  return cs

/-- Hours, minutes and seconds, with digits behind the seconds if there is a point. -/
def readTime (cs : List Char) : Option (List Char) := do
  let (_, cs) ← readField 2 0 23 cs
  let (_, cs) ← readField 2 0 59 (← readMark ':' cs)
  let (_, cs) ← readField 2 0 60 (← readMark ':' cs)
  match cs with
  | '.' :: cs =>
    let (ds, cs) := spanDigits cs
    if ds.isEmpty then none else some cs
  | cs => some cs

/-- The distance from universal time; it may be missing. -/
def readOffset (cs : List Char) : List Char :=
  match cs with
  | c :: rest =>
    if c = 'Z' ∨ c = 'z' then rest
    else if c = '+' ∨ c = '-' then
      (do
        let (_, rest) ← readField 2 0 23 rest
        let (_, rest) ← readField 2 0 59 (← readMark ':' rest)
        return rest : Option (List Char)).getD cs
    else cs
  | [] => []

/-- A time behind a date; it may be missing. -/
def readTimeOfDay (cs : List Char) : List Char :=
  match cs with
  | c :: rest =>
    if c = 'T' ∨ c = 't' ∨ c = ' ' then (readTime rest).elim cs readOffset else cs
  | [] => []

def readMoment (cs : List Char) : Option (Toml × List Char) :=
  match readDate cs with
  | some cs => some (.moment, readTimeOfDay cs)
  | none => (readTime cs).map fun cs => (.moment, cs)

/-! ## All kinds -/

def readNumber (cs : List Char) : Option (Toml × List Char) :=
  (readMoment cs).or ((readFloat cs).or (readInteger cs))

end Toml

end FacetedSearch
