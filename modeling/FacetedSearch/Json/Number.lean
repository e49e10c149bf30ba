import FacetedSearch.Json.Value
import FacetedSearch.Number.Decimal

/-!
# Numbers in JSON texts

A number without a point and an exponent is an integer as long as 64 bits hold it; `-0` and
all others are doubles. A double is read with one rounding for its digits and one for the
power of ten: the digits are collected while they fit 64 bits, and later ones are dropped.

## Main definitions

* `Json.collect` — collect digits while they fit.
* `Json.scale?` — multiply or divide a whole double by a power of ten.
* `Json.readNumber` — a number at the front of a text.
-/

namespace FacetedSearch

namespace Json

/-- Append digits to `n` as long as the result has 64 bits; also the digits left over. -/
def collect (n : Nat) : List Char → Nat × List Char
  | [] => (n, [])
  | c :: cs =>
    let next := n * 10 + (c.toNat - '0'.toNat)
    if next < UInt64.size then collect next cs else (n, c :: cs)

/-- A power of ten as a double, up to the largest below infinity. -/
def powerOfTen (k : Nat) : Binary64 := Binary64.ofNat (Nat.pow 10 k)

/-- Divide by `10 ^ k`, in steps that are no larger than the largest power of ten. A whole
number of 64 bits has vanished after three steps. -/
def scaleDown (x : Binary64) (k : Nat) : Nat → Binary64
  | 0 => x
  | fuel + 1 =>
    if k ≤ 308 then x.dividedBy (powerOfTen k)
    else scaleDown (x.dividedBy (powerOfTen 308)) (k - 308) fuel

/-- `digits * 10 ^ exponent` in two roundings; none when it is too large for a double. -/
def scale? (digits : Nat) (exponent : Int) : Option Binary64 :=
  let x := Binary64.ofNat digits
  if digits = 0 then some x
  else if exponent < 0 then some (scaleDown x exponent.natAbs 4)
  else if 308 < exponent then none
  else
    let y := x.times (powerOfTen exponent.toNat)
    if y.isInfinite then none else some y

/-- The number with the given parts. -/
def number? (negative : Bool) (whole : List Char) (fraction : Option (List Char))
    (exponent : Option Int) : Option Json :=
  let (n, dropped) := collect 0 whole
  if fraction.isNone && exponent.isNone && dropped.isEmpty && !(negative && (n == 0 || 1 <<< 63 < n))
  then some (.int (if negative then -n else n))
  else
    let behind := fraction.getD []
    let (n, ignored) := collect n behind
    let shift : Int := dropped.length - (behind.length - ignored.length : Nat)
    (scale? n (exponent.getD 0 + shift)).map fun x => .double (if negative then x.negate else x)

/-- Read a point and at least one digit, if there is a point. -/
def readFraction : List Char → Option (Option (List Char) × List Char)
  | '.' :: cs =>
    let (digits, cs) := spanDigits cs
    if digits.isEmpty then none else some (some digits, cs)
  | cs => some (none, cs)

/-- Read an exponent, if there is one. -/
def readPower : List Char → Option (Option Int × List Char)
  | c :: cs =>
    if c = 'e' ∨ c = 'E' then
      let (negative, cs) := readSign cs
      let (digits, cs) := spanDigits cs
      if digits.isEmpty then none
      else some (some (if negative then -(digitsValue digits : Int) else digitsValue digits), cs)
    else some (none, c :: cs)
  | [] => some (none, [])

/-- Read a number. Only the number zero itself may begin with a zero. -/
def readNumber (cs : List Char) : Option (Json × List Char) := do
  let (negative, cs) := match cs with
    | '-' :: cs => (true, cs)
    | _ => (false, cs)
  let (whole, cs) := spanDigits cs
  if whole.isEmpty || (whole.head? == some '0' && 1 < whole.length) then none
  else
    let (fraction, cs) ← readFraction cs
    let (exponent, cs) ← readPower cs
    let number ← number? negative whole fraction exponent
    some (number, cs)

example : (readNumber "-12,".toList) = some (.int (-12), [',']) := by decide +kernel
example : (readNumber "-0".toList) = some (.double ⟨0x8000000000000000⟩, []) := by decide +kernel
example : (readNumber "1e400".toList) = none := by decide +kernel

end Json

end FacetedSearch
