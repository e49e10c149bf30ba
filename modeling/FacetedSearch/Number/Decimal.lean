import FacetedSearch.Number.Binary64

/-!
# Decimal texts of doubles

## Main definitions

* `Binary64.ofDecimal` — the double nearest to `digits * 10 ^ exponent`.
* `Binary64.parse?` — read a decimal text, an infinity or a NaN.
* `Binary64.shortest` — the fewest digits that read back, and their exponent.
-/

namespace FacetedSearch

/-- The value of a list of decimal digits. -/
def digitsValue (cs : List Char) : Nat :=
  cs.foldl (fun n c => n * 10 + (c.toNat - '0'.toNat)) 0

/-- Split off the decimal digits at the front. -/
def spanDigits (cs : List Char) : List Char × List Char := cs.span Char.isDigit

/-- An optional sign: whether it is a minus, and what follows it. -/
def readSign : List Char → Bool × List Char
  | '+' :: cs => (false, cs)
  | '-' :: cs => (true, cs)
  | cs => (false, cs)

namespace Binary64

/-! ## Reading -/

/-- The double nearest to `digits * 10 ^ exponent`. Numbers far outside the range of doubles are
settled without computing the power. -/
def ofDecimal (negative : Bool) (digits : Nat) (exponent : Int) : Binary64 :=
  if digits = 0 then ofMagnitude negative 0
  else if 400 < exponent then infinity negative
  else if exponent + digits.log2 < -1100 then ofMagnitude negative 0
  else
    let (n, d) := scaled 10 digits 1 exponent
    round negative n d

/-- An exponent part such as `e-7`, which must use up the text; none is zero. -/
def readExponent : List Char → Option Int
  | [] => some 0
  | c :: cs =>
    if c = 'e' ∨ c = 'E' then
      let (negative, ds) := readSign cs
      if ds.isEmpty || ds.any (!·.isDigit) then none
      else some (if negative then -(digitsValue ds : Int) else digitsValue ds)
    else none

/-- The names of the numbers that have no digits, in any letter case. -/
def readName (negative : Bool) (cs : List Char) : Option Binary64 :=
  match String.ofList (cs.map Char.toLower) with
  | "inf" | "infinity" => some (infinity negative)
  | "nan" => some (notANumber negative)
  | _ => none

/-- Read a sign, then digits with an optional point and exponent, or a name. There must be a
digit before or behind the point. -/
def parse? (cs : List Char) : Option Binary64 :=
  let (negative, cs) := readSign cs
  let (whole, rest) := spanDigits cs
  let (fraction, rest) := match rest with
    | '.' :: rest => spanDigits rest
    | _ => ([], rest)
  if whole.isEmpty && fraction.isEmpty then readName negative cs
  else (readExponent rest).map fun e =>
    ofDecimal negative (digitsValue (whole ++ fraction)) (e - fraction.length)

example : parse? "52.37".toList = some ⟨0x404a2f5c28f5c28f⟩ := by decide +kernel
example : parse? "-.5e1".toList = some ⟨0xc014000000000000⟩ := by decide +kernel
example : parse? "-NaN".toList = some ⟨0xfff8000000000000⟩ := by decide +kernel
example : parse? "1e".toList = none := by decide +kernel
example : parse? ".".toList = none := by decide +kernel

/-! ## Writing -/

/-- The exponent of the leading digit of `num / den`, for a positive quotient between the
smallest and the largest double. -/
def decade (num den : Nat) : Int :=
  let guess : Int := (((num.log2 : Int) - den.log2 - 1) * 30103).fdiv 100000
  let reaches (k : Int) : Bool := let (n, d) := scaled 10 num den (-k); d ≤ n
  if reaches (guess + 1) then guess + 1 else if reaches guess then guess else guess - 1

/-- The nearest decimal with `count` digits, as digits and exponent of the last digit. -/
def nearestDecimal (num den : Nat) (count : Nat) : Nat × Int :=
  let exponent := decade num den - count + 1
  let (n, d) := scaled 10 num den (-exponent)
  (roundHalfEven n d, exponent)

/-- The fewest digits that read back as the absolute value of a finite double; among texts of
that length the nearest one. Seventeen digits always read back. -/
def shortest (x : Binary64) : Nat × Int :=
  if x.magnitude = 0 then (0, 0)
  else
    let (num, den) := x.ratio
    let candidates := (List.range 17).map fun i => nearestDecimal num den (i + 1)
    (candidates.find? fun (digits, e) => (ofDecimal false digits e).magnitude == x.magnitude).getD
      (nearestDecimal num den 17)

example : shortest ⟨0x3fb999999999999a⟩ = (1, -1) := by decide +kernel
example : shortest ⟨0x7fefffffffffffff⟩ = (17976931348623157, 292) := by decide +kernel
example : shortest ⟨1⟩ = (5, -324) := by decide +kernel

end Binary64

end FacetedSearch
