/-!
# Doubles

A double of the binary interchange format with 64 bits, kept as its bit pattern, with
rounding from exact quotients of natural numbers.

## Main definitions

* `Binary64` — the pattern: sign, eleven bits of exponent, 52 bits of fraction.
* `Binary64.round` — the double nearest to a quotient, ties to the even pattern.
* `Binary64.times`, `Binary64.dividedBy` — rounded products and quotients of magnitudes.
-/

namespace FacetedSearch

structure Binary64 where
  bits : UInt64
deriving DecidableEq, Repr, Inhabited

/-- The integer nearest to `num / den`; a tie goes to the even neighbour. -/
def roundHalfEven (num den : Nat) : Nat :=
  let q := num / den
  let r := num % den
  if den < 2 * r || (2 * r == den && q % 2 == 1) then q + 1 else q

namespace Binary64

/-! ## Patterns -/

/-- The pattern with the given sign and remaining 63 bits. -/
def ofMagnitude (negative : Bool) (magnitude : Nat) : Binary64 :=
  ⟨UInt64.ofNat (if negative then 1 <<< 63 + magnitude else magnitude)⟩

/-- The pattern of infinity without its sign. Larger ones are not numbers. -/
def infiniteMagnitude : Nat := 2047 <<< 52

def infinity (negative : Bool) : Binary64 := ofMagnitude negative infiniteMagnitude

def notANumber (negative : Bool) : Binary64 := ofMagnitude negative (infiniteMagnitude + 1 <<< 51)

def negative (x : Binary64) : Bool := 1 <<< 63 ≤ x.bits.toNat

def magnitude (x : Binary64) : Nat := x.bits.toNat % 1 <<< 63

def isInfinite (x : Binary64) : Bool := x.magnitude == infiniteMagnitude

def isNaN (x : Binary64) : Bool := infiniteMagnitude < x.magnitude

def isFinite (x : Binary64) : Bool := x.magnitude < infiniteMagnitude

/-- The opposite number. -/
def negate (x : Binary64) : Binary64 := ofMagnitude (!x.negative) x.magnitude

/-! ## Values -/

/-- Numbers `m` and `e` such that a finite double has the absolute value `m * 2 ^ e`. -/
def significand (x : Binary64) : Nat × Int :=
  let exponent : Nat := x.magnitude >>> 52
  let fraction : Nat := x.magnitude % 1 <<< 52
  if exponent = 0 then (fraction, -1074) else (fraction + 1 <<< 52, (exponent : Int) - 1075)

/-- `num * base ^ e / den` as a quotient of natural numbers. -/
def scaled (base num den : Nat) (e : Int) : Nat × Nat :=
  (num * base.pow e.toNat, den * base.pow (-e).toNat)

/-- The absolute value of a finite double as a quotient. -/
def ratio (x : Binary64) : Nat × Nat :=
  let (m, e) := x.significand
  scaled 2 m 1 e

/-- The exponent of the last bit that a double near `num / den` keeps. -/
def lastPlace (num den : Nat) : Int :=
  let k : Int := (num.log2 : Int) - den.log2
  let (n, d) := scaled 2 num den (-k)
  max (-1074) (if d ≤ n then k - 52 else k - 53)

/-- The double nearest to `num / den` with the given sign. The patterns of doubles of one sign
are consecutive, so a carry out of the fraction moves to the next exponent by itself. -/
def round (negative : Bool) (num den : Nat) : Binary64 :=
  if num = 0 then ofMagnitude negative 0
  else
    let e := lastPlace num den
    let (n, d) := scaled 2 num den (-e)
    let magnitude := (e + 1074).toNat <<< 52 + roundHalfEven n d
    ofMagnitude negative (min magnitude infiniteMagnitude)

def ofNat (n : Nat) : Binary64 := round false n 1

/-! ## Arithmetic on finite doubles that are not negative -/

def times (x y : Binary64) : Binary64 :=
  round false (x.ratio.1 * y.ratio.1) (x.ratio.2 * y.ratio.2)

def dividedBy (x y : Binary64) : Binary64 :=
  round false (x.ratio.1 * y.ratio.2) (x.ratio.2 * y.ratio.1)

example : round false 1 10 = ⟨0x3fb999999999999a⟩ := by decide +kernel
example : round true 1 (2 ^ 1074) = ⟨0x8000000000000001⟩ := by decide +kernel
example : round false (2 ^ 1024 - 2 ^ 970) 1 = infinity false := by decide +kernel
example : round false (2 ^ 1024 - 2 ^ 970 - 1) 1 = ⟨0x7fefffffffffffff⟩ := by decide +kernel

end Binary64

end FacetedSearch
