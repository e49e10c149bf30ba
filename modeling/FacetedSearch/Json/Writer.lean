import FacetedSearch.Json.Text
import FacetedSearch.Number.Decimal

/-!
# Writing JSON texts

## Main definitions

* `Json.renderDouble` — the fewest digits that read back, always with a point or an exponent.
* `Json.render` — the text of a value, without spaces.
-/

namespace FacetedSearch

namespace Json

/-- Digits with a point before the last `places` of them, or with an exponent when the point
would stand far from the digits. -/
def placePoint (digits : List Char) (exponent : Int) : List Char :=
  let point : Int := digits.length + exponent
  if 0 ≤ exponent ∧ point ≤ 16 then
    digits ++ List.replicate exponent.toNat '0' ++ ['.', '0']
  else if 0 < point ∧ point ≤ 16 then
    digits.take point.toNat ++ '.' :: digits.drop point.toNat
  else if -5 < point ∧ point ≤ 0 then
    '0' :: '.' :: (List.replicate (-point).toNat '0' ++ digits)
  else
    let mantissa := match digits with
      | [] => []
      | [d] => [d]
      | d :: ds => d :: '.' :: ds
    mantissa ++ 'e' :: (toString (point - 1)).toList

/-- A double; JSON has no text for infinities and NaN, which become null. -/
def renderDouble (x : Binary64) : String :=
  if x.isFinite then
    let (digits, exponent) := x.shortest
    let text := String.ofList (placePoint (Nat.toDigits 10 digits) exponent)
    if x.negative then "-" ++ text else text
  else "null"

mutual

def render : Json → String
  | null => "null"
  | bool true => "true"
  | bool false => "false"
  | int n => toString n
  | double x => renderDouble x
  | str s => writeString s
  | arr items => "[" ++ String.intercalate "," (renderItems items) ++ "]"
  | obj members => "\x7b" ++ String.intercalate "," (renderMembers members) ++ "\x7d"

def renderItems : List Json → List String
  | [] => []
  | j :: js => render j :: renderItems js

def renderMembers : List (String × Json) → List String
  | [] => []
  | (name, j) :: ms => (writeString name ++ ":" ++ render j) :: renderMembers ms

end

end Json

end FacetedSearch
