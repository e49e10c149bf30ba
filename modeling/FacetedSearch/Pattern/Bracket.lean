import FacetedSearch.Pattern.Escape

/-!
# Classes in brackets

A class lists characters, ranges, escapes and named ASCII classes. A closing bracket and
dashes are characters of their own at the front, and a dash also at the end.

## Main definitions

* `readItem` — a character, an escape or a range.
* `readBracket` — the items of a class up to its closing bracket.
-/

namespace FacetedSearch

namespace Pattern

/-- An element of a class: a character or an escape. -/
def readElement : List Char → Option (Symbol × List Char)
  | '\\' :: cs => readEscape cs
  | c :: cs => some (.literal c, cs)
  | [] => none

/-- A class has no room for conditions on places. -/
def Symbol.toSet? : Symbol → Option CharSet
  | literal c => some (.single c)
  | set s => some s
  | place _ => none

/-- A single element, or a range of characters that must not run downwards. -/
def readItem (cs : List Char) : Option (CharSet × List Char) := do
  let (low, cs) ← readElement cs
  match cs with
  | '-' :: c :: rest =>
    if c = ']' ∨ c = '-' then some (← low.toSet?, cs)
    else
      match low, ← readElement (c :: rest) with
      | .literal lo, (.literal hi, rest) => if lo ≤ hi then some (.range lo hi, rest) else none
      | _, _ => none
  | _ => some (← low.toSet?, cs)

/-- A named class such as `[:alpha:]` or `[:^digit:]`, behind its opening bracket. -/
def readNamed (ignoreCase : Bool) : List Char → Option (CharSet × List Char)
  | ':' :: cs => do
    let (negated, cs) := match cs with
      | '^' :: cs => (true, cs)
      | _ => (false, cs)
    let (name, cs) ← Text.cut (· == ':') cs
    match cs with
    | ']' :: cs =>
      let set ← CharSet.ascii? (String.ofList name)
      some (.negatedIf negated (.anyCaseIf ignoreCase set), cs)
    | _ => none
  | _ => none

/-- The items up to the closing bracket. Classes inside classes and operations on classes are
refused. -/
def readItems (ignoreCase : Bool) : Nat → List Char → Option (List CharSet × List Char)
  | 0, _ | _, [] => none
  | n + 1, c :: cs => do
    if c = ']' then some ([], cs)
    else if (c = '&' ∨ c = '-' ∨ c = '~') ∧ cs.head? = some c then none
    else
      let (item, cs) ← if c = '[' then readNamed ignoreCase cs else readItem (c :: cs)
      let (items, cs) ← readItems ignoreCase n cs
      some (item :: items, cs)

/-- The characters at the front that stand for themselves: dashes, or one closing bracket. -/
def leadingItems (cs : List Char) : List CharSet × List Char :=
  match cs.span (· == '-') with
  | ([], ']' :: cs) => ([.single ']'], cs)
  | (dashes, cs) => (dashes.map .single, cs)

/-- A class, behind its opening bracket, and the number of its items. -/
def readBracket (ignoreCase : Bool) (cs : List Char) : Option (CharSet × Nat × List Char) := do
  let (negated, cs) := match cs with
    | '^' :: cs => (true, cs)
    | _ => (false, cs)
  let (leading, cs) := leadingItems cs
  let (items, cs) ← readItems ignoreCase (cs.length + 1) cs
  let items := leading ++ items
  some (.negatedIf negated (.anyCaseIf ignoreCase (.ofList items)), items.length, cs)

end Pattern

end FacetedSearch
