import FacetedSearch.Json.Value

/-!
# Records as JSON objects

The parts of a record are members of an object, found by their names. Members that the record
does not have are passed over. In place of the object an array of the parts is read as well; the
order of the parts is then the one in which the record lists them.

## Main definitions

* `Json.record?` — the parts of a record by their names.
* `Json.variant?` — the same for a record whose type decides on its parts.
* `Json.required`, `Json.nullable`, `Json.defaulted` — read a part of a record.
* `Json.ofStrings`, `Json.ofOption` — write lists of texts and optional parts.
-/

namespace FacetedSearch

namespace Json

variable {α : Type}

/-- The members of an object. -/
abbrev Members := List (String × Json)

/-! ## Reading -/

/-- A part that must be there. -/
def required (name : String) (read : Json → Option α) (ms : Members) : Option α :=
  (ms.lookup name).bind read

/-- A part that may be missing or null. -/
def nullable (name : String) (read : Json → Option α) (ms : Members) : Option (Option α) :=
  match ms.lookup name with
  | none | some null => some none
  | some j => (read j).map some

/-- A part that has a value of its own when it is missing. -/
def defaulted (name : String) (value : α) (read : Json → Option α) (ms : Members) : Option α :=
  match ms.lookup name with
  | none => some value
  | some j => read j

/-- The parts of a record. An array holds them in the order of `names`, and at least the first
`least` of them; it holds nothing else. -/
def record? (names : List String) (least : Nat) : Json → Option Members
  | obj ms => some ms
  | arr js => if least ≤ js.length ∧ js.length ≤ names.length then some (names.zip js) else none
  | _ => none

def strings? (j : Json) : Option (List String) := j.list? string?

def count? (j : Json) : Option UInt64 := (j.nat? 64).map UInt64.ofNat

def level? (j : Json) : Option UInt32 := (j.nat? 32).map UInt32.ofNat

def window? (j : Json) : Option Int64 := j.int?.map Int64.ofInt

/-- The type of a record and its parts. In an array the type stands in front of them. -/
def variant? (names : String → List String) (least : Nat) : Json → Option (String × Members)
  | obj ms => do return (← required "type" string? ms, ms)
  | arr (j :: js) => do
    let type ← j.string?
    return (type, ← record? (names type) least (arr js))
  | _ => none

/-! ## Writing -/

def ofStrings (ss : List String) : Json := arr (ss.map str)

def ofOption (write : α → Json) (x : Option α) : Json := x.elim null write

def ofList (write : α → Json) (xs : List α) : Json := arr (xs.map write)

def ofCount (n : UInt64) : Json := int n.toNat

def ofLevel (n : UInt32) : Json := int n.toNat

def ofWindow (n : Int64) : Json := int n.toInt

/-- A member that is left out when there is nothing to write. -/
def memberOf (name : String) (write : α → Json) (x : Option α) : Members :=
  (x.map fun a => (name, write a)).toList

end Json

end FacetedSearch
