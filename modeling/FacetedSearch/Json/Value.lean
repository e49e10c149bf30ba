import FacetedSearch.Number.Binary64

/-!
# JSON values

## Main definitions

* `Json` — a value; integers are kept apart from doubles, and the members of an object have
  an order that carries no meaning.
* `Json.members?`, `Json.array?`, `Json.string?`, `Json.bool?`, `Json.nat?`, `Json.int?` — the
  content of a value of one kind.
-/

namespace FacetedSearch

inductive Json where
  | null
  | bool (b : Bool)
  | int (n : Int)
  | double (x : Binary64)
  | str (s : String)
  | arr (items : List Json)
  | obj (members : List (String × Json))
deriving Repr, Inhabited

namespace Json

/-! ## Equality -/

mutual

def beq : Json → Json → Bool
  | null, null => true
  | bool a, bool b => a == b
  | int a, int b => a == b
  | double a, double b => a == b
  | str a, str b => a == b
  | arr as, arr bs => beqItems as bs
  | obj as, obj bs => beqMembers as bs
  | _, _ => false

def beqItems : List Json → List Json → Bool
  | [], [] => true
  | a :: as, b :: bs => beq a b && beqItems as bs
  | _, _ => false

def beqMembers : List (String × Json) → List (String × Json) → Bool
  | [], [] => true
  | (k, a) :: as, (l, b) :: bs => k == l && beq a b && beqMembers as bs
  | _, _ => false

end

mutual

theorem beq_iff : ∀ a b : Json, beq a b = true ↔ a = b
  | null, b => by cases b <;> simp [beq]
  | bool .., b => by cases b <;> simp [beq]
  | int .., b => by cases b <;> simp [beq]
  | double .., b => by cases b <;> simp [beq]
  | str .., b => by cases b <;> simp [beq]
  | arr as, b => by cases b <;> simp [beq, beqItems_iff as]
  | obj as, b => by cases b <;> simp [beq, beqMembers_iff as]

theorem beqItems_iff : ∀ as bs : List Json, beqItems as bs = true ↔ as = bs
  | [], bs => by cases bs <;> simp [beqItems]
  | a :: as, bs => by cases bs <;> simp [beqItems, beq_iff a, beqItems_iff as]

theorem beqMembers_iff : ∀ as bs : List (String × Json), beqMembers as bs = true ↔ as = bs
  | [], bs => by cases bs <;> simp [beqMembers]
  | (k, a) :: as, bs => by
    rcases bs with _ | ⟨⟨l, b⟩, bs⟩ <;>
      simp [beqMembers, beq_iff a, beqMembers_iff as]

end

instance : DecidableEq Json := fun a b => decidable_of_iff (beq a b = true) (beq_iff a b)

/-! ## Content by kind -/

def members? : Json → Option (List (String × Json))
  | obj members => some members
  | _ => none

def array? : Json → Option (List Json)
  | arr items => some items
  | _ => none

def string? : Json → Option String
  | str s => some s
  | _ => none

def bool? : Json → Option Bool
  | bool b => some b
  | _ => none

/-- A natural number of at most `width` bits. -/
def nat? (width : Nat) : Json → Option Nat
  | int n => if 0 ≤ n ∧ n < 1 <<< width then some n.toNat else none
  | _ => none

/-- An integer of 64 bits with a sign. -/
def int? : Json → Option Int
  | int n => if Int64.minValue.toInt ≤ n ∧ n ≤ Int64.maxValue.toInt then some n else none
  | _ => none

/-- A number of either kind as a double. -/
def double? : Json → Option Binary64
  | int n => some (Binary64.round (n < 0) n.natAbs 1)
  | double x => some x
  | _ => none

/-- An array whose items can all be read. -/
def list? {α : Type} (item : Json → Option α) (j : Json) : Option (List α) := do
  (← j.array?).mapM item

end Json

end FacetedSearch
