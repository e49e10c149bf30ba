import FacetedSearch.Pattern.CharSet

/-!
# Pattern trees

## Main definitions

* `Place` — a condition on the characters around a position.
* `Node` — the tree of a pattern.
-/

namespace FacetedSearch

namespace Pattern

/-- A condition on a position between two characters; it takes up no text. -/
inductive Place where
  | textStart
  | textEnd
  | lineStart
  | lineEnd
  | wordEdge
  | noWordEdge
deriving DecidableEq, Repr

/-- Whether the place lies between `before` and `after`, each missing at an end of the text. -/
def Place.holds (before after : Option Char) : Place → Bool
  | textStart => before.isNone
  | textEnd => after.isNone
  | lineStart => before.all (· == '\n')
  | lineEnd => after.all (· == '\n')
  | wordEdge => before.any Unicode.isWord != after.any Unicode.isWord
  | noWordEdge => before.any Unicode.isWord == after.any Unicode.isWord

inductive Node where
  | empty
  | char (set : CharSet)
  | place (place : Place)
  /-- A part whose text is remembered under a number. -/
  | group (index : Nat) (body : Node)
  | seq (first second : Node)
  /-- The first choice is preferred. -/
  | alt (first second : Node)
  /-- At least `min` and at most `max` rounds; a greedy repetition prefers another round. -/
  | times (body : Node) (min : Nat) (max : Option Nat) (greedy : Bool)
deriving DecidableEq, Repr

namespace Node

def ofList (nodes : List Node) : Node :=
  match nodes with
  | [] => empty
  | [n] => n
  | n :: ns => seq n (ofList ns)

def ofChoices (nodes : List Node) : Node :=
  match nodes with
  | [] => empty
  | [n] => n
  | n :: ns => alt n (ofChoices ns)

/-- Whether the tree can match without taking up text. -/
def nullable : Node → Bool
  | empty | place _ => true
  | char _ => false
  | group _ body => body.nullable
  | seq p q => p.nullable && q.nullable
  | alt p q => p.nullable || q.nullable
  | times body min _ _ => min == 0 || body.nullable

/-- How many positions the tree has when its repetitions are written out. -/
def size : Node → Nat
  | empty | char _ | place _ => 1
  | group _ body => body.size + 1
  | seq p q | alt p q => p.size + q.size + 1
  | times body min max _ => (body.size + 1) * (max.getD (min + 1)) + 1

end Node

end Pattern

end FacetedSearch
