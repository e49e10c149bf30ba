import FacetedSearch.Text.Blank
import FacetedSearch.Unicode.Case
import FacetedSearch.Unicode.Letter

/-!
# Sets of characters

What one position of a pattern accepts.

## Main definitions

* `CharSet` — ranges, the named classes, and their combinations.
* `CharSet.contains` — membership.
* `CharSet.ascii?` — the classes of ASCII characters that have a name.
-/

namespace FacetedSearch

inductive CharSet where
  | all
  | range (lo hi : Char)
  | digit
  | blank
  | word
  | union (s t : CharSet)
  | compl (s : CharSet)
  /-- The set together with the case variants of its members. -/
  | anyCase (s : CharSet)
deriving DecidableEq, Repr

namespace CharSet

def contains : CharSet → Char → Bool
  | all, _ => true
  | range lo hi, c => lo ≤ c && c ≤ hi
  | digit, c => Unicode.isDecimal c
  | blank, c => Text.isBlank c
  | word, c => Unicode.isWord c
  | union s t, c => s.contains c || t.contains c
  | compl s, c => !s.contains c
  | anyCase s, c => (Unicode.variants c).any s.contains

def single (c : Char) : CharSet := range c c

def empty : CharSet := compl all

/-- The set `s`, or its complement. -/
def negatedIf (negated : Bool) (s : CharSet) : CharSet := if negated then compl s else s

/-- The set `s`, or its closure under case variants. -/
def anyCaseIf (ignoreCase : Bool) (s : CharSet) : CharSet := if ignoreCase then anyCase s else s

def ofList (sets : List CharSet) : CharSet := sets.foldr union empty

@[simp] theorem contains_single (a c : Char) : (single a).contains c = (a == c) := by
  rw [Bool.eq_iff_iff, beq_iff_eq, single, contains, Bool.and_eq_true, decide_eq_true_eq,
    decide_eq_true_eq]
  exact ⟨fun h => Char.le_antisymm h.1 h.2, fun h => h ▸ ⟨Char.le_refl _, Char.le_refl _⟩⟩

theorem contains_ofList (sets : List CharSet) (c : Char) :
    (ofList sets).contains c = sets.any (·.contains c) := by
  induction sets with
  | nil => simp [ofList, empty, contains]
  | cons s ss ih => simpa [ofList, contains] using congrArg (s.contains c || ·) ih

/-! ## Classes with a name -/

def lowerAscii : CharSet := range 'a' 'z'

def upperAscii : CharSet := range 'A' 'Z'

def digitAscii : CharSet := range '0' '9'

/-- The class of ASCII characters called `name`. -/
def ascii? (name : String) : Option CharSet :=
  match name with
  | "alnum" => some (ofList [digitAscii, upperAscii, lowerAscii])
  | "alpha" => some (ofList [upperAscii, lowerAscii])
  | "ascii" => some (range '\x00' '\x7f')
  | "blank" => some (ofList [single '\t', single ' '])
  | "cntrl" => some (ofList [range '\x00' '\x1f', single '\x7f'])
  | "digit" => some digitAscii
  | "graph" => some (range '!' '~')
  | "lower" => some lowerAscii
  | "print" => some (range ' ' '~')
  | "punct" => some (ofList [range '!' '/', range ':' '@', range '[' '\x60', range '\x7b' '~'])
  | "space" => some (ofList [range '\t' '\r', single ' '])
  | "upper" => some upperAscii
  | "word" => some (ofList [digitAscii, upperAscii, single '_', lowerAscii])
  | "xdigit" => some (ofList [digitAscii, range 'A' 'F', range 'a' 'f'])
  | _ => none

end CharSet

end FacetedSearch
