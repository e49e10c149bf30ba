import FacetedSearch.Filter.Interval
import FacetedSearch.Text.Letters

/-!
# Filters

A filter restricts a search. Leaves restrict one field or the set of documents; composites
join other filters. All restrictions of a request hold together: its root is a list of conjuncts.

## Main definitions

* `Filter` — the tree.
* `Filter.fieldName?` — the field of a *named* leaf: a term, wildcard or range.
* `Filter.withField` — the same leaf on another field.
* `Filter.children` — the parts of a composite.
* `Conjunction` — the conjuncts of a root, in the order in which they were added.
* `Conjunction.constrains` — whether a named conjunct restricts a field.
-/

namespace FacetedSearch

inductive Filter where
  /-- The field has one of the values. -/
  | term (field : String) (values : List String)
  /-- The field has a value of the shape `pattern`, in which `*` and `?` stand for others. -/
  | wildcard (field : String) (pattern : String)
  /-- The field has a value in one of the intervals. -/
  | range (field : String) (intervals : List Interval)
  /-- The document is one of these. -/
  | ids (ids : List String)
  | all (children : List Filter)
  | any (children : List Filter)
deriving Repr, Inhabited

namespace Filter

/-- Induction over a tree: a composite may use what is known of its parts. -/
@[elab_as_elim, induction_eliminator]
theorem recOnParts {motive : Filter → Prop}
    (term : ∀ field values, motive (term field values))
    (wildcard : ∀ field pattern, motive (wildcard field pattern))
    (range : ∀ field intervals, motive (range field intervals))
    (ids : ∀ ids, motive (.ids ids))
    (all : ∀ children, (∀ c ∈ children, motive c) → motive (all children))
    (any : ∀ children, (∀ c ∈ children, motive c) → motive (any children)) :
    ∀ f, motive f
  | .term f vs => term f vs
  | .wildcard f v => wildcard f v
  | .range f is => range f is
  | .ids vs => ids vs
  | .all cs => all cs fun c _ => recOnParts term wildcard range ids all any c
  | .any cs => any cs fun c _ => recOnParts term wildcard range ids all any c

/-! ## Equality -/

mutual

def beq : Filter → Filter → Bool
  | term f vs, term g ws => f == g && vs == ws
  | wildcard f v, wildcard g w => f == g && v == w
  | range f is, range g js => f == g && is == js
  | ids vs, ids ws => vs == ws
  | all cs, all ds => beqs cs ds
  | any cs, any ds => beqs cs ds
  | _, _ => false

def beqs : List Filter → List Filter → Bool
  | [], [] => true
  | c :: cs, d :: ds => beq c d && beqs cs ds
  | _, _ => false

end

mutual

theorem beq_iff : ∀ a b : Filter, beq a b = true ↔ a = b
  | term .., b => by cases b <;> simp [beq]
  | wildcard .., b => by cases b <;> simp [beq]
  | range .., b => by cases b <;> simp [beq]
  | ids .., b => by cases b <;> simp [beq]
  | all cs, b => by cases b <;> simp [beq, beqs_iff cs]
  | any cs, b => by cases b <;> simp [beq, beqs_iff cs]

theorem beqs_iff : ∀ as bs : List Filter, beqs as bs = true ↔ as = bs
  | [], bs => by cases bs <;> simp [beqs]
  | a :: as, bs => by cases bs <;> simp [beqs, beq_iff a, beqs_iff as]

end

instance : DecidableEq Filter := fun a b => decidable_of_iff (beq a b = true) (beq_iff a b)

/-! ## Names and parts -/

/-- The field of a named leaf; the other filters have none. -/
def fieldName? : Filter → Option String
  | term f _ | wildcard f _ | range f _ => some f
  | ids _ | all _ | any _ => none

/-- Put a named leaf on another field; the other filters stay as they are. -/
def withField (field : String) : Filter → Filter
  | term _ vs => term field vs
  | wildcard _ v => wildcard field v
  | range _ is => range field is
  | other => other

/-- The parts of a composite. -/
def children : Filter → List Filter
  | all cs | any cs => cs
  | _ => []

@[simp] theorem fieldName?_withField (field : String) (f : Filter) :
    (f.withField field).fieldName? = f.fieldName?.map fun _ => field := by cases f <;> rfl

theorem withField_fieldName? {f : Filter} {field : String} (h : f.fieldName? = some field) :
    f.withField field = f := by cases f <;> simp_all [fieldName?, withField]

end Filter

/-- Whether a value is to be matched as a pattern. -/
def isWildcard (value : String) : Bool := value.toList.any fun c => c == '*' || c == '?'

/-! ## Roots -/

structure Conjunction where
  conjuncts : List Filter := []
deriving DecidableEq, Repr, Inhabited

namespace Conjunction

/-- Add a conjunct behind the others. -/
def push (root : Conjunction) (f : Filter) : Conjunction := ⟨root.conjuncts ++ [f]⟩

/-- The conjunction as a filter of its own. -/
def toFilter (root : Conjunction) : Filter := .all root.conjuncts

def isEmpty (root : Conjunction) : Bool := root.conjuncts.isEmpty

/-- Whether some direct named conjunct is on `field`, up to ASCII case. -/
def constrains (root : Conjunction) (field : String) : Bool :=
  (root.conjuncts.filterMap Filter.fieldName?).any (Text.same · field)

@[simp] theorem conjuncts_push (root : Conjunction) (f : Filter) :
    (root.push f).conjuncts = root.conjuncts ++ [f] := rfl

end Conjunction

end FacetedSearch
