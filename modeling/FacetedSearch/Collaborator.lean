import FacetedSearch.Error
import FacetedSearch.Json.Value
import FacetedSearch.Request
import FacetedSearch.Unicode.Display

/-!
# The parser and the index

Parsing an expression and answering a request is the work of collaborators. A parser finds
filters in a text and leaves over a keyword; an index returns documents and counts. Every call
of one of them is noted, in order.

## Main definitions

* `Parsed`, `ExpressionParser` — the answer of a parser, and a parser.
* `ExpressionParser.scripted` — a parser that knows certain expressions.
* `Count`, `AggregationResponse` — how many documents have a value or lie in a bucket.
* `Response`, `Provider` — the documents of a page with the counts of the aggregations, and
  whatever answers requests.
* `Consulted` — an outcome, and the calls that were made on the way.
* `Consulted.ask`, `Consulted.send` — call a parser or an index.
-/

namespace FacetedSearch

/-! ## Expressions -/

structure Parsed where
  keyword : String := ""
  filters : List Filter := []
deriving DecidableEq, Repr

abbrev ExpressionParser := String → Except SearchError Parsed

namespace ExpressionParser

/-- Answer from a list of expressions; the last entry of an expression counts. -/
def scripted (scripts : List (String × Parsed)) : ExpressionParser := fun expression =>
  match scripts.reverse.lookup expression with
  | some parsed => .ok parsed
  | none => .error (.unparsable ("no script for expression " ++ Text.quoted expression))

end ExpressionParser

/-! ## Answers -/

/-- The number of documents for a value, or for the id of a bucket. -/
structure Count where
  id : String
  count : UInt64
deriving DecidableEq, Repr

/-- The counts of the aggregation with an id. -/
structure AggregationResponse where
  id : String
  values : List Count := []
deriving DecidableEq, Repr

structure Response where
  /-- The documents are not looked at. -/
  documents : List Json := []
  totalCount : UInt64 := 0
  aggregations : List AggregationResponse := []
deriving DecidableEq, Repr

abbrev Provider := Request → Except SearchError Response

/-! ## Calls -/

/-- An outcome, with the expressions that parsers were asked for and the requests that were sent
to an index. -/
structure Consulted (α : Type) where
  asked : List String
  sent : List Request
  result : Except SearchError α

namespace Consulted

variable {α β : Type}

/-- Go on with the outcome of `x`; nobody is called after an error. -/
def andThen (x : Consulted α) (f : α → Consulted β) : Consulted β :=
  match x.result with
  | .ok a => ⟨x.asked ++ (f a).asked, x.sent ++ (f a).sent, (f a).result⟩
  | .error e => ⟨x.asked, x.sent, .error e⟩

instance : Monad Consulted where
  pure a := ⟨[], [], .ok a⟩
  bind := andThen

/-- An outcome for which nobody is called. -/
def ofExcept (result : Except SearchError α) : Consulted α := ⟨[], [], result⟩

/-- Ask a parser for an expression. -/
def ask (parser : ExpressionParser) (expression : String) : Consulted Parsed :=
  ⟨[expression], [], parser expression⟩

/-- Send a request to an index. -/
def send (provider : Provider) (request : Request) : Consulted Response :=
  ⟨[], [request], provider request⟩

@[simp] theorem asked_pure (a : α) : (pure a : Consulted α).asked = [] := rfl

@[simp] theorem sent_pure (a : α) : (pure a : Consulted α).sent = [] := rfl

@[simp] theorem result_pure (a : α) : (pure a : Consulted α).result = .ok a := rfl

theorem bind_of_ok {x : Consulted α} {a : α} (h : x.result = .ok a) (f : α → Consulted β) :
    x >>= f = ⟨x.asked ++ (f a).asked, x.sent ++ (f a).sent, (f a).result⟩ := by
  simp [bind, andThen, h]

theorem bind_of_error {x : Consulted α} {e : SearchError} (h : x.result = .error e)
    (f : α → Consulted β) : x >>= f = ⟨x.asked, x.sent, .error e⟩ := by
  simp [bind, andThen, h]

@[simp] theorem pure_bind (a : α) (f : α → Consulted β) : pure a >>= f = f a := by
  simp [bind, andThen]

/-- Only the result changes when a function is applied to it at the end. -/
theorem bind_pure_comp (x : Consulted α) (f : α → β) :
    (x >>= fun a => pure (f a)) = ⟨x.asked, x.sent, x.result.map f⟩ := by
  cases h : x.result with
  | ok a => rw [bind_of_ok h]; simp [Except.map]
  | error e => rw [bind_of_error h]; rfl

@[simp] theorem result_bind (x : Consulted α) (f : α → Consulted β) :
    (x >>= f).result = x.result >>= fun a => (f a).result := by
  cases h : x.result with
  | ok a => rw [bind_of_ok h]; rfl
  | error e => rw [bind_of_error h]; rfl

theorem result_bind_eq_ok_iff {x : Consulted α} {f : α → Consulted β} {b : β} :
    (x >>= f).result = .ok b ↔ ∃ a, x.result = .ok a ∧ (f a).result = .ok b := by
  rw [result_bind]
  cases x.result <;> simp [bind, Except.bind]

end Consulted

end FacetedSearch
