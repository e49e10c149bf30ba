import FacetedSearch.Pattern.Node

/-!
# Searching a text for a pattern

Among all matches the leftmost one wins, and among those that begin there the one that the
choices of the pattern prefer. The search reads the text once. At each position it holds the
threads that are still alive, the preferred ones first, and a thread that would continue
exactly like an earlier one is dropped; so a round of a repetition that takes up no text is
not followed by another of its kind, and the effort grows linearly with the text.

## Main definitions

* `Task`, `Thread` — what is left to do, and the groups seen so far.
* `Thread.unfold` — do one task that reads no character.
* `settle` — the threads that wait for a character, in order of preference.
* `scan` — the marks of the best match.
* `find?` — the match as texts.
-/

namespace FacetedSearch

namespace Pattern

/-! ## Marks -/

/-- Positions of group bounds: the key of the start of group `i` is `2 * i`, that of its end
`2 * i + 1`. -/
abbrev Marks := List (Nat × Nat)

/-- Set a mark; an older mark of the same key is forgotten. -/
def Marks.set (marks : Marks) (key pos : Nat) : Marks :=
  (key, pos) :: marks.filter (·.1 != key)

/-! ## Threads -/

inductive Task where
  | run (node : Node)
  /-- Remember the end of a group. -/
  | close (index : Nat)
  /-- Behind a round of a repetition: another round, or go on. -/
  | again (body : Node) (greedy : Bool)
deriving DecidableEq, Repr

structure Thread where
  tasks : List Task
  marks : Marks
deriving Repr

/-- A position of the text: its number and the characters around it. -/
structure Spot where
  pos : Nat
  before : Option Char
  after : Option Char

/-- Two ways to go on, the preferred one first. A lazy repetition prefers to stop. -/
def prefer (greedy : Bool) (another stop : List Task) : List (List Task) :=
  if greedy then [another, stop] else [stop, another]

/-- The task lists that a repetition leads to, for tasks `k` behind it. A free repetition comes
back to itself after a round; when a round may take up no text, the state behind a round is
another one, so that such a round can be the first and only one. -/
def rounds (body : Node) (min : Nat) (max : Option Nat) (greedy : Bool) (k : List Task) :
    List (List Task) :=
  match min, max with
  | 0, none =>
    let behind := if body.nullable then Task.again body greedy else .run (.times body 0 none greedy)
    prefer greedy (.run body :: behind :: k) k
  | 0, some 0 => [k]
  | 0, some (m + 1) => prefer greedy (.run body :: .run (.times body 0 (some m) greedy) :: k) k
  | 1, none => [.run body :: .again body greedy :: k]
  | n + 1, max => [.run body :: .run (.times body n (max.map (· - 1)) greedy) :: k]

/-- Do the first task of a thread, unless it reads a character. -/
def Thread.unfold (spot : Spot) (t : Thread) : List Thread :=
  match t.tasks with
  | [] | .run (.char _) :: _ => [t]
  | .run .empty :: k => [⟨k, t.marks⟩]
  | .run (.place p) :: k => if p.holds spot.before spot.after then [⟨k, t.marks⟩] else []
  | .run (.group i body) :: k => [⟨.run body :: .close i :: k, t.marks.set (2 * i) spot.pos⟩]
  | .close i :: k => [⟨k, t.marks.set (2 * i + 1) spot.pos⟩]
  | .run (.seq p q) :: k => [⟨.run p :: .run q :: k, t.marks⟩]
  | .run (.alt p q) :: k => [⟨.run p :: k, t.marks⟩, ⟨.run q :: k, t.marks⟩]
  | .run (.times body min max greedy) :: k =>
    (rounds body min max greedy k).map fun tasks => ⟨tasks, t.marks⟩
  | .again body greedy :: k =>
    (prefer greedy (.run body :: .again body greedy :: k) k).map fun tasks => ⟨tasks, t.marks⟩

/-- Read a character, if the thread waits for it. -/
def Thread.read (c : Char) (t : Thread) : Option Thread :=
  match t.tasks with
  | .run (.char set) :: k => if set.contains c then some ⟨k, t.marks⟩ else none
  | _ => none

/-! ## Search -/

/-- Work off the pending threads in order of preference, up to the first one that has nothing
left to do. The result holds the threads that wait for a character, and the marks of the
finished one. Task lists in `seen` have been worked off before. -/
def settle (spot : Spot) : Nat → List Thread → List (List Task) → List Thread × Option Marks
  | 0, _, _ => ([], none)
  | _, [], _ => ([], none)
  | fuel + 1, t :: ts, seen =>
    if t.tasks ∈ seen then settle spot fuel ts seen
    else match t.tasks with
      | [] => ([], some t.marks)
      | .run (.char _) :: _ =>
        let (waiting, found) := settle spot fuel ts (t.tasks :: seen)
        (t :: waiting, found)
      | _ => settle spot fuel (t.unfold spot ++ ts) (t.tasks :: seen)

/-- Enough steps to work off every task list of a pattern twice. -/
def effort (node : Node) (threads : List Thread) : Nat := 8 * node.size + threads.length + 16

/-- Search on from a position. A match can begin here as long as none has been found, and only
preferred threads outlive a match. -/
def scan (node : Node) (pos : Nat) (before : Option Char) (threads : List Thread)
    (best : Option Marks) (rest : List Char) : Option Marks :=
  let start : Thread := ⟨[.run (.group 0 node)], []⟩
  let pending := if best.isNone then threads ++ [start] else threads
  let (waiting, found) :=
    settle ⟨pos, before, rest.head?⟩ (effort node pending) pending []
  let best := found.or best
  match rest with
  | [] => best
  | c :: cs => scan node (pos + 1) (some c) (waiting.filterMap (·.read c)) best cs

/-! ## Matches -/

/-- A match in a text. -/
structure Match where
  subject : List Char
  marks : Marks

namespace Match

/-- Where group `i` begins and ends, if it took part in the match. -/
def bounds? (m : Match) (i : Nat) : Option (Nat × Nat) := do
  let first ← m.marks.lookup (2 * i)
  let last ← m.marks.lookup (2 * i + 1)
  some (first, last)

/-- The text of group `i`; empty when the group took no part. The whole match is group 0. -/
def group (m : Match) (i : Nat) : List Char :=
  match m.bounds? i with
  | some (first, last) => (m.subject.take last).drop first
  | none => []

/-- The text before the match. -/
def before (m : Match) : List Char := m.subject.take ((m.marks.lookup 0).getD 0)

/-- The text behind the match. -/
def after (m : Match) : List Char := m.subject.drop ((m.marks.lookup 1).getD 0)

end Match

/-- The leftmost match of a pattern in a text. -/
def Node.find? (node : Node) (subject : List Char) : Option Match :=
  (scan node 0 none [] none subject).map fun marks => ⟨subject, marks⟩

end Pattern

end FacetedSearch
