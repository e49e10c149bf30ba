import FacetedSearch.Number.Decimal
import FacetedSearch.Pattern.Bracket

/-!
# Reading patterns

The notation has literals, escapes, classes, places, groups, choices and repetitions. Letter
case does not count unless a flag says so.

## Main definitions

* `Flags` — the settings that flags such as `(?i)` change.
* `Part` — a node with what the grammar needs to know about it.
* `readLevel` — the choices up to the end of a group or of the pattern.
* `read?` — the tree of a pattern and the names of its groups.
-/

namespace FacetedSearch

namespace Pattern

/-! ## Flags -/

structure Flags where
  ignoreCase : Bool := true
  lines : Bool := false
  dotAll : Bool := false
deriving DecidableEq, Repr

/-- Set the flag with a letter. -/
def Flags.set? (flags : Flags) (letter : Char) (value : Bool) : Option Flags :=
  match letter with
  | 'i' => some { flags with ignoreCase := value }
  | 'm' => some { flags with lines := value }
  | 's' => some { flags with dotAll := value }
  | _ => none

/-- Flag letters up to a colon or a parenthesis, which is returned. Letters behind a dash are
switched off; no letter may occur twice, and a dash needs a letter behind it. -/
def readFlags (flags : Flags) (off : Bool) (seen : List Char) :
    List Char → Option (Flags × Char × List Char)
  | [] => none
  | c :: cs =>
    if c = ':' ∨ c = ')' then
      if seen.head? = some '-' then none else some (flags, c, cs)
    else if c ∈ seen then none
    else if c = '-' then readFlags flags true (c :: seen) cs
    else do readFlags (← flags.set? c !off) off (c :: seen) cs

/-! ## Parts -/

/-- A node with the depth of its notation. Flags are a part too, one that cannot be repeated. -/
structure Part where
  node : Node
  depth : Nat := 0
  repeatable : Bool := true

/-- A sequence or a choice counts as a level of its own when it has several parts. -/
def Part.join (combine : List Node → Node) (parts : List Part) : Part :=
  let depth := (parts.map (·.depth)).foldl max 0
  ⟨combine (parts.map (·.node)), if parts.length ≤ 1 then depth else depth + 1, true⟩

/-- The parts of a sequence and its finished alternatives, the latest first. -/
structure Level where
  parts : List Part := []
  choices : List Part := []

def Level.push (level : Level) (part : Part) : Level := { level with parts := part :: level.parts }

/-- Finish the sequence and begin the next alternative. -/
def Level.next (level : Level) : Level :=
  ⟨[], .join .ofList level.parts.reverse :: level.choices⟩

def Level.finish (level : Level) : Part := .join .ofChoices level.next.choices.reverse

/-- Repeat the latest part. -/
def Level.repeatLast? (level : Level) (min : Nat) (max : Option Nat) (greedy : Bool) :
    Option Level :=
  match level.parts with
  | part :: parts =>
    if part.repeatable then
      some { level with parts := ⟨.times part.node min max greedy, part.depth + 1, true⟩ :: parts }
    else none
  | [] => none

/-! ## Repetition counts -/

/-- A count of at most 32 bits between optional blanks. -/
def readCount (cs : List Char) : Option (Nat × List Char) :=
  let (digits, rest) := spanDigits (cs.dropWhile Text.isBlank)
  let n := digitsValue digits
  if digits.isEmpty || UInt32.size ≤ n then none else some (n, rest.dropWhile Text.isBlank)

/-- The bounds of a repetition behind an opening brace. -/
def readBounds (cs : List Char) : Option (Nat × Option Nat × List Char) := do
  let (min, cs) ← readCount cs
  match cs with
  | '\x7d' :: cs => some (min, some min, cs)
  | ',' :: '\x7d' :: cs => some (min, none, cs)
  | ',' :: cs =>
    let (max, cs) ← readCount cs
    match cs with
    | '\x7d' :: cs => if min ≤ max then some (min, some max, cs) else none
    | _ => none
  | _ => none

/-- A question mark behind a repetition makes it lazy. -/
def readGreed : List Char → Bool × List Char
  | '?' :: cs => (false, cs)
  | cs => (true, cs)

/-! ## Groups -/

/-- What reading has to remember: the flags, the number of groups so far and their names. -/
structure Context where
  flags : Flags := {}
  groups : Nat := 0
  names : List (String × Nat) := []

/-- Whether a group name may contain `c`. -/
def isGroupNameChar (first : Bool) (c : Char) : Bool :=
  c == '_' || Unicode.isAlphabetic c ||
    (!first && (c == '.' || c == '[' || c == ']' || Unicode.isNumeric c))

/-- A group name up to its closing angle bracket; no name may be given twice. -/
def readName (names : List (String × Nat)) (cs : List Char) : Option (String × List Char) := do
  let (name, cs) ← Text.cut (· == '>') cs
  match name with
  | [] => none
  | c :: rest =>
    let s := String.ofList name
    if isGroupNameChar true c && rest.all (isGroupNameChar false) && (names.lookup s).isNone
    then some (s, cs)
    else none

/-- The opening of a group. -/
inductive Opening where
  | capture (name : Option String)
  | plain (flags : Flags)
  /-- Flags for the rest of the enclosing group. -/
  | setFlags (flags : Flags)

/-- The opening behind a parenthesis. Conditions on the text around a group are refused. -/
def readOpening (context : Context) : List Char → Option (Opening × List Char)
  | '?' :: 'P' :: '<' :: cs => do
    let (name, cs) ← readName context.names cs
    some (.capture (some name), cs)
  | '?' :: '<' :: cs => do
    let (name, cs) ← readName context.names cs
    some (.capture (some name), cs)
  | '?' :: cs => do
    let (flags, stop, rest) ← readFlags context.flags false [] cs
    if stop = ':' then some (.plain flags, rest)
    else if cs.head? = some ')' then none
    else some (.setFlags flags, rest)
  | cs => some (.capture none, cs)

/-! ## Levels -/

/-- The part that a symbol stands for. Only literals ignore case. -/
def Symbol.toPart (flags : Flags) : Symbol → Part
  | literal c => ⟨.char (.anyCaseIf flags.ignoreCase (.single c)), 0, true⟩
  | set s => ⟨.char s, 0, true⟩
  | place p => ⟨.place p, 0, true⟩

/-- The symbol of a character that is no operator. -/
def plainSymbol (flags : Flags) (c : Char) : Symbol :=
  if c = '.' then .set (if flags.dotAll then .all else .compl (.single '\n'))
  else if c = '^' then .place (if flags.lines then .lineStart else .textStart)
  else if c = '$' then .place (if flags.lines then .lineEnd else .textEnd)
  else .literal c

/-- Read up to the end of the group, or of the pattern when `nested` is false. The bound is on
the number of steps. -/
def readLevel : Nat → Bool → Context → Level → List Char → Option (Part × Context × List Char)
  | 0, _, _, _, _ => none
  | _ + 1, nested, context, level, [] => if nested then none else some (level.finish, context, [])
  | n + 1, nested, context, level, c :: cs =>
    let counted (min : Nat) (max : Option Nat) (cs : List Char) := do
      let (greedy, cs) := readGreed cs
      readLevel n nested context (← level.repeatLast? min max greedy) cs
    match c with
    | ')' => if nested then some (level.finish, context, cs) else none
    | '|' => readLevel n nested context level.next cs
    | '*' => counted 0 none cs
    | '+' => counted 1 none cs
    | '?' => counted 0 (some 1) cs
    | '\x7b' => do
      let (min, max, cs) ← readBounds cs
      counted min max cs
    | '[' => do
      let (set, count, cs) ← readBracket context.flags.ignoreCase cs
      readLevel n nested context (level.push ⟨.char set, if count ≤ 1 then 1 else 2, true⟩) cs
    | '\\' => do
      let (symbol, cs) ← readEscape cs
      readLevel n nested context (level.push (symbol.toPart context.flags)) cs
    | '(' => do
      let (opening, cs) ← readOpening context cs
      match opening with
      | .setFlags flags =>
        readLevel n nested { context with flags := flags } (level.push ⟨.empty, 0, false⟩) cs
      | .plain flags =>
        let (body, inner, cs) ← readLevel n true { context with flags := flags } {} cs
        readLevel n nested { inner with flags := context.flags }
          (level.push ⟨body.node, body.depth + 1, true⟩) cs
      | .capture name =>
        let index := context.groups + 1
        let names := name.elim context.names fun s => (s, index) :: context.names
        let (body, inner, cs) ← readLevel n true ⟨context.flags, index, names⟩ {} cs
        readLevel n nested { inner with flags := context.flags }
          (level.push ⟨.group index body.node, body.depth + 1, true⟩) cs
    | _ => readLevel n nested context (level.push ((plainSymbol context.flags c).toPart context.flags)) cs

/-- How deep the notation may nest. -/
def depthLimit : Nat := 250

/-- How many positions a pattern may have when its repetitions are written out. -/
def sizeLimit : Nat := 436907

/-- The tree of a pattern and the numbers of its named groups. -/
def read? (cs : List Char) : Option (Node × List (String × Nat)) := do
  let (part, context, _) ← readLevel (cs.length + 1) false {} {} cs
  if part.depth ≤ depthLimit ∧ part.node.size ≤ sizeLimit then some (part.node, context.names)
  else none

end Pattern

end FacetedSearch
