import FacetedSearch.Toml.Value

/-!
# Building tables

Every table is defined once. A header may complete a table that other headers have only passed
through; a dotted key may add to tables made by dotted keys, and may pass through those of
headers above. Whoever names an array of tables means its last table.

## Main definitions

* `Entries.update` — change the table at a path of headers.
* `Entries.openTable`, `Entries.openElement` — the headers `[a.b]` and `[[a.b]]`.
* `Entries.assign` — a key, plain or dotted, and its value.
-/

namespace FacetedSearch

namespace Toml

abbrev Entries := List (String × Toml)

namespace Entries

/-- Replace the value of a key. -/
def replace (es : Entries) (key : String) (value : Toml) : Entries :=
  es.map fun e => if e.1 = key then (key, value) else e

/-- Add a value under a new key. -/
def add (es : Entries) (key : String) (value : Toml) : Option Entries :=
  if (es.lookup key).isSome then none else some (es ++ [(key, value)])

/-- Change the last table of an array of tables. -/
def updateLast (change : Entries → Option Entries) : List Entries → Option (List Entries)
  | [] => none
  | [es] => do return [← change es]
  | es :: ts => do return es :: (← updateLast change ts)

/-- Change the table at a path, making the tables on the way. -/
def update (change : Entries → Option Entries) : List String → Entries → Option Entries
  | [], es => change es
  | key :: path, es =>
    match es.lookup key with
    | none => do es.add key (.table .passed (← update change path []))
    | some (.table kind sub) =>
      if kind = .inline then none
      else do return es.replace key (.table kind (← update change path sub))
    | some (.tables ts) => do
      return es.replace key (.tables (← updateLast (update change path) ts))
    | some _ => none

/-- Begin the table of a header, or go on with one that other headers have passed through. -/
def openTable (path : List String) (key : String) : Entries → Option Entries :=
  update (fun es => match es.lookup key with
    | none => es.add key (.table .header [])
    | some (.table .passed sub) => some (es.replace key (.table .header sub))
    | some _ => none) path

/-- Begin the next table of an array of tables. -/
def openElement (path : List String) (key : String) : Entries → Option Entries :=
  update (fun es => match es.lookup key with
    | none => es.add key (.tables [[]])
    | some (.tables ts) => some (es.replace key (.tables (ts ++ [[]])))
    | some _ => none) path

/-- Add the value of a key. The tables before the last part of a dotted key are made on the way;
the last of them must not have a header. -/
def assign (value : Toml) (key : String) : List String → Entries → Option Entries
  | [], es => es.add key value
  | part :: path, es =>
    match es.lookup part with
    | none => do es.add part (.table .dotted (← assign value key path []))
    | some (.table kind sub) =>
      if kind = .dotted ∨ (kind = .passed ∧ path ≠ []) then do
        return es.replace part (.table kind (← assign value key path sub))
      else none
    | some (.tables ts) =>
      if path = [] then none
      else do return es.replace part (.tables (← updateLast (assign value key path) ts))
    | some _ => none

end Entries

end Toml

end FacetedSearch
