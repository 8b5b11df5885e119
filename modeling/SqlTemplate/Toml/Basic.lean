import SqlTemplate.Entries
import SqlTemplate.Toml.Time

/-!
# TOML tables

The tree that a TOML text describes, and the rules by which its lines extend it: a header opens a
table once, a dotted key reaches into tables made by dotted keys only, and no key is given twice.
-/

namespace SqlTemplate

/-- How a table came to be: `implicit` by being named on the way to another one, `dotted` by a
dotted key. -/
structure TableForm where
  implicit : Bool := false
  dotted : Bool := false
deriving DecidableEq, Repr

/-- A part of a TOML document. Numbers are told apart from all else, but their values are not
kept. -/
inductive Toml where
  | string (s : String)
  | boolean (b : Bool)
  | number
  | time (t : Toml.Time)
  | array (items : List Toml)
  | inlineTable (entries : List (String × Toml))
  | table (form : TableForm) (entries : List (String × Toml))
  /-- Tables under one header in double brackets; the last one is open. -/
  | tables (items : List (TableForm × List (String × Toml)))
deriving Repr, Inhabited

namespace Toml

abbrev Table := TableForm × Entries Toml

/-- Changes the table at a path of keys. Tables on the way are made where they are missing. A
dotted key may not pass through a table that has a header of its own. -/
def change (dotted : Bool) (f : Table → Option Table) : List String → Table → Option Table
  | [], t => f t
  | key :: rest, (form, entries) =>
    match entries.get? key with
    | none => do
      let (inner, contents) ← change dotted f rest (⟨true, dotted⟩, [])
      some (form, entries.insert key (.table inner contents))
    | some (.table inner contents) =>
      if dotted && !inner.implicit then none
      else do
        let (inner, contents) ← change dotted f rest (inner, contents)
        some (form, entries.insert key (.table inner contents))
    | some (.tables items) => do
      let last ← change dotted f rest (← items.getLast?)
      some (form, entries.insert key (.tables (items.dropLast ++ [last])))
    | some _ => none

/-- Gives a key, after a path of dotted keys, a value it does not have yet. -/
def put (path : List String) (key : String) (value : Toml) (t : Table) : Option Table :=
  change true (fun (form, entries) =>
    if form.dotted == path.isEmpty || entries.contains key then none
    else some (form, entries.insert key value)) path t

/-- Opens a table under a header. It may exist if it was only named on the way to another. -/
def openTable (path : List String) (key : String) (root : Table) : Option Table :=
  change false (fun (form, entries) =>
    match entries.get? key with
    | none => some (form, entries.insert key (.table {} []))
    | some (.table inner contents) =>
      if inner.implicit && !inner.dotted then
        some (form, entries.insert key (.table {} contents))
      else none
    | some _ => none) path root

/-- Opens a further table under a header in double brackets. -/
def openNext (path : List String) (key : String) (root : Table) : Option Table :=
  change false (fun (form, entries) =>
    match entries.get? key with
    | none => some (form, entries.insert key (.tables [({}, [])]))
    | some (.tables items) => some (form, entries.insert key (.tables (items ++ [({}, [])])))
    | some _ => none) path root

def entries? : Toml → Option (Entries Toml)
  | inlineTable entries | table _ entries => some entries
  | _ => none

end Toml

end SqlTemplate
