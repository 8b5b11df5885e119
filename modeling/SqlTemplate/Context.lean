import SqlTemplate.Bindings
import SqlTemplate.Evaluator
import SqlTemplate.Loop

/-!
# The context of an evaluation

What changes while a template is evaluated: the bindings, a counter for loop rounds, the SQL so
far and a trace of what happened. SQL goes to a sink. The sink of the whole statement
joins fragments with single spaces; other sinks stand before an outer one while a part of the
template is evaluated, to hold fragments back, to put a text before the first that is not blank,
or to rename references to loop variables.
-/

namespace SqlTemplate

/-- The variables of a loop in the round with this number. -/
structure LoopScope where
  item : Option String
  index : Option String
  number : Nat
deriving DecidableEq, Repr

namespace LoopScope

def continuesName (c : Char) : Bool :=
  c.isAlphanum || c == '_' || c == '$'

/-- The content of a token that begins with a name after blanks, with the numbered name in its
place. -/
def rename? (name : String) (number : Nat) (content : String) : Option String :=
  let s := content.toList.dropWhile Text.isBlank
  if name.toList.isPrefixOf s then
    let rest := s.drop name.toList.length
    -- a longer name only begins with this one
    if rest.head?.any continuesName then none
    else some (Loop.numbered name number ++ String.ofList rest)
  else none

/-- The content of a token with a loop variable renamed; the item is tried before the index. -/
def rename (scope : LoopScope) (content : String) : String :=
  ((scope.item.bind fun name => rename? name scope.number content) <|>
    (scope.index.bind fun name => rename? name scope.number content)).getD content

def renameTokens (scope : LoopScope) (sql : String) : String :=
  Delimiters.hash.replace (fun content => Delimiters.hash.wrap (scope.rename content)) sql

end LoopScope

/-- Where fragments of SQL go. -/
inductive Sink where
  /-- The whole statement; fragments after the first follow a space. -/
  | statement (sql : String) (started : Bool)
  /-- Fragments in a row, kept from the outer sink. -/
  | buffer (sql : String) (outer : Sink)
  /-- Passes `lead` on before the first fragment that is not blank. -/
  | prefixed (lead : String) (emitted : Bool) (outer : Sink)
  | numbering (scope : LoopScope) (outer : Sink)
deriving DecidableEq, Repr

namespace Sink

def empty : Sink := .statement "" false

def joinFragment : String × Bool → String → String × Bool
  | (sql, started), fragment => (if started then sql ++ " " ++ fragment else sql ++ fragment, true)

/-- Fragments with `lead` before the first that is not blank, unless it was emitted earlier; and
whether it is emitted by now. -/
def leadIn (lead : String) : Bool → List String → Bool × List String
  | emitted, [] => (emitted, [])
  | emitted, fragment :: rest =>
    if !emitted && !Text.allBlank fragment then
      let (emitted, rest) := leadIn lead true rest
      (emitted, lead :: fragment :: rest)
    else
      let (emitted, rest) := leadIn lead emitted rest
      (emitted, fragment :: rest)

def feed : Sink → List String → Sink
  | statement sql started, fragments =>
    let (sql, started) := fragments.foldl joinFragment (sql, started)
    .statement sql started
  | buffer sql outer, fragments => .buffer (sql ++ String.join fragments) outer
  | prefixed lead emitted outer, fragments =>
    let (emitted, fragments) := leadIn lead emitted fragments
    .prefixed lead emitted (outer.feed fragments)
  | numbering scope outer, fragments =>
    .numbering scope (outer.feed (fragments.map scope.renameTokens))

def append (sink : Sink) (fragment : String) : Sink :=
  sink.feed [fragment]

def outer : Sink → Sink
  | statement sql started => .statement sql started
  | buffer _ outer | prefixed _ _ outer | numbering _ outer => outer

/-- The statement at the bottom, without blanks around it. -/
def sql : Sink → String
  | statement sql _ => Text.trim sql
  | buffer _ outer | prefixed _ _ outer | numbering _ outer => outer.sql

end Sink

/-- What happens in an evaluation besides appending SQL. -/
inductive Event where
  /-- The evaluator was asked for the value of an expression. -/
  | evaluated (expression : String)
  /-- A text was found for a `${…}` token, before the filter saw it. -/
  | substituted (text : String)
  /-- The variables of a loop were bound to an element in the round with this number. -/
  | round (loop : Loop) (number : Nat) (item : Item)
deriving Repr

namespace Event

def expression? : Event → Option String
  | evaluated expression => some expression
  | _ => none

def text? : Event → Option String
  | substituted text => some text
  | _ => none

end Event

/-- The state of an evaluation; the trace is in the order of time. -/
structure Context where
  bindings : Bindings
  counter : Nat := 0
  sink : Sink := .empty
  trace : List Event := []
deriving Repr

namespace Context

def start (bindings : Bindings) : Context := { bindings }

def sql (c : Context) : String := c.sink.sql

end Context

/-- A step of an evaluation: it changes the context and may fail. -/
abbrev Build := EStateM Fault Context

namespace Build

def bindings : Build Bindings := do pure (← get).bindings

def append (fragment : String) : Build Unit :=
  modify fun c => { c with sink := c.sink.append fragment }

def bind (name : String) (value : Value) : Build Unit :=
  modify fun c => { c with bindings := c.bindings.bind name value }

def release (name : String) : Build Unit :=
  modify fun c => { c with bindings := c.bindings.release name }

def nextNumber : Build Nat :=
  modifyGet fun c => (c.counter, { c with counter := c.counter + 1 })

def note (event : Event) : Build Unit :=
  modify fun c => { c with trace := c.trace ++ [event] }

def ofExcept {α : Type} : Except Fault α → Build α
  | .ok a => pure a
  | .error fault => throw fault

def evaluate {α : Type} (expression : String) (f : Bindings → Except Fault α) : Build α := do
  note (.evaluated expression)
  ofExcept (f (← bindings))

/-- Runs a step with another sink before the present one; the sink it leaves is the answer, and
the one behind it is present again. -/
def within {α : Type} (push : Sink → Sink) (step : Build α) : Build (α × Sink) := do
  modify fun c => { c with sink := push c.sink }
  let a ← step
  let left := (← get).sink
  modify fun c => { c with sink := left.outer }
  pure (a, left)

/-- Runs a step with its SQL held back; the SQL is the second part of the answer. -/
def buffered {α : Type} (step : Build α) : Build (α × String) := do
  match ← within (.buffer "") step with
  | (a, .buffer sql _) => pure (a, sql)
  | (a, _) => pure (a, "")

/-- Runs a step with a text before its first fragment that is not blank; whether there was one is
the second part of the answer. -/
def prefixed {α : Type} (lead : String) (step : Build α) : Build (α × Bool) := do
  match ← within (.prefixed lead false) step with
  | (a, .prefixed _ emitted _) => pure (a, emitted)
  | (a, _) => pure (a, false)

def numbering {α : Type} (scope : LoopScope) (step : Build α) : Build α := do
  pure (← within (.numbering scope) step).1

end Build

end SqlTemplate
