import SqlTemplate.Pattern.Basic

/-!
# Patterns from parts

Sequences, choices and repetitions are put together in a normal form: a sequence has no sequences
among its parts, a choice no choices among its branches, a choice between characters is a set, and
what all branches begin with stands in front of the choice once.
-/

namespace SqlTemplate.Pattern

/-- The parts of a sequence in order; any other pattern is its only part. -/
def parts : Pattern → List Pattern
  | empty => []
  | seq p q => p.parts ++ q.parts
  | p => [p]

/-- The branches of a choice in order; any other pattern is its only branch. -/
def branches : Pattern → List Pattern
  | alt p q => p.branches ++ q.branches
  | p => [p]

def ofParts : List Pattern → Pattern
  | [] => empty
  | [p] => p
  | p :: ps => seq p (ofParts ps)

def ofBranches : List Pattern → Pattern
  | [] => char .none
  | [p] => p
  | p :: ps => alt p (ofBranches ps)

def sequence (ps : List Pattern) : Pattern :=
  ofParts (ps.flatMap parts)

/-- The character that is all that a pattern matches. -/
def letter? : Pattern → Option Char
  | char set => set.only?
  | _ => none

/-- The set of a choice between single characters, or between sets of other sizes. -/
def setOf? (ps : List Pattern) : Option CharSet := do
  let sets ← ps.mapM fun
    | char set => some set
    | _ => none
  let areLetters := ps.map fun p => p.letter?.isSome
  if areLetters.all id || areLetters.all not then some (.unions sets) else none

/-- A choice whose branches begin with nothing in common. -/
def choiceApart (ps : List Pattern) : Pattern :=
  let ps := ps.flatMap branches
  match setOf? ps with
  | some set => char set
  | none => ofBranches ps

/-- The parts of a sequence, with characters in a row taken together. -/
def runs : List Pattern → List (List Pattern)
  | [] => []
  | p :: ps =>
    match runs ps with
    | (q :: run) :: rest =>
      if p.letter?.isSome && q.letter?.isSome then (p :: q :: run) :: rest
      else [p] :: (q :: run) :: rest
    | rest => [p] :: rest

/-- What two lists begin with in common. -/
def sharedStart {α : Type} [DecidableEq α] : List α → List α → List α
  | x :: xs, y :: ys => if x = y then x :: sharedStart xs ys else []
  | _, _ => []

def sharedStartOfAll {α : Type} [DecidableEq α] : List (List α) → List α
  | [] => []
  | xs :: rest => rest.foldl sharedStart xs

/-- A choice between patterns. Only sequences of several runs can have their start in common. -/
def choice (ps : List Pattern) : Pattern :=
  let branches := ps.flatMap branches
  let split := branches.map fun p => runs p.parts
  let shared := if split.all (2 ≤ ·.length) then sharedStartOfAll split else []
  if shared.isEmpty || branches.length < 2 then choiceApart branches
  else
    let rests := split.map fun runs => ofParts (runs.drop shared.length).flatten
    sequence (shared.flatten ++ [choiceApart rests])

/-- Whether a pattern matches empty spans only. -/
def onlyEmpty : Pattern → Bool
  | empty | assertion _ => true
  | char _ => false
  | captured _ p | repeated _ _ p => p.onlyEmpty
  | seq p q | alt p q => p.onlyEmpty && q.onlyEmpty

/-- A repetition. Where there is nothing but empty spans to repeat, once is enough. -/
def times (least : Nat) (most : Option Nat) (p : Pattern) : Pattern :=
  let once := p.onlyEmpty
  let least := if once then min least 1 else least
  let most := if once then some (min (most.getD 1) 1) else most
  if most = some 0 then empty
  else if least = 1 ∧ most = some 1 then p
  else repeated least most p

end SqlTemplate.Pattern
