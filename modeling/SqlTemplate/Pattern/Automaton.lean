import SqlTemplate.Pattern.Build
import SqlTemplate.Pattern.Utf8
import Std.Data.HashMap

/-!
# The automaton of a pattern

A pattern is compiled to an automaton over bytes, once to read a text forwards and once backwards.
What is modelled is how large the two become: a pattern is refused if one of them takes more than
`Automaton.limit` bytes. States are numbered in the order in which they are added. Parts of the
automaton of a set are shared by means of small tables from which a part may be displaced by
another one with the same checksum, so that the size of a copy depends on the numbers of its
states.
-/

namespace SqlTemplate.Pattern.Automaton

inductive Direction where
  | forward
  | backward
deriving DecidableEq, Repr

/-- An automaton so far: the number of states, and the bytes of their lists of edges. -/
structure Draft where
  states : Nat := 0
  edges : Nat := 0
deriving DecidableEq, Repr

/-- The most bytes that an automaton may take. -/
def limit : Nat := 10485760

namespace Draft

/-- The bytes of an automaton: each state takes 32 besides its list of edges. -/
def bytes (d : Draft) : Nat := 32 * d.states + d.edges

def checked? (d : Draft) : Option Draft :=
  if d.bytes ≤ limit then some d else none

def addStates? (n : Nat) (d : Draft) : Option Draft :=
  { d with states := d.states + n }.checked?

def addSparse? (n : Nat) (d : Draft) : Option Draft :=
  Draft.checked? ⟨d.states + 1, d.edges + 8 * n⟩

/-- Adds an edge to a fork, which is a state with a list of other states. -/
def addBranches? (n : Nat) (d : Draft) : Option Draft :=
  { d with edges := d.edges + 4 * n }.checked?

def leave? (fork : Bool) (d : Draft) : Option Draft :=
  d.addBranches? (if fork then 1 else 0)

end Draft

/-! ## Sets of characters -/

/-- The checksum of a list of numbers below a bound. -/
def checksum (bound : UInt64) (numbers : List Nat) : UInt64 :=
  numbers.foldl (fun h n => (h ^^^ n.toUInt64) * 1099511628211) 14695981039346656037 % bound

/-- States by what leaves them; each checksum has room for one. -/
abbrev Shared := Std.HashMap UInt64 (List Nat × Nat)

def Shared.find? (shared : Shared) (sum : UInt64) (key : List Nat) : Option Nat :=
  match shared[sum]? with
  | some (noted, state) => if noted = key then some state else none
  | none => none

/-- Sequences of byte ranges in groups that begin with the same range. -/
def groups : List (List ByteRange) → List (ByteRange × List (List ByteRange))
  | [] => []
  | [] :: rest => groups rest
  | (r :: tail) :: rest =>
    match groups rest with
    | (q, tails) :: others =>
      if r = q then (r, tail :: tails) :: others else (r, [tail]) :: (q, tails) :: others
    | [] => [(r, [tail])]

structure SetDraft where
  draft : Draft
  shared : Shared := {}

/-- Adds the states of a choice between sequences of at most `depth` byte ranges that lead to the
state `target`; the number of the first state. A state is added after those that it leads to, and
not twice. -/
def addChoice? (target : Nat) : Nat → List (List ByteRange) → SetDraft → Option (Nat × SetDraft)
  | 0, _, d => some (target, d)
  | depth + 1, sequences, d => do
    let (edges, d) ← (groups sequences).foldlM (fun (edges, d) (range, tails) => do
      let (next, d) ← if tails = [[]] then some (target, d) else addChoice? target depth tails d
      some ((range, next) :: edges, d)) (([] : List (ByteRange × Nat)), d)
    let edges := edges.reverse
    let key := edges.flatMap fun ((first, last), next) => [first, last, next]
    let sum := checksum 10000 key
    match d.shared.find? sum key with
    | some state => some (state, d)
    | none => do
      let state := d.draft.states
      let draft ← d.draft.addSparse? edges.length
      some (state, ⟨draft, d.shared.insert sum (key, state)⟩)

/-- Adds the states of a sequence of byte ranges that is read from its last range to its first,
which leads to the state `next`; the number of the last state added. -/
def addBackwards? : Nat → List ByteRange → SetDraft → Option SetDraft
  | _, [], d => some d
  | next, (first, last) :: rest, d =>
    let key := [next, first, last]
    let sum := checksum 1000 key
    match d.shared.find? sum key with
    | some state => addBackwards? state rest d
    | none => do
      let state := d.draft.states
      let draft ← d.draft.addStates? 1
      addBackwards? state rest ⟨draft, d.shared.insert sum (key, state)⟩

/-- Adds the states of a set of characters. Sets within ASCII take one list of edges. -/
def addSet? (direction : Direction) (set : CharSet) (d : Draft) : Option Draft :=
  let ranges := set.charRanges
  if ranges.all fun (_, last) => last ≤ 0x7F then do
    (← d.addStates? 1).addSparse? ranges.length
  else
    let sequences := ranges.flatMap fun (first, last) => byteRanges first last
    match direction with
    | .forward => do
      let target := d.states
      let (_, d) ← addChoice? target 4 sequences { draft := ← d.addStates? 1 }
      some d.draft
    | .backward => do
      let target := d.states + 1
      let d ← d.addStates? 2
      let d ← sequences.foldlM (fun d s => addBackwards? target s d) { draft := d }
      d.draft.addBranches? sequences.length

/-! ## Choices between words -/

def utf8 (c : Char) : List Nat :=
  (String.singleton c).toUTF8.toList.map UInt8.toNat

/-- The characters that a pattern matches in a row, if it matches one word only. -/
def word? (p : Pattern) : Option (List Char) := do
  let word ← p.parts.mapM letter?
  if word.isEmpty then none else some word

/-- The words between the places where words end: those that are empty. -/
def spells : List (List Nat) → List (List (List Nat))
  | [] => [[]]
  | [] :: words => [] :: spells words
  | word :: words =>
    match spells words with
    | spell :: rest => (word :: spell) :: rest
    | [] => [[word]]

/-- What is left of the words after their first byte, for each such byte. -/
def tails (words : List (List Nat)) : List (List (List Nat)) :=
  let heads := (words.filterMap List.head?).eraseDups
  heads.map fun head => (words.filter (·.head? == some head)).map List.tail

/-- Adds the states of a tree of words of less than `depth` bytes. A fork joins the edges between
each two places where a word ends with the ends themselves; no words have been read at the first
ones but one. -/
def addWords? : Nat → List (List Nat) → Draft → Option Draft
  | 0, _, d => some d
  | depth + 1, words, d =>
    if words.all List.isEmpty then some d
    else do
      let groups := (spells words).filter (!·.isEmpty)
      let d ← groups.foldlM (fun d words => do
        let tails := tails words
        let d ← tails.foldlM (fun d words => addWords? depth words d) d
        if tails.length = 1 then d.addStates? 1 else d.addSparse? tails.length) d
      let ends := (words.filter List.isEmpty).length - ((words.takeWhile List.isEmpty).length - 1)
      (← d.addStates? 1).addBranches? (groups.length + ends)

/-! ## Properties that decide how a pattern is laid out -/

/-- The least number of bytes of a span that matches; nothing if no span does. -/
def leastBytes? : Pattern → Option Nat
  | .empty | .assertion _ => some 0
  | .char set => set.charRanges.head?.map fun (first, _) => (Char.ofNat first).utf8Size
  | .captured _ p => leastBytes? p
  | .seq p q => do some ((← leastBytes? p) + (← leastBytes? q))
  | .alt p q => do some (min (← leastBytes? p) (← leastBytes? q))
  | .repeated least _ p => (leastBytes? p).map (least * ·)

/-- Whether a pattern asks for the start of the text before it takes a character. -/
def startsText : Pattern → Bool
  | .assertion .textStart => true
  | .empty | .char _ | .assertion _ => false
  | .captured _ p => startsText p
  | .seq p q => startsText p || (p.onlyEmpty && startsText q)
  | .alt p q => startsText p && startsText q
  | .repeated least _ p => 0 < least && startsText p

/-- Whether a pattern asks for the end of the text after it has taken the last character. -/
def endsText : Pattern → Bool
  | .assertion .textEnd => true
  | .empty | .char _ | .assertion _ => false
  | .captured _ p => endsText p
  | .seq p q => endsText q || (q.onlyEmpty && endsText p)
  | .alt p q => endsText p && endsText q
  | .repeated least _ p => 0 < least && endsText p

/-! ## Layout -/

/-- An automaton with a part added, and whether the end of the part is a fork. -/
abbrev Layout := Draft → Option (Bool × Draft)

/-- Adds `n` further copies of a part in a row after an end. -/
def copies? (part : Layout) : Nat → Bool → Layout
  | 0, fork, d => some (fork, d)
  | n + 1, fork, d =>
    match d.leave? fork with
    | none => none
    | some d =>
      match part d with
      | none => none
      | some (fork, d) => copies? part n fork d

/-- Adds copies of a part in a row, or one state if there are none. -/
def exactly? (part : Layout) : Nat → Layout
  | 0, d => (d.addStates? 1).map (false, ·)
  | n + 1, d => do
    let (fork, d) ← part d
    copies? part n fork d

/-- Adds `n` further copies of a part after an end, each behind a fork that leads past all of them
to the last state. -/
def options? (part : Layout) : Nat → Bool → Draft → Option Draft
  | 0, fork, d => d.leave? fork
  | n + 1, fork, d =>
    match d.addStates? 1 with
    | none => none
    | some d =>
      match part d with
      | none => none
      | some (next, d) =>
        match (d.leave? fork).bind (·.addBranches? 2) with
        | none => none
        | some d => options? part n next d

/-- Adds a part that may be repeated without bound. Where the part can be empty, the way around it
is kept apart from the way back. -/
def unbounded? (part : Layout) (neverEmpty : Bool) : Nat → Layout
  | 0, d =>
    if neverEmpty then do
      let (fork, d) ← part (← d.addStates? 1)
      some (true, ← (← d.leave? fork).addBranches? 1)
    else do
      let (fork, d) ← part d
      some (false, ← (← (← d.addStates? 3).leave? fork).addBranches? 4)
  | 1, d => do
    let (fork, d) ← part d
    some (true, ← (← (← d.addStates? 1).leave? fork).addBranches? 1)
  | n + 2, d => do
    let (before, d) ← exactly? part (n + 1) d
    let (fork, d) ← part d
    some (true, ← (← (← (← d.addStates? 1).leave? before).leave? fork).addBranches? 1)

def repeated? (part : Layout) (neverEmpty : Bool) (least : Nat) (most : Option Nat) : Layout :=
  fun d =>
    match most with
    | none => unbounded? part neverEmpty least d
    | some most =>
      if least = 0 ∧ most = 1 then do
        let (fork, d) ← part (← d.addStates? 1)
        some (false, ← (← (← d.addStates? 1).leave? fork).addBranches? 2)
      else do
        let (fork, d) ← exactly? part least d
        if least = most then some (fork, d)
        else some (false, ← options? part (most - least) fork (← d.addStates? 1))

/-- Ends the branch with a number in a choice; a pattern that is no branch has the number 0. The
fork and the end of a choice are added after its second branch. -/
def settle? (branch : Nat) : Bool × Draft → Option (Bool × Draft)
  | (fork, d) =>
    if branch = 0 then some (fork, d)
    else do
      let d ← if branch = 2 then d.addStates? 2 else some d
      some (false, ← (← d.leave? fork).addBranches? 1)

/-- Adds a pattern, as the branch with a number. -/
def lay? (direction : Direction) : Pattern → Nat → Layout
  | .empty, branch, d | .assertion _, branch, d => do
    settle? branch (false, ← d.addStates? 1)
  | .char set, branch, d => do
    settle? branch (false, ← match set.only? with
      | some c => d.addStates? c.utf8Size
      | none => addSet? direction set d)
  | .captured _ p, branch, d =>
    match direction with
    | .forward => do
      let (fork, d) ← lay? direction p 0 (← d.addStates? 1)
      settle? branch (false, ← (← d.addStates? 1).leave? fork)
    | .backward => do settle? branch (← lay? direction p 0 d)
  | .seq p q, branch, d =>
    match direction with
    | .forward => do
      let (fork, d) ← lay? direction p 0 d
      settle? branch (← lay? direction q 0 (← d.leave? fork))
    | .backward => do
      let (fork, d) ← lay? direction q 0 d
      settle? branch (← lay? direction p 0 (← d.leave? fork))
  | .alt p q, branch, d =>
    let words := if branch = 0 then (p.branches ++ q.branches).mapM word? else none
    match words with
    | some words => do
      let bytes := words.map (·.flatMap utf8)
      let bytes := if direction = .forward then bytes else bytes.map List.reverse
      let depth := bytes.foldl (fun n word => max n word.length) 0
      some (false, ← addWords? (depth + 1) bytes (← d.addStates? 1))
    | none => do
      let (_, d) ← (← lay? direction p 0 d) |> settle? (max branch 1)
      lay? direction q (max branch 1 + 1) d
  | .repeated least most p, branch, d => do
    let neverEmpty := (leastBytes? p).any (0 < ·)
    settle? branch (← repeated? (lay? direction p 0) neverEmpty least most d)

/-- The automaton of a pattern. One that may begin, or end, anywhere has a loop over all bytes in
front. -/
def of? (direction : Direction) (p : Pattern) : Option Draft := do
  let fixed := if direction = .forward then startsText p else endsText p
  let d ← if fixed then Draft.addStates? 1 {}
    else do (← (← Draft.addStates? 2 {}).addSparse? 1).addBranches? 2
  let (fork, d) ← lay? direction (if direction = .forward then .captured 0 p else p) 0 d
  (← d.addStates? 1).leave? fork

end Automaton

/-- Whether both automata of a pattern keep to the limit. -/
def fits (p : Pattern) : Bool :=
  (Automaton.of? .forward p).isSome && (Automaton.of? .backward p).isSome

end SqlTemplate.Pattern
