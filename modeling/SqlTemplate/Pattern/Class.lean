import SqlTemplate.Pattern.Escape

/-!
# Character classes

The part of a pattern between brackets: characters, ranges, escapes, named sets and classes inside
the class, joined; `&&`, `--` and `~~` between such joined parts intersect, subtract and take the
symmetric difference, from left to right.
-/

namespace SqlTemplate.Pattern

/-- The members of a class, and how deep the text for them nests. -/
structure Members where
  set : CharSet
  depth : Nat := 0

namespace Members

/-- Members that are joined side by side; joining nests if there are several. -/
def join (items : List Members) : Members :=
  let depth := items.foldl (fun n item => max n item.depth) 0
  ⟨.unions (items.map (·.set)), if items.length < 2 then depth else depth + 1⟩

/-- What an operator makes of its operands. -/
def operate (op : CharSet → CharSet → CharSet) (left right : Members) : Members :=
  ⟨op left.set right.set, max left.depth right.depth + 1⟩

end Members

/-- The members that one character of a class stands for. -/
def Flags.member? (flags : Flags) : Primitive → Option CharSet
  | .literal c => if flags.unicode || c.toNat < 0x80 then some (.single c) else none
  | .set s => some s
  | .assertion _ => none

/-- A character or an escape inside a class. -/
def readMember? (flags : Flags) : List Char → Option (Primitive × List Char)
  | [] => none
  | '\\' :: s => readEscape? flags s
  | c :: s => some (.literal c, s)

/-- The next character that counts. A comment is not passed over: what it begins with is next. -/
def Flags.peek? (flags : Flags) (s : List Char) : Option Char :=
  if !flags.verbose then s.head?
  else
    match s.dropWhile Text.isBlank with
    | '#' :: s => (s.dropWhile Text.isBlank).head?
    | s => s.head?

/-- Whether the text after a member goes on with a range: a hyphen that is neither the last
character of the class nor the first of two. -/
def startsRange (flags : Flags) : List Char → Bool
  | '-' :: s => !(flags.peek? s == some ']' || flags.peek? s == some '-')
  | _ => false

/-- A member, or a range between two characters. -/
def readRange? (flags : Flags) (s : List Char) : Option (CharSet × List Char) := do
  let (first, s) ← readMember? flags s
  let s := flags.skip s
  if s.isEmpty then none
  else if startsRange flags s then
    let (last, s) ← readMember? flags (flags.skip (s.drop 1))
    match first, last with
    | .literal a, .literal b =>
      if a ≤ b && (flags.unicode || b.toNat < 0x80) then some (.range a.toNat b.toNat, s) else none
    | _, _ => none
  else some (← flags.member? first, s)

/-- A named set at the start of a text that follows an opening bracket: whether its complement is
meant, and the set. -/
def readNamed? : List Char → Option ((Bool × CharSet) × List Char)
  | ':' :: s => do
    let (negated, s) := match s with
      | '^' :: s => (true, s)
      | s => (false, s)
    match s.dropWhile (· ≠ ':') with
    | ':' :: ']' :: rest =>
      let set ← CharSet.asciiClass? (String.ofList (s.takeWhile (· ≠ ':')))
      some ((negated, set), rest)
    | _ => none
  | _ => none

/-- The beginning of a class after its opening bracket: whether it is negated, the hyphens that
stand for themselves, and a closing bracket that does. -/
def readOpening (flags : Flags) (s : List Char) : Bool × List Members × List Char :=
  let (negated, s) := match flags.skip s with
    | '^' :: s => (true, s)
    | s => (false, s)
  match flags.span (· == '-') s with
  | ([], ']' :: s) => (negated, [⟨.single ']', 0⟩], s)
  | (hyphens, s) => (negated, hyphens.map fun c => ⟨.single c, 0⟩, s)

/-- What stands before an operator is joined with what stands after it. -/
abbrev Pending := Members → Members

/-- The members side by side between operators. -/
def Flags.operand (flags : Flags) (items : List Members) : Members :=
  let members := Members.join items
  { members with set := flags.foldCase members.set }

def Flags.bracket? (flags : Flags) (negated : Bool) (members : Members) : Option Members := do
  some ⟨← flags.negate? negated (flags.foldCase members.set), members.depth + 1⟩

def readOperator? : List Char → Option ((CharSet → CharSet → CharSet) × List Char)
  | '&' :: '&' :: s => some (.inter, s)
  | '-' :: '-' :: s => some (.diff, s)
  | '~' :: '~' :: s => some (.symmDiff, s)
  | _ => none

mutual

/-- A class after its opening bracket. -/
def readClass? : Nat → Flags → List Char → Option (Members × List Char)
  | 0, _, _ => none
  | fuel + 1, flags, s => do
    let (negated, items, s) := readOpening flags s
    let (members, s) ← readParts? fuel flags id items s
    some (← flags.bracket? negated members, s)

/-- The rest of a class: `items` are the members since the last operator. -/
def readParts? : Nat → Flags → Pending → List Members → List Char → Option (Members × List Char)
  | 0, _, _, _, _ => none
  | fuel + 1, flags, pending, items, s =>
    match flags.skip s with
    | [] => none
    | ']' :: s => some (pending (flags.operand items), s)
    | '[' :: s =>
      match readNamed? s with
      | some ((negated, set), s) => do
        let set ← flags.negate? negated (flags.foldCase set)
        readParts? fuel flags pending (⟨set, 0⟩ :: items) s
      | none => do
        let (members, s) ← readClass? fuel flags s
        readParts? fuel flags pending (members :: items) s
    | s =>
      match readOperator? s with
      | some (op, s) =>
        let left := pending (flags.operand items)
        readParts? fuel flags (Members.operate op left) [] s
      | none => do
        let (set, s) ← readRange? flags s
        readParts? fuel flags pending (⟨set, 0⟩ :: items) s

end

end SqlTemplate.Pattern
