import SqlTemplate.Character.Set

/-!
# Patterns

A pattern describes spans of a text. The span from position `i` to position `j` of a text matches
a pattern by the rules of `Pattern.Spans`; positions count characters. Assertions match the empty
span where something holds of the characters around it.
-/

namespace SqlTemplate

namespace Pattern

inductive WordEdge where
  | either
  | neither
  | start
  | stop
  | startHalf
  | stopHalf
deriving DecidableEq, Repr

/-- What an assertion asks of a position. Lines end at line feeds, with `crlf` also at carriage
returns, and never between the two. Words are made of the characters of `word`. -/
inductive Assertion where
  | textStart
  | textEnd
  | lineStart (crlf : Bool)
  | lineEnd (crlf : Bool)
  | wordEdge (edge : WordEdge) (word : CharSet)
deriving DecidableEq, Repr

namespace Assertion

/-- Whether an assertion holds between two characters; a missing one is an end of the text. -/
def holdsBetween (before after : Option Char) : Assertion → Bool
  | textStart => before.isNone
  | textEnd => after.isNone
  | lineStart false => before.isNone || before == some '\n'
  | lineStart true =>
    before.isNone || before == some '\n' || (before == some '\r' && after != some '\n')
  | lineEnd false => after.isNone || after == some '\n'
  | lineEnd true =>
    after.isNone || after == some '\r' || (after == some '\n' && before != some '\r')
  | wordEdge edge word =>
    let b := before.any word.contains
    let a := after.any word.contains
    match edge with
    | .either => b != a
    | .neither => b == a
    | .start => !b && a
    | .stop => b && !a
    | .startHalf => !b
    | .stopHalf => !a

def holdsAt (text : List Char) (i : Nat) (a : Assertion) : Bool :=
  a.holdsBetween (if i = 0 then none else text[i - 1]?) text[i]?

end Assertion

end Pattern

/-- A pattern. `repeated least most p` is `p` as many times in a row as the bounds allow;
`captured n p` is the `n`th group that a pattern numbers. -/
inductive Pattern where
  | empty
  | char (set : CharSet)
  | assertion (a : Pattern.Assertion)
  | captured (n : Nat) (p : Pattern)
  | seq (p q : Pattern)
  | alt (p q : Pattern)
  | repeated (least : Nat) (most : Option Nat) (p : Pattern)
deriving DecidableEq, Repr

namespace Pattern

variable (text : List Char)

mutual

/-- The span of `text` from the first position to the second matches the pattern. -/
inductive Spans : Pattern → Nat → Nat → Prop where
  | empty {i} : i ≤ text.length → Spans empty i i
  | char {set c i} : text[i]? = some c → set.contains c = true → Spans (char set) i (i + 1)
  | assertion {a i} : i ≤ text.length → a.holdsAt text i = true → Spans (assertion a) i i
  | captured {n p i j} : Spans p i j → Spans (captured n p) i j
  | seq {p q i j k} : Spans p i j → Spans q j k → Spans (seq p q) i k
  | altLeft {p q i j} : Spans p i j → Spans (alt p q) i j
  | altRight {p q i j} : Spans q i j → Spans (alt p q) i j
  | repeated {least most p n i j} : least ≤ n → (∀ m ∈ most, n ≤ m) → Times p n i j →
      Spans (repeated least most p) i j

/-- The span is made of this many spans in a row that match the pattern. -/
inductive Times : Pattern → Nat → Nat → Nat → Prop where
  | zero {p i} : i ≤ text.length → Times p 0 i i
  | succ {p n i j k} : Spans p i j → Times p n j k → Times p (n + 1) i k

end

end Pattern

end SqlTemplate
