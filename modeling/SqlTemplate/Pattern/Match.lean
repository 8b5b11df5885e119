import SqlTemplate.Pattern.Basic
import Std.Data.HashSet

/-!
# Matching

A pattern is matched character by character. What a span still has to match after a character is a
row of patterns, one after the other, and there may be several such rows. A span may end where all
patterns of one row match the empty span.
-/

namespace SqlTemplate.Pattern

/-- Whether a pattern matches the empty span between two characters. -/
def nullable (before after : Option Char) : Pattern → Bool
  | empty => true
  | char _ => false
  | assertion a => a.holdsBetween before after
  | captured _ p => nullable before after p
  | seq p q => nullable before after p && nullable before after q
  | alt p q => nullable before after p || nullable before after q
  | repeated least _ p => least == 0 || nullable before after p

/-- Patterns that are to match one after the other. -/
abbrev Row := List Pattern

/-- Whether a pattern goes on without bound, so that further rounds of it add nothing. -/
def endless : Pattern → Bool
  | captured _ p => p.endless
  | repeated least none _ => least ≤ 1
  | _ => false

/-- What is left of a repetition after a round of it has begun. If a round can be empty, the
rounds that are still due can be so at the same place. -/
def remaining (canBeEmpty : Bool) (least : Nat) (most : Option Nat) (p : Pattern) : Row :=
  let least := if canBeEmpty then 0 else least - 1
  let most := most.map (· - 1)
  if most = some 0 || least == 0 && p.endless then [] else [repeated least most p]

/-- The rows that are left of a pattern and the row after it, when the pattern has taken the
character `c`, which follows `before`. -/
def derive (before : Option Char) (c : Char) : Pattern → Row → List Row
  | empty, _ | assertion _, _ => []
  | char set, row => if set.contains c then [row] else []
  | captured _ p, row => derive before c p row
  | seq p q, row =>
    derive before c p (q :: row) ++
      if p.nullable before (some c) then derive before c q row else []
  | alt p q, row => derive before c p row ++ derive before c q row
  | repeated least most p, row =>
    if most = some 0 then []
    else derive before c p (remaining (p.nullable before (some c)) least most p ++ row)

/-- The rows that are left of a row after the character `c`, which follows `before`. -/
def deriveRow (before : Option Char) (c : Char) : Row → List Row
  | [] => []
  | p :: row =>
    derive before c p row ++ if p.nullable before (some c) then deriveRow before c row else []

/-- A number that tells patterns apart as far as their outer levels do. -/
def digest : Nat → Pattern → UInt64
  | 0, _ => 0
  | _ + 1, empty => 1
  | _ + 1, char set => mixHash 2 (hash (set.changes.take 4))
  | _ + 1, assertion _ => 3
  | levels + 1, captured _ p => mixHash 4 (digest levels p)
  | levels + 1, seq p q => mixHash (digest levels p) (digest levels q)
  | levels + 1, alt p q => mixHash 5 (mixHash (digest levels p) (digest levels q))
  | levels + 1, repeated least most p => mixHash (hash (least, most)) (digest levels p)

instance : Hashable Pattern := ⟨digest 4⟩

/-- The same rows; where there are many of them, none is there twice. -/
def distinct (rows : List Row) : List Row :=
  if rows.length ≤ 8 then rows else (Std.HashSet.ofList rows).toList

@[simp] theorem mem_distinct {rows : List Row} {row : Row} :
    row ∈ distinct rows ↔ row ∈ rows := by
  unfold distinct
  split
  · rfl
  · simp [Std.HashSet.mem_toList, Std.HashSet.mem_ofList]

/-- Whether a span that matches `p` begins at the start of a text or later, or one that began
before has one of the rows left. -/
def search (p : Pattern) : Option Char → List Row → List Char → Bool
  | before, rows, s =>
    let rows := [p] :: rows
    rows.any (·.all (nullable before s.head?)) ||
      match s with
      | [] => false
      | c :: s => search p (some c) (distinct (rows.flatMap (deriveRow before c))) s

def foundIn (p : Pattern) (text : List Char) : Bool :=
  search p none [] text

end SqlTemplate.Pattern
