import SqlTemplate.Pattern.Build

/-!
# Pieces of patterns

What reading a piece of a pattern yields: the pattern, and how deep its text nests. Groups, classes
in brackets, repetitions, and sequences and choices of several pieces are levels of nesting.
-/

namespace SqlTemplate.Pattern

/-- A pattern and the number of levels of its text. -/
structure Piece where
  pattern : Pattern
  depth : Nat := 0

namespace Piece

/-- Flags that are set in the middle of a sequence match nothing. -/
def empty : Piece := ⟨.empty, 0⟩

def nest (f : Pattern → Pattern) (p : Piece) : Piece := ⟨f p.pattern, p.depth + 1⟩

/-- Several pieces together; one alone is left as it is. -/
def gather (f : List Pattern → Pattern) : List Piece → Piece
  | [] => empty
  | [p] => p
  | ps => ⟨f (ps.map pattern), (ps.map depth).foldl max 0 + 1⟩

def sequence (ps : List Piece) : Piece := gather Pattern.sequence ps

def choice (ps : List Piece) : Piece := gather Pattern.choice ps

def times (least : Nat) (most : Option Nat) (p : Piece) : Piece :=
  p.nest (Pattern.times least most)

end Piece

end SqlTemplate.Pattern
