/-!
# Sets of characters

A set of code points is the list of the points at which membership changes, in ascending order:
the first member, the first point after it that is no member, and so on. What holds after the last
change holds of all greater points. Equal sets have equal lists. The operations on sets sweep over
both lists at once.
-/

namespace SqlTemplate

/-- The numbers ascend, and none is less than `k`. -/
def Ascending : Nat → List Nat → Prop
  | _, [] => True
  | k, x :: xs => k ≤ x ∧ Ascending (x + 1) xs

theorem Ascending.mono {j k : Nat} {xs : List Nat} (h : Ascending k xs) (hjk : j ≤ k) :
    Ascending j xs := by
  cases xs with
  | nil => trivial
  | cons x xs => exact ⟨Nat.le_trans hjk h.1, h.2⟩

/-- A set of code points. -/
structure CharSet where
  changes : List Nat
  ascending : Ascending 0 changes
deriving DecidableEq, Repr

namespace CharSet

/-- Membership of a point, where `now` is the membership before the first change. -/
def inside : Bool → List Nat → Nat → Bool
  | now, [], _ => now
  | now, x :: xs, n => if n < x then now else inside (!now) xs n

def holds (s : CharSet) (n : Nat) : Bool :=
  inside false s.changes n

def contains (s : CharSet) (c : Char) : Bool :=
  s.holds c.toNat

def lastPoint : Nat := 0x10FFFF

def none : CharSet := ⟨[], trivial⟩

def all : CharSet := ⟨[0], Nat.le_refl 0, trivial⟩

def range (first last : Nat) : CharSet :=
  if h : first ≤ last then
    if last < lastPoint then
      ⟨[first, last + 1], Nat.zero_le _, Nat.succ_le_succ h, trivial⟩
    else ⟨[first], Nat.zero_le _, trivial⟩
  else none

def single (c : Char) : CharSet := range c.toNat c.toNat

def complement (s : CharSet) : CharSet :=
  match s with
  | ⟨[], _⟩ => all
  | ⟨0 :: xs, h⟩ => ⟨xs, h.2.mono (Nat.zero_le _)⟩
  | ⟨(x + 1) :: xs, h⟩ =>
    ⟨0 :: (x + 1) :: xs, Nat.le_refl 0, Nat.succ_le_succ (Nat.zero_le _), h.2⟩

def note (x : Nat) (before after : Bool) (rest : List Nat) : List Nat :=
  if before = after then rest else x :: rest

variable (op : Bool → Bool → Bool)

/-- Sweeps over the second list up to a change `x` of the first; `next` goes on after it. -/
def sweepTo (x : Nat) (next : Bool → Bool → List Nat → List Nat) (a : Bool) :
    Bool → List Nat → List Nat
  | b, [] => note x (op a b) (op (!a) b) (next (!a) b [])
  | b, y :: t =>
    if y < x then note y (op a b) (op a (!b)) (sweepTo x next a (!b) t)
    else if x < y then note x (op a b) (op (!a) b) (next (!a) b (y :: t))
    else note x (op a b) (op (!a) (!b)) (next (!a) (!b) t)

/-- Sweeps over two lists of changes. The booleans are the memberships before the first change of
either list. -/
def sweep : List Nat → Bool → Bool → List Nat → List Nat
  | [], a, b, t => if op a b = op a (!b) then [] else t
  | x :: s, a, b, t => sweepTo op x (sweep s) a b t

theorem ascending_note {k x : Nat} {before after : Bool} {rest : List Nat} (hk : k ≤ x)
    (h : Ascending (x + 1) rest) : Ascending k (note x before after rest) := by
  unfold note
  split
  · exact h.mono (by omega)
  · exact ⟨hk, h⟩

theorem ascending_sweepTo {x : Nat} {s : List Nat} {next : Bool → Bool → List Nat → List Nat}
    (hnext : ∀ k a b t, Ascending k s → Ascending k t → Ascending k (next a b t)) :
    ∀ (t : List Nat) (k : Nat) (a b : Bool), Ascending k (x :: s) → Ascending k t →
      Ascending k (sweepTo op x next a b t)
  | [], _, _, _, hs, _ => ascending_note hs.1 (hnext _ _ _ _ hs.2 trivial)
  | y :: t, k, a, b, hs, ht => by
    simp only [sweepTo]
    split
    · rename_i hyx
      exact ascending_note ht.1 (ascending_sweepTo hnext t _ _ _ ⟨hyx, hs.2⟩ ht.2)
    · split
      · rename_i hxy
        exact ascending_note hs.1 (hnext _ _ _ _ hs.2 ⟨hxy, ht.2⟩)
      · exact ascending_note hs.1 (hnext _ _ _ _ hs.2 (ht.2.mono (by omega)))

theorem ascending_sweep : ∀ (s : List Nat) (k : Nat) (a b : Bool) (t : List Nat),
    Ascending k s → Ascending k t → Ascending k (sweep op s a b t)
  | [], _, a, b, _, _, ht => by
    simp only [sweep]
    split
    · trivial
    · exact ht
  | _ :: s, k, a, b, t, hs, ht =>
    ascending_sweepTo op (fun k a b t => ascending_sweep s k a b t) t k a b hs ht

/-- The points whose memberships in two sets go together by `op`. A point of neither set is not
among them. -/
def combine (s t : CharSet) : CharSet :=
  ⟨sweep op s.changes false false t.changes, ascending_sweep op _ _ _ _ _ s.ascending t.ascending⟩

def union (s t : CharSet) : CharSet := combine (· || ·) s t

def inter (s t : CharSet) : CharSet := combine (· && ·) s t

def diff (s t : CharSet) : CharSet := combine (fun a b => a && !b) s t

def symmDiff (s t : CharSet) : CharSet := combine (fun a b => a != b) s t

def unions (sets : List CharSet) : CharSet := sets.foldr union none

def ofRanges (ranges : List (Char × Char)) : CharSet :=
  unions (ranges.map fun (a, b) => range a.toNat b.toNat)

def ofPoints (points : List Nat) : CharSet :=
  unions (points.map fun n => range n n)

def rangesOf : List Nat → List (Nat × Nat)
  | [] => []
  | [first] => [(first, lastPoint)]
  | first :: stop :: rest => (first, stop - 1) :: rangesOf rest

/-- The ranges of a set in ascending order, first and last point of each. They do not touch. -/
def ranges (s : CharSet) : List (Nat × Nat) := rangesOf s.changes

/-- The ranges of a set without the surrogates, which are no characters. -/
def charRanges (s : CharSet) : List (Nat × Nat) :=
  s.ranges.flatMap fun (first, last) =>
    [(first, min last 0xD7FF), (max first 0xE000, last)].filter fun (first, last) => first ≤ last

/-- The only member of a set, if it has one member. -/
def only? (s : CharSet) : Option Char :=
  match s.charRanges with
  | [(first, last)] => if first = last then some (Char.ofNat first) else .none
  | _ => .none

/-- The points that distances describe: each follows the one before by one more than the distance
that is written. -/
def fromGaps : Nat → List Nat → List Nat
  | _, [] => []
  | start, gap :: gaps => (start + gap) :: fromGaps (start + gap + 1) gaps

theorem ascending_fromGaps (start : Nat) (gaps : List Nat) :
    Ascending start (fromGaps start gaps) := by
  induction gaps generalizing start with
  | nil => trivial
  | cons gap gaps ih => exact ⟨Nat.le_add_right _ _, ih _⟩

/-- Reads numbers to the base 26 in letters. The last digit of a number is a small letter and the
digits before it are capitals. -/
def readGaps : Nat → List Char → List Nat
  | _, [] => []
  | n, c :: s =>
    if c.isUpper then readGaps (26 * n + (c.toNat - 'A'.toNat)) s
    else (26 * n + (c.toNat - 'a'.toNat)) :: readGaps 0 s

/-- The set that a table writes. A table holds the distances between the changes, in lines. -/
def ofTable (lines : List String) : CharSet :=
  ⟨fromGaps 0 (readGaps 0 (lines.flatMap String.toList)), ascending_fromGaps 0 _⟩

end CharSet

end SqlTemplate
