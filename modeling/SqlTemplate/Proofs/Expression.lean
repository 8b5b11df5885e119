import Mathlib.Data.List.TakeDrop
import SqlTemplate.Evaluator
import SqlTemplate.Proofs.Reading

/-!
# The language of an evaluator

The evaluator of paths understands words, numbers, quoted texts and property paths. `Denotes` is that
language, with what each of its texts stands for. `value_paths_iff` compares the evaluator with it: the
evaluator takes every text of the language for what it denotes, and besides only texts between two quotation
marks of one sort that hold such a mark in between as well.
-/

namespace SqlTemplate

/-! ## Numerals -/

namespace Number

structure IsDigits (s : List Char) : Prop where
  ne_nil : s ≠ []
  isDigit : ∀ c ∈ s, c.isDigit = true

inductive WritesInteger : List Char → Int → Prop
  | natural {s : List Char} (h : IsDigits s) : WritesInteger s (ofDigits s)
  | negative {s : List Char} (h : IsDigits s) : WritesInteger ('-' :: s) (-(ofDigits s : Int))

structure Exponent where
  mark : Char
  sign : List Char
  digits : List Char
  isMark : mark = 'e' ∨ mark = 'E'
  isSign : sign = [] ∨ sign = ['+'] ∨ sign = ['-']
  isDigits : IsDigits digits

namespace Exponent

def chars (e : Exponent) : List Char := e.mark :: (e.sign ++ e.digits)

def value (e : Exponent) : Int :=
  if e.sign = ['-'] then -(ofDigits e.digits : Int) else ofDigits e.digits

end Exponent

/-- A decimal number without a sign as it is written. There is a digit before or after the point. -/
structure Decimal where
  whole : List Char
  fraction : Option (List Char)
  exponent : Option Exponent
  whole_isDigit : ∀ c ∈ whole, c.isDigit = true
  fraction_isDigit : ∀ c ∈ fraction.getD [], c.isDigit = true
  has_digit : whole ++ fraction.getD [] ≠ []

namespace Decimal

def tail (d : Decimal) : List Char :=
  (d.fraction.map ('.' :: ·)).getD [] ++ (d.exponent.map Exponent.chars).getD []

def chars (d : Decimal) : List Char := d.whole ++ d.tail

def parts (d : Decimal) : Nat × Int :=
  (ofDigits (d.whole ++ d.fraction.getD []),
    (d.exponent.map Exponent.value).getD 0 - (d.fraction.getD []).length)

def double (negative : Bool) (d : Decimal) : Double :=
  .ofDecimal negative d.parts.1 d.parts.2

end Decimal

inductive WritesDouble : List Char → Double → Prop
  | positive (d : Decimal) (h : d.whole ≠ []) : WritesDouble d.chars (d.double false)
  | negative (d : Decimal) : WritesDouble ('-' :: d.chars) (d.double true)
  | infinite {s : List Char} (h : s.map Char.toLower ∈ ["inf".toList, "infinity".toList]) :
    WritesDouble ('-' :: s) (.infinite true)
  | nan {s : List Char} (h : s.map Char.toLower = "nan".toList) : WritesDouble ('-' :: s) .nan

/-! ## Reading numerals -/

theorem readDigits?_eq_some_iff {s : List Char} {n : Nat} :
    readDigits? s = some n ↔ IsDigits s ∧ ofDigits s = n := by
  unfold readDigits?
  split
  · rename_i h
    simp only [Bool.and_eq_true, Bool.not_eq_true', List.isEmpty_eq_false_iff, List.all_eq_true] at h
    simp [IsDigits.mk h.1 h.2]
  · rename_i h
    simp only [reduceCtorEq, false_iff, not_and]
    intro hs
    refine absurd ?_ h
    simp only [Bool.and_eq_true, Bool.not_eq_true', List.isEmpty_eq_false_iff, List.all_eq_true]
    exact ⟨hs.ne_nil, hs.isDigit⟩

theorem IsDigits.head {s : List Char} (h : IsDigits s) : ∃ c t, s = c :: t ∧ c.isDigit = true := by
  obtain ⟨c, t, rfl⟩ := List.exists_cons_of_ne_nil h.ne_nil
  exact ⟨c, t, rfl, h.isDigit c List.mem_cons_self⟩

theorem IsDigits.head?_ne {s : List Char} (h : IsDigits s) {c : Char} (hc : c.isDigit = false) :
    s.head? ≠ some c := by
  intro hs
  have hmem := h.isDigit c (List.mem_of_head? hs)
  rw [hc] at hmem
  cases hmem

theorem splitSign_digits {s : List Char} (h : IsDigits s) : splitSign s = (false, s) := by
  obtain ⟨c, t, rfl, hc⟩ := h.head
  have hminus : c ≠ '-' := by rintro rfl; cases hc
  have hplus : c ≠ '+' := by rintro rfl; cases hc
  simp [splitSign, hminus, hplus]

theorem readExponent?_mark {mark : Char} (h : mark = 'e' ∨ mark = 'E') (s : List Char) :
    readExponent? (mark :: s) = (readDigits? (splitSign s).2).map fun (n : Nat) =>
      if (splitSign s).1 = true then -(n : Int) else (n : Int) := by
  have hmark : (mark == 'e' || mark == 'E') = true := by simpa using h
  simp only [readExponent?, hmark, if_true]
  cases readDigits? (splitSign s).2 <;> rfl

theorem readExponent?_chars (e : Exponent) : readExponent? e.chars = some e.value := by
  obtain ⟨mark, sign, digits, hmark, hsign, hdigits⟩ := e
  have hread : readDigits? digits = some (ofDigits digits) :=
    readDigits?_eq_some_iff.mpr ⟨hdigits, rfl⟩
  unfold Exponent.chars Exponent.value
  rw [readExponent?_mark hmark]
  rcases hsign with rfl | rfl | rfl
  · rw [List.nil_append, splitSign_digits hdigits, hread]
    simp
  · have hsplit : splitSign (['+'] ++ digits) = (false, digits) := rfl
    rw [hsplit, hread]
    rfl
  · have hsplit : splitSign (['-'] ++ digits) = (true, digits) := rfl
    rw [hsplit, hread]
    rfl

theorem exists_of_readExponent? {s : List Char} {n : Int} (h : readExponent? s = some n) :
    ∃ e : Option Exponent, s = (e.map Exponent.chars).getD [] ∧ n = (e.map Exponent.value).getD 0 := by
  cases s with
  | nil =>
    cases h
    exact ⟨none, rfl, rfl⟩
  | cons mark s =>
    have hmark : mark = 'e' ∨ mark = 'E' := by
      by_contra hno
      simp only [not_or] at hno
      simp [readExponent?, hno] at h
    rw [readExponent?_mark hmark] at h
    obtain ⟨m, hm, rfl⟩ := Option.map_eq_some_iff.mp h
    obtain ⟨hdigits, rfl⟩ := readDigits?_eq_some_iff.mp hm
    have hsign : ∃ sign, s = sign ++ (splitSign s).2 ∧ (sign = [] ∨ sign = ['+'] ∨ sign = ['-']) ∧
        ((splitSign s).1 = true ↔ sign = ['-']) := by
      unfold splitSign
      split
      · exact ⟨['-'], rfl, by simp, by simp⟩
      · exact ⟨['+'], rfl, by simp, by simp⟩
      · exact ⟨[], rfl, by simp, by simp⟩
    obtain ⟨sign, hs, hsign, hminus⟩ := hsign
    refine ⟨some ⟨mark, sign, _, hmark, hsign, hdigits⟩, congrArg (mark :: ·) hs, ?_⟩
    simp only [Option.map_some, Option.getD_some, Exponent.value, hminus]

namespace Exponent

theorem head_isMark {e : Option Exponent} {c : Char}
    (h : c ∈ ((e.map chars).getD []).head?) : c = 'e' ∨ c = 'E' := by
  cases e with
  | none => cases h
  | some e =>
    cases h
    exact e.isMark

theorem not_isDigit_head {e : Option Exponent} :
    ∀ c ∈ ((e.map chars).getD []).head?, c.isDigit = false := by
  intro c hc
  rcases head_isMark hc with rfl | rfl
  · rfl
  · rfl

end Exponent

theorem readExponent?_map_chars (e : Option Exponent) :
    readExponent? ((e.map Exponent.chars).getD []) = some ((e.map Exponent.value).getD 0) := by
  cases e with
  | none => rfl
  | some e => exact readExponent?_chars e

def splitFraction : List Char → List Char × List Char
  | '.' :: s => (s.takeWhile Char.isDigit, s.dropWhile Char.isDigit)
  | s => ([], s)

theorem readDecimal?_eq (s : List Char) :
    readDecimal? s =
      let whole := s.takeWhile Char.isDigit
      let fraction := (splitFraction (s.dropWhile Char.isDigit)).1
      (readExponent? (splitFraction (s.dropWhile Char.isDigit)).2).bind fun exponent =>
        if whole ++ fraction = [] then none
        else some (ofDigits (whole ++ fraction), exponent - fraction.length) := by
  have hempty : ∀ a b : List Char, (a.isEmpty && b.isEmpty) = decide (a ++ b = []) := by
    intro a b
    cases a <;> cases b <;> rfl
  unfold readDecimal?
  simp only [List.span_eq_takeWhile_dropWhile, hempty]
  cases s.dropWhile Char.isDigit with
  | nil => simp [splitFraction, bind]
  | cons c t =>
    by_cases hc : c = '.'
    · subst hc
      simp [splitFraction, bind]
    · simp [splitFraction, hc, bind]

namespace Decimal

theorem not_isDigit_head_tail (d : Decimal) : ∀ c ∈ d.tail.head?, c.isDigit = false := by
  intro c hc
  unfold tail at hc
  cases hf : d.fraction with
  | none =>
    rw [hf] at hc
    exact Exponent.not_isDigit_head c hc
  | some f =>
    rw [hf] at hc
    cases hc
    rfl

theorem splitFraction_tail (d : Decimal) :
    splitFraction d.tail = (d.fraction.getD [], (d.exponent.map Exponent.chars).getD []) := by
  unfold tail
  cases hf : d.fraction with
  | none =>
    change splitFraction ((d.exponent.map Exponent.chars).getD []) = _
    have hpoint : ∀ s, (d.exponent.map Exponent.chars).getD [] ≠ '.' :: s := by
      intro s hs
      have hmark := Exponent.head_isMark (e := d.exponent) (c := '.') (by rw [hs]; rfl)
      simp at hmark
    unfold splitFraction
    split
    · rename_i s hs
      exact absurd hs (hpoint s)
    · rfl
  | some f =>
    have hdigits : ∀ c ∈ f, c.isDigit = true := by simpa [hf] using d.fraction_isDigit
    change (List.takeWhile _ (f ++ _), List.dropWhile _ (f ++ _)) = _
    rw [List.takeWhile_append_of_head? hdigits Exponent.not_isDigit_head,
      List.dropWhile_append_of_all hdigits Exponent.not_isDigit_head]
    rfl

theorem readDecimal?_chars (d : Decimal) : readDecimal? d.chars = some d.parts := by
  rw [readDecimal?_eq]
  unfold chars
  rw [List.takeWhile_append_of_head? d.whole_isDigit d.not_isDigit_head_tail,
    List.dropWhile_append_of_all d.whole_isDigit d.not_isDigit_head_tail, splitFraction_tail]
  simp only [readExponent?_map_chars, Option.bind_some]
  rw [if_neg d.has_digit]
  rfl

end Decimal

theorem exists_of_splitFraction (s : List Char) : ∃ fraction : Option (List Char),
    (splitFraction s).1 = fraction.getD [] ∧
    s = (fraction.map ('.' :: ·)).getD [] ++ (splitFraction s).2 ∧
    ∀ c ∈ fraction.getD [], c.isDigit = true := by
  unfold splitFraction
  split
  · rename_i t
    refine ⟨some (t.takeWhile Char.isDigit), rfl, ?_, fun c hc => List.mem_takeWhile_imp hc⟩
    simp
  · exact ⟨none, rfl, rfl, by simp⟩

theorem exists_of_readDecimal? {s : List Char} {parts : Nat × Int} (h : readDecimal? s = some parts) :
    ∃ d : Decimal, d.chars = s ∧ d.parts = parts := by
  rw [readDecimal?_eq] at h
  obtain ⟨n, hn, h⟩ := Option.bind_eq_some_iff.mp h
  obtain ⟨e, he, rfl⟩ := exists_of_readExponent? hn
  obtain ⟨fraction, hfraction, htail, hdigits⟩ := exists_of_splitFraction (s.dropWhile Char.isDigit)
  rw [hfraction] at h
  split at h
  · cases h
  · rename_i hne
    refine ⟨⟨s.takeWhile Char.isDigit, fraction, e, fun c hc => List.mem_takeWhile_imp hc, hdigits, hne⟩,
      ?_, Option.some.inj h⟩
    unfold Decimal.chars Decimal.tail
    rw [← he, ← htail, List.takeWhile_append_dropWhile]

theorem readInt?_eq_some_iff {s : List Char} {n : Int} (h : s.head? ≠ some '+') :
    readInt? s = some n ↔ WritesInteger s n := by
  constructor
  · intro hn
    unfold readInt? at hn
    split at hn
    · obtain ⟨_, hcast, rfl⟩ := Option.map_eq_some_iff.mp hn
      obtain ⟨m, hm, he⟩ := Option.bind_eq_some_iff.mp hcast
      cases he
      obtain ⟨hdigits, rfl⟩ := readDigits?_eq_some_iff.mp hm
      exact .negative hdigits
    · obtain ⟨_, hcast, rfl⟩ := Option.map_eq_some_iff.mp hn
      obtain ⟨m, hm, he⟩ := Option.bind_eq_some_iff.mp hcast
      cases he
      unfold readNat? at hm
      split at hm
      · exact absurd rfl h
      · obtain ⟨hdigits, rfl⟩ := readDigits?_eq_some_iff.mp hm
        exact .natural hdigits
  · rintro (hdigits | hdigits)
    · have hminus := hdigits.head?_ne (c := '-') rfl
      have hread := readDigits?_eq_some_iff.mpr ⟨hdigits, rfl⟩
      unfold readInt?
      split
      · exact absurd rfl hminus
      · unfold readNat?
        split
        · exact absurd rfl h
        · rw [hread]
          rfl
    · have hread := readDigits?_eq_some_iff.mpr ⟨hdigits, rfl⟩
      simp [readInt?, hread]

theorem toNat_le_of_isDigit {c : Char} (h : c.isDigit = true) : c.toNat ≤ 57 := by
  delta Char.isDigit at h
  simp only [Bool.and_eq_true, decide_eq_true_eq, UInt32.le_iff_toNat_le] at h
  exact h.2

theorem toLower_eq_self {c : Char} (h : c.toNat < 65) : c.toLower = c := by
  unfold Char.toLower
  split
  · rename_i hupper
    have hge : 65 ≤ c.toNat := UInt32.le_iff_toNat_le.mp hupper.1
    omega
  · rfl

namespace Decimal

theorem exists_head (d : Decimal) : ∃ c t, d.chars = c :: t ∧ (c.isDigit = true ∨ c = '.') := by
  unfold chars
  cases hw : d.whole with
  | cons c t => exact ⟨c, t ++ d.tail, rfl, Or.inl (d.whole_isDigit c (by simp [hw]))⟩
  | nil =>
    cases hf : d.fraction with
    | none => exact absurd (by rw [hw, hf]; rfl) d.has_digit
    | some f =>
      refine ⟨'.', f ++ (d.exponent.map Exponent.chars).getD [], ?_, Or.inr rfl⟩
      unfold tail
      rw [hf]
      rfl

theorem head?_map_toLower (d : Decimal) {c : Char} (h : (d.chars.map Char.toLower).head? = some c) :
    c.toNat < 65 := by
  obtain ⟨k, t, hchars, hk⟩ := d.exists_head
  have hlt : k.toNat < 65 := by
    rcases hk with hk | rfl
    · exact Nat.lt_of_le_of_lt (toNat_le_of_isDigit hk) (by decide)
    · decide
  rw [hchars, List.map_cons, List.head?_cons, toLower_eq_self hlt] at h
  exact Option.some.inj h ▸ hlt

end Decimal

/-- A double is one of three words, in any letter case, or a decimal number. -/
theorem Double.read?_eq_some_iff {negative : Bool} {s body : List Char} {x : Double}
    (h : splitSign s = (negative, body)) :
    read? s = some x ↔
      (body.map Char.toLower ∈ ["inf".toList, "infinity".toList] ∧ x = .infinite negative) ∨
      (body.map Char.toLower = "nan".toList ∧ x = .nan) ∨
      ∃ d : Decimal, d.chars = body ∧ x = d.double negative := by
  have hinf : (body.map Char.toLower = ['i', 'n', 'f'] ∨
      body.map Char.toLower = ['i', 'n', 'f', 'i', 'n', 'i', 't', 'y']) ↔
      body.map Char.toLower ∈ ["inf".toList, "infinity".toList] := by simp
  -- no decimal number is one of the words: digits and the point come before letters
  have hword : ∀ d : Decimal, d.chars = body → ∀ c ∈ (body.map Char.toLower).head?, c.toNat < 65 := by
    rintro d rfl c hc
    exact d.head?_map_toLower hc
  unfold read?
  rw [h]
  dsimp only
  split
  · rename_i hi
    constructor
    · intro hx
      exact Or.inl ⟨hinf.mp hi, (Option.some.inj hx).symm⟩
    · rintro (⟨_, rfl⟩ | ⟨hn, _⟩ | ⟨d, hd, _⟩)
      · rfl
      · rw [hn] at hi
        simp at hi
      · have hlt := hword d hd 'i' (by rcases hi with hi | hi <;> rw [hi] <;> rfl)
        exact absurd hlt (by decide)
  · rename_i hi
    rw [hinf] at hi
    split
    · rename_i hn
      constructor
      · intro hx
        exact Or.inr (Or.inl ⟨hn, (Option.some.inj hx).symm⟩)
      · rintro (⟨hi', _⟩ | ⟨_, rfl⟩ | ⟨d, hd, _⟩)
        · exact absurd hi' hi
        · rfl
        · have hlt := hword d hd 'n' (by rw [hn]; rfl)
          exact absurd hlt (by decide)
    · rename_i hn
      rw [Option.map_eq_some_iff]
      constructor
      · rintro ⟨parts, hparts, rfl⟩
        obtain ⟨d, hd, rfl⟩ := exists_of_readDecimal? hparts
        exact Or.inr (Or.inr ⟨d, hd, rfl⟩)
      · rintro (⟨hi', _⟩ | ⟨hn', _⟩ | ⟨d, rfl, rfl⟩)
        · exact absurd hi' hi
        · exact absurd hn' hn
        · exact ⟨d.parts, d.readDecimal?_chars, rfl⟩

def beginsNumeral (s : List Char) : Bool :=
  s.head?.any fun c => c.isDigit || c == '-'

theorem IsDigits.beginsNumeral {s : List Char} (h : IsDigits s) : beginsNumeral s = true := by
  obtain ⟨c, t, rfl, hc⟩ := h.head
  simp [Number.beginsNumeral, hc]

theorem WritesInteger.beginsNumeral {s : List Char} {n : Int} (h : WritesInteger s n) :
    beginsNumeral s = true := by
  cases h with
  | natural h => exact h.beginsNumeral
  | negative h => rfl

theorem WritesDouble.beginsNumeral {s : List Char} {x : Double} (h : WritesDouble s x) :
    beginsNumeral s = true := by
  cases h with
  | positive d hne =>
    obtain ⟨c, t, hw⟩ := List.exists_cons_of_ne_nil hne
    have hc : c.isDigit = true := d.whole_isDigit c (by simp [hw])
    simp [Number.beginsNumeral, Decimal.chars, hw, hc]
  | negative d => rfl
  | infinite h => rfl
  | nan h => rfl

theorem writesDouble_minus_iff {s : List Char} {x : Double} :
    WritesDouble ('-' :: s) x ↔
      (s.map Char.toLower ∈ ["inf".toList, "infinity".toList] ∧ x = .infinite true) ∨
      (s.map Char.toLower = "nan".toList ∧ x = .nan) ∨
      ∃ d : Decimal, d.chars = s ∧ x = d.double true := by
  constructor
  · intro h
    generalize hs : '-' :: s = t at h
    cases h with
    | positive d hne =>
      obtain ⟨c, w, hw⟩ := List.exists_cons_of_ne_nil hne
      have hc : c.isDigit = true := d.whole_isDigit c (by simp [hw])
      rw [Decimal.chars, hw] at hs
      cases hs
      cases hc
    | negative d =>
      cases hs
      exact Or.inr (Or.inr ⟨d, rfl, rfl⟩)
    | infinite h =>
      cases hs
      exact Or.inl ⟨h, rfl⟩
    | nan h =>
      cases hs
      exact Or.inr (Or.inl ⟨h, rfl⟩)
  · rintro (⟨h, rfl⟩ | ⟨h, rfl⟩ | ⟨d, rfl, rfl⟩)
    · exact .infinite h
    · exact .nan h
    · exact .negative d

theorem writesDouble_digit_iff {c : Char} {s : List Char} {x : Double} (hc : c.isDigit = true) :
    WritesDouble (c :: s) x ↔ ∃ d : Decimal, d.chars = c :: s ∧ x = d.double false := by
  constructor
  · intro h
    generalize hs : c :: s = t at h
    cases h with
    | positive d hne => exact ⟨d, rfl, rfl⟩
    | negative d => cases hs; cases hc
    | infinite h => cases hs; cases hc
    | nan h => cases hs; cases hc
  · rintro ⟨d, hd, rfl⟩
    rw [← hd]
    refine .positive d fun hwhole => ?_
    have hpoint := d.not_isDigit_head_tail c
    rw [Decimal.chars, hwhole, List.nil_append] at hd
    rw [hd, hc] at hpoint
    cases hpoint rfl

theorem read?_eq_some_iff_writesDouble {s : List Char} {x : Double} (h : beginsNumeral s = true) :
    Double.read? s = some x ↔ WritesDouble s x := by
  cases s with
  | nil => cases h
  | cons c s =>
    by_cases hminus : c = '-'
    · subst hminus
      exact (Double.read?_eq_some_iff rfl).trans writesDouble_minus_iff.symm
    · have hc : c.isDigit = true := by simpa [beginsNumeral, hminus] using h
      have hplus : c ≠ '+' := by rintro rfl; cases hc
      have hsplit : splitSign (c :: s) = (false, c :: s) := by simp [splitSign, hminus, hplus]
      have hhead : ((c :: s).map Char.toLower).head? = some c := by
        have hlt : c.toNat < 65 := Nat.lt_of_le_of_lt (toNat_le_of_isDigit hc) (by decide)
        rw [List.map_cons, List.head?_cons, toLower_eq_self hlt]
      have hletter : ∀ k, (c :: s).map Char.toLower = k → k.head? ≠ some 'i' ∧ k.head? ≠ some 'n' := by
        rintro k rfl
        rw [hhead]
        constructor <;> (rintro ⟨⟩; cases hc)
      rw [Double.read?_eq_some_iff hsplit, writesDouble_digit_iff hc]
      constructor
      · rintro (⟨hs, _⟩ | ⟨hs, _⟩ | hd)
        · rcases List.mem_pair.mp hs with hs | hs
          · exact absurd rfl (hletter _ hs).1
          · exact absurd rfl (hletter _ hs).1
        · exact absurd rfl (hletter _ hs).2
        · exact hd
      · exact fun hd => Or.inr (Or.inr hd)

end Number

/-! ## The language -/

namespace Evaluator

open Number

inductive WritesNumber : List Char → Value → Prop
  | int {s : List Char} {n : Int} (h : WritesInteger s n) (hfits : fitsInt64 n = true) :
    WritesNumber s (.int n)
  | float {s : List Char} {x : Double} (h : WritesDouble s x)
    (hlarge : ∀ n, WritesInteger s n → fitsInt64 n = false) : WritesNumber s (.float x)

theorem WritesNumber.beginsNumeral {s : List Char} {v : Value} (h : WritesNumber s v) :
    beginsNumeral s = true := by
  cases h with
  | int h => exact h.beginsNumeral
  | float h => exact h.beginsNumeral

theorem number?_eq_some_iff {s : List Char} {v : Value} :
    number? s = some v ↔ WritesNumber s v := by
  by_cases hbegins : beginsNumeral s = true
  · have hplus : s.head? ≠ some '+' := by
      intro hs
      unfold beginsNumeral at hbegins
      rw [hs] at hbegins
      cases hbegins
    have hdouble : ∀ w, (Double.read? s).map Value.float = some w ↔
        ∃ x, WritesDouble s x ∧ w = .float x := by
      intro w
      simp only [Option.map_eq_some_iff, read?_eq_some_iff_writesDouble hbegins, eq_comm (a := w)]
    have hguard : (s.head?.any fun c => c.isDigit || c == '-') = true := hbegins
    unfold number?
    rw [if_pos hguard]
    -- an integer that fits, one that is too large, or no integer at all
    split
    · rename_i n hn
      rw [readInt?_eq_some_iff hplus] at hn
      have hunique : ∀ m, WritesInteger s m → m = n := by
        intro m hm
        exact Option.some.inj (((readInt?_eq_some_iff hplus).mpr hm).symm.trans
          ((readInt?_eq_some_iff hplus).mpr hn))
      split
      · rename_i hfits
        constructor
        · rintro ⟨⟩
          exact .int hn hfits
        · rintro (⟨hm, _⟩ | ⟨_, hlarge⟩)
          · rw [hunique _ hm]
          · rw [hlarge n hn] at hfits
            cases hfits
      · rename_i hfits
        rw [hdouble]
        constructor
        · rintro ⟨x, hx, rfl⟩
          exact .float hx fun m hm => by simpa [hunique m hm] using hfits
        · rintro (⟨hm, hfits'⟩ | ⟨hx, _⟩)
          · rw [hunique _ hm] at hfits'
            exact absurd hfits' hfits
          · exact ⟨_, hx, rfl⟩
    · rename_i hn
      have hno : ∀ m, ¬ WritesInteger s m := by
        intro m hm
        rw [(readInt?_eq_some_iff hplus).mpr hm] at hn
        cases hn
      rw [hdouble]
      constructor
      · rintro ⟨x, hx, rfl⟩
        exact .float hx fun m hm => absurd hm (hno m)
      · rintro (⟨hm, _⟩ | ⟨hx, _⟩)
        · exact absurd hm (hno _)
        · exact ⟨_, hx, rfl⟩
  · have hnone : number? s = none := if_neg hbegins
    rw [hnone]
    constructor
    · rintro ⟨⟩
    · exact fun h => absurd h.beginsNumeral hbegins

structure IsPathText (s : List Char) : Prop where
  ne_nil : s ≠ []
  head : ∀ c ∈ s.head?, c.isDigit = false ∧ c ≠ '.' ∧ c ≠ '['
  all : ∀ c ∈ s, c.isAlphanum = true ∨ c ∈ ['_', '$', '.', '[', ']']

theorem isPath_iff {s : List Char} : isPath s = true ↔ IsPathText s := by
  have hall : (s.all fun c => c.isAlphanum || c == '_' || c == '$' || c == '.' || c == '[' || c == ']') =
      true ↔ ∀ c ∈ s, c.isAlphanum = true ∨ c ∈ ['_', '$', '.', '[', ']'] := by
    simp [List.all_eq_true, or_assoc]
  unfold isPath
  rw [Bool.and_eq_true, hall]
  cases s with
  | nil =>
    constructor
    · rintro ⟨⟨⟩, _⟩
    · exact fun h => absurd rfl h.ne_nil
  | cons c s =>
    simp only [List.head?_cons, Option.any_some, Bool.not_eq_true', Bool.or_eq_false_iff,
      beq_eq_false_iff_ne, and_assoc]
    constructor
    · rintro ⟨hdigit, hdot, hbracket, h⟩
      exact ⟨List.cons_ne_nil c s, by rintro k ⟨⟩; exact ⟨hdigit, hdot, hbracket⟩, h⟩
    · rintro ⟨_, hhead, h⟩
      exact ⟨(hhead c rfl).1, (hhead c rfl).2.1, (hhead c rfl).2.2, h⟩

def IsQuote (c : Char) : Prop := c = '\'' ∨ c = '"'

def wordTexts : List (List Char) := ["null".toList, "true".toList, "false".toList]

/-- What an expression stands for under bindings: a word, a text between two quotation marks that does not
hold such a mark, a number, or the value at a path. -/
inductive Denotes (b : Bindings) : List Char → Value → Prop
  | null : Denotes b "null".toList .null
  | true : Denotes b "true".toList (.bool true)
  | false : Denotes b "false".toList (.bool false)
  | quoted {quote : Char} {t : List Char} (hquote : IsQuote quote) (hfree : quote ∉ t) :
    Denotes b (quote :: (t ++ [quote])) (.text (String.ofList t))
  | number {s : List Char} {v : Value} (h : WritesNumber s v) : Denotes b s v
  | path {s : List Char} (h : IsPathText s) (hword : s ∉ wordTexts) :
    Denotes b s ((b.getPath (String.ofList s)).getD .null)

/-- A text between two quotation marks of one sort that holds such a mark in between as well. -/
def IsMisquoted (s t : List Char) : Prop :=
  ∃ quote, IsQuote quote ∧ quote ∈ t ∧ s = quote :: (t ++ [quote])

theorem unquote?_eq_some_iff {quote : Char} {s t : List Char} :
    unquote? quote s = some t ↔ s = quote :: (t ++ [quote]) := by
  cases s with
  | nil => simp [unquote?]
  | cons c s =>
    simp only [unquote?, Bool.and_eq_true, beq_iff_eq]
    constructor
    · intro h
      split at h
      · rename_i hs
        obtain ⟨rfl, hlast⟩ := hs
        cases h
        obtain ⟨u, rfl⟩ := List.getLast?_eq_some_iff.mp hlast
        rw [List.dropLast_concat]
      · cases h
    · rintro ⟨⟩
      simp

theorem unquoted_eq_some_iff {s t : List Char} :
    (unquote? '\'' s <|> unquote? '"' s) = some t ↔
      ∃ quote, IsQuote quote ∧ s = quote :: (t ++ [quote]) := by
  rw [Option.orElse_eq_orElse, Option.orElse_eq_or, Option.or_eq_some_iff, unquote?_eq_some_iff,
    unquote?_eq_some_iff]
  constructor
  · rintro (h | ⟨_, h⟩)
    · exact ⟨'\'', Or.inl rfl, h⟩
    · exact ⟨'"', Or.inr rfl, h⟩
  · rintro ⟨quote, rfl | rfl, rfl⟩
    · exact Or.inl rfl
    · exact Or.inr ⟨rfl, rfl⟩

/-- Quotation marks begin no number, so that the order of the two does not matter. -/
theorem literal?_eq_some_iff {s : List Char} {v : Value} (hword : s ∉ wordTexts) :
    literal? s = some v ↔
      (∃ quote t, IsQuote quote ∧ s = quote :: (t ++ [quote]) ∧ v = .text (String.ofList t)) ∨
      WritesNumber s v := by
  have hne : ∀ w ∈ wordTexts, String.ofList s ≠ String.ofList w := by
    rintro w hw he
    exact hword (String.ofList_injective he ▸ hw)
  unfold literal?
  split
  · rename_i h
    exact absurd h (hne "null".toList (by simp [wordTexts]))
  · rename_i h
    exact absurd h (hne "true".toList (by simp [wordTexts]))
  · rename_i h
    exact absurd h (hne "false".toList (by simp [wordTexts]))
  · rw [Option.orElse_eq_orElse, Option.orElse_eq_or, Option.or_eq_some_iff, Option.map_eq_some_iff,
      Option.map_eq_none_iff, number?_eq_some_iff]
    constructor
    · rintro (⟨t, ht, rfl⟩ | ⟨_, h⟩)
      · obtain ⟨quote, hquote, hs⟩ := unquoted_eq_some_iff.mp ht
        exact Or.inl ⟨quote, t, hquote, hs, rfl⟩
      · exact Or.inr h
    · rintro (⟨quote, t, hquote, hs, rfl⟩ | h)
      · exact Or.inl ⟨t, unquoted_eq_some_iff.mpr ⟨quote, hquote, hs⟩, rfl⟩
      · refine Or.inr ⟨Option.eq_none_iff_forall_ne_some.mpr fun t ht => ?_, h⟩
        obtain ⟨quote, hquote, rfl⟩ := unquoted_eq_some_iff.mp ht
        have hbegins := h.beginsNumeral
        rcases hquote with rfl | rfl
        · cases hbegins
        · cases hbegins

theorem literal?_of_isPathText {s : List Char} (h : IsPathText s) (hword : s ∉ wordTexts) :
    literal? s = none := by
  refine Option.eq_none_iff_forall_ne_some.mpr fun v hv => ?_
  obtain ⟨c, t, rfl⟩ := List.exists_cons_of_ne_nil h.ne_nil
  have hc := h.all c List.mem_cons_self
  rcases (literal?_eq_some_iff hword).mp hv with ⟨quote, t', hquote, hs, _⟩ | hnumber
  · cases hs
    rcases hquote with rfl | rfl
    · exact absurd hc (by decide)
    · exact absurd hc (by decide)
  · have hbegins := hnumber.beginsNumeral
    have hdigit := (h.head c rfl).1
    have hminus : c = '-' := by simpa [beginsNumeral, hdigit] using hbegins
    rw [hminus] at hc
    exact absurd hc (by decide)

section
variable {b : Bindings} {s t : List Char} {v : Value}

theorem denotes_word_iff (hword : s ∈ wordTexts) : Denotes b s v ↔ literal? s = some v := by
  have hwords : s = "null".toList ∨ s = "true".toList ∨ s = "false".toList := by
    simpa [wordTexts] using hword
  have hquote : ∀ quote u, IsQuote quote → s ≠ quote :: u := by
    rintro quote u hquote rfl
    rcases hquote with rfl | rfl <;> simp at hwords
  constructor
  · intro h
    cases h with
    | null => rfl
    | true => rfl
    | false => rfl
    | quoted hq _ => exact absurd rfl (hquote _ _ hq)
    | number h =>
      have hbegins := h.beginsNumeral
      rcases hwords with rfl | rfl | rfl <;> cases hbegins
    | path _ hno => exact absurd hword hno
  · intro h
    rcases hwords with rfl | rfl | rfl
    · cases h; exact .null
    · cases h; exact .true
    · cases h; exact .false

theorem denotes_iff (hword : s ∉ wordTexts) : Denotes b s v ↔
    (∃ quote t, IsQuote quote ∧ quote ∉ t ∧ s = quote :: (t ++ [quote]) ∧ v = .text (String.ofList t)) ∨
    WritesNumber s v ∨ (IsPathText s ∧ v = (b.getPath (String.ofList s)).getD .null) := by
  constructor
  · intro h
    cases h with
    | null | true | false => exact absurd (by simp [wordTexts]) hword
    | quoted hquote hfree => exact Or.inl ⟨_, _, hquote, hfree, rfl, rfl⟩
    | number h => exact Or.inr (Or.inl h)
    | path h => exact Or.inr (Or.inr ⟨h, rfl⟩)
  · rintro (⟨quote, t, hquote, hfree, rfl, rfl⟩ | h | ⟨h, rfl⟩)
    · exact .quoted hquote hfree
    · exact .number h
    · exact .path h hword

theorem not_mem_wordTexts_of_isQuote {quote : Char} (hquote : IsQuote quote) :
    quote :: t ∉ wordTexts := by
  rcases hquote with rfl | rfl <;> simp [wordTexts]

theorem not_denotes_of_isMisquoted (h : IsMisquoted s t) : ¬ Denotes b s v := by
  obtain ⟨quote, hquote, hmem, rfl⟩ := h
  rw [denotes_iff (not_mem_wordTexts_of_isQuote hquote)]
  rintro (⟨quote', t', _, hfree, he, _⟩ | hnumber | ⟨hpath, _⟩)
  · simp only [List.cons.injEq] at he
    obtain ⟨rfl, he⟩ := he
    rw [List.append_cancel_right he] at hmem
    exact hfree hmem
  · have hbegins := hnumber.beginsNumeral
    rcases hquote with rfl | rfl
    · cases hbegins
    · cases hbegins
  · have hc := hpath.all quote List.mem_cons_self
    rcases hquote with rfl | rfl
    · exact absurd hc (by decide)
    · exact absurd hc (by decide)

theorem denotes_or_isMisquoted_iff :
    (Denotes b s v ∨ ∃ t, IsMisquoted s t ∧ v = .text (String.ofList t)) ↔
      literal? s = some v ∨
      (literal? s = none ∧ isPath s = true ∧ v = (b.getPath (String.ofList s)).getD .null) := by
  by_cases hword : s ∈ wordTexts
  · rw [denotes_word_iff hword]
    constructor
    · rintro (h | ⟨t, ⟨quote, hquote, _, rfl⟩, _⟩)
      · exact Or.inl h
      · exact absurd hword (not_mem_wordTexts_of_isQuote hquote)
    · rintro (h | ⟨hnone, _⟩)
      · exact Or.inl h
      · have hsome : (literal? s).isSome = true := by
          have hwords : s = "null".toList ∨ s = "true".toList ∨ s = "false".toList := by
            simpa [wordTexts] using hword
          rcases hwords with rfl | rfl | rfl <;> rfl
        rw [hnone] at hsome
        cases hsome
  · rw [denotes_iff hword, literal?_eq_some_iff hword, isPath_iff]
    constructor
    · rintro ((⟨quote, t, hquote, _, hs, hv⟩ | h | ⟨hpath, hv⟩) | ⟨t, ⟨quote, hquote, _, hs⟩, hv⟩)
      · exact Or.inl (Or.inl ⟨quote, t, hquote, hs, hv⟩)
      · exact Or.inl (Or.inr h)
      · exact Or.inr ⟨literal?_of_isPathText hpath hword, hpath, hv⟩
      · exact Or.inl (Or.inl ⟨quote, t, hquote, hs, hv⟩)
    · rintro ((⟨quote, t, hquote, hs, hv⟩ | h) | ⟨_, hpath, hv⟩)
      -- the evaluator does not look between the outer marks; the language does
      · by_cases hmem : quote ∈ t
        · exact Or.inr ⟨t, ⟨quote, hquote, hmem, hs⟩, hv⟩
        · exact Or.inl (Or.inl ⟨quote, t, hquote, hmem, hs, hv⟩)
      · exact Or.inl (Or.inr (Or.inl h))
      · exact Or.inl (Or.inr (Or.inr ⟨hpath, hv⟩))

end

theorem value_paths_eq (expression : String) (b : Bindings) :
    let s := Text.trimBoth Text.isBlank expression.toList
    paths.value expression b =
      (literal? s).elim
        (if isPath s = true then .ok ((b.getPath (String.ofList s)).getD .null)
          else .error (.evaluation expression .notAnExpression)) .ok := by
  intro s
  simp only [paths, pathValue]
  cases literal? s <;> rfl

/-- An expression is taken for what it denotes without the blanks around it. What denotes nothing is refused,
unless it begins and ends with a quotation mark and holds it in between: it is then the text between the
outer ones, whatever that is. -/
theorem value_paths_iff (expression : String) (b : Bindings) :
    let s := Text.trimBoth Text.isBlank expression.toList
    (∀ v, paths.value expression b = .ok v ↔
      Denotes b s v ∨ ∃ t, IsMisquoted s t ∧ v = .text (String.ofList t)) ∧
    (∀ fault, paths.value expression b = .error fault ↔
      fault = .evaluation expression .notAnExpression ∧ (∀ v, ¬ Denotes b s v) ∧
        ∀ t, ¬ IsMisquoted s t) ∧
    ∀ t, IsMisquoted s t → ∀ v, ¬ Denotes b s v := by
  intro s
  have hok : ∀ v, paths.value expression b = .ok v ↔
      Denotes b s v ∨ ∃ t, IsMisquoted s t ∧ v = .text (String.ofList t) := by
    intro v
    rw [denotes_or_isMisquoted_iff, value_paths_eq]
    change (literal? s).elim _ _ = _ ↔ _
    cases literal? s with
    | some w => simp
    | none =>
      cases isPath s with
      | true => simp [eq_comm, s]
      | false => simp
  refine ⟨hok, fun fault => ?_, fun t ht v => not_denotes_of_isMisquoted ht⟩
  -- a fault comes exactly where there is no value, so the first part decides the second
  have hrefused : ((∀ v, ¬ Denotes b s v) ∧ ∀ t, ¬ IsMisquoted s t) ↔
      ∀ v, paths.value expression b ≠ .ok v := by
    simp only [ne_eq, hok, not_or, not_exists, not_and]
    constructor
    · exact fun h v => ⟨h.1 v, fun t ht => absurd ht (h.2 t)⟩
    · exact fun h => ⟨fun v => (h v).1, fun t ht => (h _).2 t ht rfl⟩
  rw [hrefused, value_paths_eq]
  change (literal? s).elim _ _ = _ ↔ _ ∧ ∀ v, (literal? s).elim _ _ ≠ _
  cases literal? s with
  | some w => simp
  | none =>
    cases isPath s with
    | true => simp
    | false => simp [eq_comm]

/-- A comparison of two texts passes for a text, which is true. -/
theorem value_paths_comparison :
    let b := Bindings.start .null none false
    let expression := "'a' == 'b'"
    paths.value expression b = .ok (.text "a' == 'b") ∧ paths.test expression b = .ok true ∧
      ∀ v, ¬ Denotes b expression.toList v := by
  have hvalue : paths.value "'a' == 'b'" (Bindings.start .null none false) =
      .ok (.text "a' == 'b") := by
    rfl
  have hquoted : IsMisquoted "'a' == 'b'".toList "a' == 'b".toList :=
    ⟨'\'', Or.inl rfl, by decide, rfl⟩
  exact ⟨hvalue, by rw [test_paths, hvalue]; rfl, fun v => not_denotes_of_isMisquoted hquoted⟩

end Evaluator

end SqlTemplate
