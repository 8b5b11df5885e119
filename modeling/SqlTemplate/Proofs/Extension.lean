import SqlTemplate.Pattern.Reader
import SqlTemplate.Proofs.Reading

/-!
# Reading a pattern in front of what closes a group

A filter closes a group behind the text of its pattern. What a reader finds in a text it finds as well
when that follows (`Keeps`), since a closing parenthesis goes on with nothing that is read. One thing may
happen to it: a comment at the end of the text goes on to the end of the line and takes it in.
-/

namespace SqlTemplate.Pattern

def closing : List Char := [')', '$']

/-- What is left of a text alone and in front of `closing`. Either `closing` is left behind it, or a
comment took that in, and then nothing is left of both. -/
inductive Extends : List Char → List Char → Prop
  | append (s : List Char) : Extends s (s ++ closing)
  | swallowed : Extends [] []

/-- What the first reader reads from a text, the second one reads from it in front of `closing`. -/
def Keeps {α : Type} (f f' : List Char → Option (α × List Char)) : Prop :=
  ∀ ⦃s s' : List Char⦄, Extends s s' → ∀ ⦃x : α⦄ ⦃rest : List Char⦄, f s = some (x, rest) →
    ∃ rest', f' s' = some (x, rest') ∧ Extends rest rest'

namespace Extends

variable {s s' : List Char} {c : Char}

theorem eq_cons (h : Extends (c :: s) s') : s' = c :: (s ++ closing) := by
  cases h
  rfl

theorem ne_nil (h : Extends s s') (hs : s ≠ []) : s' ≠ [] := by
  obtain ⟨c, t, rfl⟩ := List.exists_cons_of_ne_nil hs
  rw [h.eq_cons]
  exact List.cons_ne_nil _ _

/-- Only a parenthesis can stand in front of the longer text and not of the other. -/
theorem not_cons (h : Extends s s') (hc : c ≠ ')') (hs : ∀ t, s ≠ c :: t) (t : List Char) :
    s' ≠ c :: t := by
  rintro rfl
  cases s with
  | nil =>
    cases h
    exact hc rfl
  | cons d s => exact hs s (congrArg (· :: s) (List.cons.inj h.eq_cons).1.symm)

theorem length_le (h : Extends s s') : s.length ≤ s'.length := by
  cases h with
  | append => simp
  | swallowed => exact Nat.le_refl _

theorem head_any (h : Extends s s') (f : Char → Bool) (hf : f ')' = false) :
    (s'.head?.map f).getD false = (s.head?.map f).getD false := by
  cases h with
  | append s =>
    cases s with
    | nil => exact hf
    | cons c s => rfl
  | swallowed => rfl

theorem head?_beq (h : Extends s s') (hc : c ≠ ')') : (s'.head? == some c) = (s.head? == some c) := by
  cases h with
  | append s =>
    cases s with
    | nil => exact beq_eq_false_iff_ne.mpr fun he => hc (Option.some.inj he).symm
    | cons d s => rfl
  | swallowed => rfl

/-! ## Blanks and comments -/

variable (flags : Flags) {p : Char → Bool}

theorem spanFrom (hp : p ')' = false) (inComment : Bool) (s : List Char) :
    (flags.spanFrom p inComment (s ++ closing)).1 = (flags.spanFrom p inComment s).1 ∧
      Extends (flags.spanFrom p inComment s).2 (flags.spanFrom p inComment (s ++ closing)).2 := by
  induction s generalizing inComment with
  | nil =>
    cases inComment with
    | true => exact ⟨rfl, .swallowed⟩
    | false =>
      have hblank : Text.isBlank ')' = false := by decide
      have hcomment : (')' == '#') = false := by decide
      simp only [List.nil_append, closing, Flags.spanFrom, hblank, hcomment, hp, Bool.and_false,
        Bool.false_eq_true, if_false]
      exact ⟨trivial, .append []⟩
  | cons c s ih =>
    cases inComment with
    | true => exact ih (c != '\n')
    | false =>
      simp only [List.cons_append, Flags.spanFrom]
      split
      · exact ih false
      · split
        · exact ih true
        · split
          · exact ⟨congrArg (c :: ·) (ih false).1, (ih false).2⟩
          · exact ⟨rfl, .append (c :: s)⟩

theorem span (h : Extends s s') (hp : p ')' = false) :
    (flags.span p s').1 = (flags.span p s).1 ∧ Extends (flags.span p s).2 (flags.span p s').2 := by
  cases h with
  | append s => exact spanFrom flags hp false s
  | swallowed => exact ⟨rfl, .swallowed⟩

theorem skip (h : Extends s s') : Extends (flags.skip s) (flags.skip s') :=
  (h.span flags rfl).2

theorem dropWhile (h : Extends s s') (hp : p ')' = false) :
    Extends (s.dropWhile p) (s'.dropWhile p) := by
  cases h with
  | append s =>
    have hhead : ∀ c ∈ closing.head?, p c = false := by
      rintro c ⟨⟩
      exact hp
    rw [List.dropWhile_append_of_head? hhead]
    exact .append _
  | swallowed => exact .swallowed

end Extends

theorem Flags.spanFrom_append (flags : Flags) {p : Char → Bool} {inComment : Bool}
    {s taken rest : List Char} {c : Char}
    (h : flags.spanFrom p inComment s = (taken, c :: rest)) (t : List Char) :
    flags.spanFrom p inComment (s ++ t) = (taken, c :: (rest ++ t)) := by
  -- the run stops inside the text: what follows is never looked at
  induction s generalizing inComment taken with
  | nil => cases inComment <;> cases h
  | cons d s ih =>
    cases inComment with
    | true => exact ih h
    | false =>
      simp only [List.cons_append, Flags.spanFrom] at h ⊢
      split at h
      · rename_i hblank
        rw [if_pos hblank]
        exact ih h
      · rename_i hblank
        rw [if_neg hblank]
        split at h
        · rename_i hcomment
          rw [if_pos hcomment]
          exact ih h
        · rename_i hcomment
          rw [if_neg hcomment]
          split at h
          · rename_i hd
            rw [if_pos hd]
            obtain ⟨htaken, hrest⟩ := Prod.mk.inj h
            have hs : flags.spanFrom p false s = ((flags.spanFrom p false s).1, c :: rest) := by
              rw [← hrest]
            rw [ih hs, ← htaken]
          · rename_i hd
            rw [if_neg hd]
            cases h
            rfl

/-! ## Readers put together -/

namespace Keeps

variable {α β : Type} {f f' : List Char → Option (α × List Char)}
  {g g' : α → List Char → Option (β × List Char)}

theorem fails : Keeps (fun _ => none : List Char → Option (α × List Char)) fun _ => none := by
  intro s s' _ x rest h
  cases h

theorem done (a : α) : Keeps (fun s => some (a, s)) (fun s => some (a, s)) := by
  intro s s' hs x rest h
  cases h
  exact ⟨s', rfl, hs⟩

theorem bind (hf : Keeps f f') (hg : ∀ a, Keeps (g a) (g' a)) :
    Keeps (fun s => f s >>= fun r => g r.1 r.2) (fun s => f' s >>= fun r => g' r.1 r.2) := by
  intro s s' hs x rest h
  obtain ⟨⟨a, s₁⟩, ha, h⟩ := Option.bind_eq_some_iff.mp h
  obtain ⟨s₁', ha', hs₁⟩ := hf hs ha
  obtain ⟨rest', h', hrest⟩ := hg a hs₁ h
  exact ⟨rest', Option.bind_eq_some_iff.mpr ⟨_, ha', h'⟩, hrest⟩

theorem given (o : Option α) (hg : ∀ a, Keeps (g a) (g' a)) :
    Keeps (fun s => o >>= fun a => g a s) (fun s => o >>= fun a => g' a s) := by
  cases o with
  | none => exact fails
  | some a => exact hg a

theorem ite {c : Prop} [Decidable c] {k k' : List Char → Option (α × List Char)} (hf : c → Keeps f f')
    (hk : ¬ c → Keeps k k') :
    Keeps (fun s => if c then f s else k s) (fun s => if c then f' s else k' s) := by
  by_cases hc : c
  · simpa only [if_pos hc] using hf hc
  · simpa only [if_neg hc] using hk hc

end Keeps

/-! ## Escapes -/

theorem keeps_readBraced? (flags : Flags) : Keeps (readBraced? flags) (readBraced? flags) := by
  intro s s' hs x rest h
  unfold readBraced? at h
  split at h
  · rename_i contents c rest' hspan
    cases h
    cases hs with
    | append s =>
      have hspan' := flags.spanFrom_append hspan closing
      refine ⟨rest ++ closing, ?_, .append rest⟩
      unfold readBraced? Flags.span
      rw [hspan']
    | swallowed => cases hspan
  · cases h

theorem keeps_readCharacters? (flags : Flags) (n : Nat) :
    Keeps (readCharacters? flags n) (readCharacters? flags n) := by
  induction n with
  | zero => exact .done []
  | succ n ih =>
    intro s s' hs x rest h
    have hskip := hs.skip flags
    rw [readCharacters?] at h ⊢
    split at h
    · cases h
    · rename_i c s₁ heq
      rw [heq] at hskip
      rw [hskip.eq_cons]
      exact ih.bind (fun cs => .done (c :: cs)) (.append s₁) h

theorem keeps_readCodePoint? (flags : Flags) (width : Nat) :
    Keeps (readCodePoint? flags width) (readCodePoint? flags width) := by
  intro s s' hs x rest h
  have hskip := hs.skip flags
  have hcode (digits : List Char) : Keeps (fun s => readHex? digits >>= fun c => some (c, s))
      (fun s => readHex? digits >>= fun c => some (c, s)) := .given _ fun c => .done c
  unfold readCodePoint? at h ⊢
  dsimp only at h ⊢
  split at h
  · rename_i t heq
    rw [heq] at hskip
    rw [hskip.eq_cons]
    exact (keeps_readBraced? flags).bind hcode (.append t) h
  · rename_i hne
    split
    · rename_i t heq
      exact absurd heq (hskip.not_cons (by decide) hne t)
    · exact (keeps_readCharacters? flags width).bind hcode hskip h

theorem keeps_readProperty? (flags : Flags) : Keeps (readProperty? flags) (readProperty? flags) := by
  intro s s' hs x rest h
  have hskip := hs.skip flags
  have hquery (query : List Char) : Keeps (fun s => CharSet.query? query >>= fun set => some (set, s))
      (fun s => CharSet.query? query >>= fun set => some (set, s)) := .given _ fun set => .done set
  unfold readProperty? at h ⊢
  split at h
  · cases h
  · rename_i t heq
    rw [heq] at hskip
    rw [hskip.eq_cons]
    exact (keeps_readBraced? flags).bind hquery (.append t) h
  · rename_i c t hne heq
    rw [heq] at hskip
    rw [hskip.eq_cons]
    split
    · rename_i heq'
      cases heq'
    · rename_i heq'
      exact absurd (List.cons.inj heq').1 hne
    · rename_i heq'
      obtain ⟨rfl, rfl⟩ := List.cons.inj heq'
      exact Keeps.ite (fun _ => .fails) (fun _ => hquery [c]) (.append t) h

theorem keeps_readEdge? (flags : Flags) : Keeps (readEdge? flags) (readEdge? flags) := by
  intro s s' hs x rest h
  unfold readEdge? at h
  split at h
  · rename_i t
    have hname := ((Extends.append t).skip flags).head_any (fun c => c.isAlpha || c == '-') (by decide)
    rw [hs.eq_cons, readEdge?, hname]
    split at h
    · rename_i hc
      rw [if_pos hc]
      exact (keeps_readBraced? flags).bind (fun name => .given (namedEdge? name) .done) (.append t) h
    · rename_i hc
      rw [if_neg hc]
      exact Keeps.done _ (.append ('{' :: t)) h
  · rename_i hne
    rw [readEdge?]
    · exact Keeps.done _ hs h
    · exact hs.not_cons (by decide) hne

theorem keeps_readEscape? (flags : Flags) : Keeps (readEscape? flags) (readEscape? flags) := by
  intro s s' hs x rest h
  cases s with
  | nil => cases h
  | cons c s =>
    rw [hs.eq_cons]
    have happend := Extends.append s
    have hcode (width : Nat) := (keeps_readCodePoint? flags width).bind fun c => .done (Primitive.literal c)
    have hbounded (isByte : Bool) := (keeps_readCodePoint? flags 2).bind fun c =>
      Keeps.ite (c := (isByte && !flags.unicode && decide (0x80 ≤ c.toNat)) = true) (fun _ => .fails)
        fun _ => .done (Primitive.literal c)
    have hset (set : Option CharSet) := Keeps.given set fun set => .done (Primitive.set set)
    have hcomplement (c : Char) := Keeps.given (flags.classSet? c) fun set =>
      hset (flags.negate? true set)
    have hproperty (negated : Bool) := (keeps_readProperty? flags).bind fun query =>
      Keeps.ite (c := flags.unicode = true)
        (fun _ => hset (flags.negate? (negated != query.1) (flags.foldCase query.2))) fun _ => .fails
    unfold readEscape? at h
    dsimp only at h
    split at h
    · have hbrace := (happend.skip flags).head?_beq (c := '{') (by decide)
      rw [readEscape?, bne, hbrace]
      exact hbounded _ happend h
    · exact hcode 4 happend h
    · exact hcode 8 happend h
    · exact hproperty false happend h
    · exact hproperty true happend h
    iterate 3 exact hset _ happend h
    iterate 3 exact hcomplement _ happend h
    iterate 2 exact Keeps.done _ happend h
    · exact (keeps_readEdge? flags).bind
        (fun edge => .done (Primitive.assertion (.wordEdge edge flags.word))) happend h
    iterate 3 exact Keeps.done _ happend h
    · rw [readEscape?]
      · split at h
        · rename_i hescapable
          rw [if_pos hescapable]
          exact Keeps.done _ happend h
        · rename_i hescapable
          rw [if_neg hescapable]
          obtain ⟨control, hcontrol, h⟩ := Option.map_eq_some_iff.mp h
          cases h
          exact ⟨_, Option.map_eq_some_iff.mpr ⟨control, hcontrol, rfl⟩, happend⟩
      all_goals assumption

/-! ## Classes -/

theorem keeps_readMember? (flags : Flags) : Keeps (readMember? flags) (readMember? flags) := by
  intro s s' hs x rest h
  unfold readMember? at h
  split at h
  · cases h
  · rename_i t
    rw [hs.eq_cons]
    exact keeps_readEscape? flags (.append t) h
  · rename_i c t hne
    rw [hs.eq_cons, readMember?]
    · exact Keeps.done _ (.append t) h
    · exact hne

theorem Extends.peek?_beq {s s' : List Char} {c : Char} (h : Extends s s') (flags : Flags)
    (hc : c ≠ ')') : (flags.peek? s' == some c) = (flags.peek? s == some c) := by
  have hdrop := h.dropWhile (p := Text.isBlank) (by decide)
  unfold Flags.peek?
  by_cases hverbose : flags.verbose = true
  · simp only [hverbose, Bool.not_true, Bool.false_eq_true, if_false]
    split
    · rename_i t heq
      cases hu : s.dropWhile Text.isBlank with
      | nil =>
        rw [hu, heq] at hdrop
        cases hdrop
      | cons d u =>
        rw [hu, heq] at hdrop
        obtain ⟨rfl, rfl⟩ := List.cons.inj hdrop.eq_cons
        exact ((Extends.append u).dropWhile (by decide)).head?_beq hc
    · rename_i hne
      split
      · rename_i t heq
        rw [heq] at hdrop
        exact absurd hdrop.eq_cons (hne _)
      · exact hdrop.head?_beq hc
  · simp only [hverbose, Bool.not_false, if_true]
    exact h.head?_beq hc

theorem startsRange_append (flags : Flags) (c : Char) (s : List Char) :
    startsRange flags (c :: (s ++ closing)) = startsRange flags (c :: s) := by
  by_cases hc : c = '-'
  · subst hc
    have hpeek {d : Char} (hd : d ≠ ')') := (Extends.append s).peek?_beq flags hd
    simp only [startsRange, hpeek (d := ']') (by decide), hpeek (d := '-') (by decide)]
  · simp [startsRange, hc]

theorem keeps_readRange? (flags : Flags) : Keeps (readRange? flags) (readRange? flags) := by
  intro s s' hs x rest h
  obtain ⟨⟨first, s₁⟩, hfirst, h⟩ := Option.bind_eq_some_iff.mp h
  obtain ⟨s₁', hfirst', hs₁⟩ := keeps_readMember? flags hs hfirst
  have hskip := hs₁.skip flags
  unfold readRange?
  rw [hfirst']
  simp only [Option.bind_eq_bind, Option.bind_some] at h ⊢
  -- something must follow a member, so `closing` decides nothing
  cases hu : flags.skip s₁ with
  | nil =>
    rw [hu] at h
    cases h
  | cons c t =>
    rw [hu] at hskip h
    rw [hskip.eq_cons]
    simp only [List.isEmpty_cons, Bool.false_eq_true, if_false, startsRange_append] at h ⊢
    split at h
    · rename_i hrange
      rw [if_pos hrange]
      obtain ⟨⟨last, s₂⟩, hlast, h⟩ := Option.bind_eq_some_iff.mp h
      obtain ⟨s₂', hlast', hs₂⟩ := keeps_readMember? flags ((Extends.append t).skip flags) hlast
      have hset (a b : Char) := Keeps.ite (c := (decide (a ≤ b) &&
        (flags.unicode || decide (b.toNat < 0x80))) = true)
        (fun _ => .done (CharSet.range a.toNat b.toNat)) fun _ => .fails
      simp only [List.drop_succ_cons, List.drop_zero, hlast', Option.bind_some]
      cases first with
      | literal a =>
        cases last with
        | literal b => exact hset a b hs₂ h
        | _ => cases h
      | _ => cases h
    · rename_i hrange
      rw [if_neg hrange]
      exact Keeps.given _ (fun set => .done set) (.append (c :: t)) h

theorem cut_append {p : Char → Bool} {s rest : List Char} {c : Char}
    (h : s.dropWhile p = c :: rest) (t : List Char) :
    (s ++ t).takeWhile p = s.takeWhile p ∧ (s ++ t).dropWhile p = c :: (rest ++ t) := by
  induction s with
  | nil => cases h
  | cons d s ih =>
    by_cases hd : p d = true
    · simp only [List.cons_append, List.takeWhile_cons_of_pos hd, List.dropWhile_cons_of_pos hd] at h ⊢
      exact ⟨congrArg (d :: ·) (ih h).1, (ih h).2⟩
    · simp only [List.cons_append, List.takeWhile_cons_of_neg hd, List.dropWhile_cons_of_neg hd] at h ⊢
      cases h
      exact ⟨trivial, rfl⟩

def readSetName? (negated : Bool) (s : List Char) : Option ((Bool × CharSet) × List Char) :=
  match s.dropWhile (· ≠ ':') with
  | ':' :: ']' :: rest =>
    (CharSet.asciiClass? (String.ofList (s.takeWhile (· ≠ ':')))).map fun set => ((negated, set), rest)
  | _ => none

theorem readNamed?_cons (c : Char) (s : List Char) :
    readNamed? (':' :: c :: s) = if c = '^' then readSetName? true s else readSetName? false (c :: s) := by
  by_cases hc : c = '^'
  · subst hc
    simp only [readNamed?, readSetName?, if_true, Option.map_eq_bind]
    rfl
  · simp only [readNamed?, readSetName?, hc, List.cons.injEq, false_and, imp_self, implies_true,
      if_false, Option.map_eq_bind]
    rfl

theorem readSetName?_append (negated : Bool) (s : List Char) :
    readSetName? negated (s ++ closing) =
      (readSetName? negated s).map fun r => (r.1, r.2 ++ closing) := by
  unfold readSetName?
  cases hcut : s.dropWhile (fun x => decide (x ≠ ':')) with
  | nil =>
    rw [List.dropWhile_append, hcut]
    rfl
  | cons c rest =>
    obtain ⟨htake, hdrop⟩ := cut_append hcut closing
    rw [htake, hdrop]
    cases rest with
    | nil => simp [closing]
    | cons d rest =>
      by_cases hend : c = ':' ∧ d = ']'
      · obtain ⟨rfl, rfl⟩ := hend
        cases CharSet.asciiClass? (String.ofList (s.takeWhile fun x => decide (x ≠ ':'))) <;> rfl
      · rw [List.cons_append]
        split
        · rename_i heq
          cases heq
          exact absurd ⟨rfl, rfl⟩ hend
        · split
          · rename_i heq
            cases heq
            exact absurd ⟨rfl, rfl⟩ hend
          · rfl

theorem readNamed?_append (s : List Char) :
    readNamed? (s ++ closing) = (readNamed? s).map fun r => (r.1, r.2 ++ closing) := by
  cases s with
  | nil => rfl
  | cons c s =>
    by_cases hc : c = ':'
    · subst hc
      cases s with
      | nil => rfl
      | cons d s =>
        rw [List.cons_append, List.cons_append, readNamed?_cons, readNamed?_cons]
        split
        · exact readSetName?_append true s
        · exact readSetName?_append false (d :: s)
    · simp [readNamed?, hc]

theorem readOperator?_append (c : Char) (s : List Char) :
    readOperator? (c :: (s ++ closing)) =
      (readOperator? (c :: s)).map fun r => (r.1, r.2 ++ closing) := by
  cases s with
  | nil => simp [readOperator?, closing]
  | cons d s =>
    unfold readOperator?
    split
    iterate 3
      rename_i heq
      cases heq
      rfl
    · rename_i h₁ h₂ h₃
      split
      · rename_i heq
        cases heq
        exact absurd rfl (h₁ _)
      · rename_i heq
        cases heq
        exact absurd rfl (h₂ _)
      · rename_i heq
        cases heq
        exact absurd rfl (h₃ _)
      · rfl

def readOpened (flags : Flags) (negated : Bool) (s : List Char) : Bool × List Members × List Char :=
  match flags.span (· == '-') s with
  | ([], ']' :: s) => (negated, [⟨.single ']', 0⟩], s)
  | (hyphens, s) => (negated, hyphens.map fun c => ⟨.single c, 0⟩, s)

theorem readOpening_eq (flags : Flags) (s : List Char) :
    readOpening flags s =
      if (flags.skip s).head? == some '^' then readOpened flags true (flags.skip s).tail
      else readOpened flags false (flags.skip s) := by
  unfold readOpening
  cases flags.skip s with
  | nil => rfl
  | cons c t =>
    by_cases hc : c = '^'
    · subst hc
      rfl
    · have hmark : ((c :: t).head? == some '^') = false := by simpa using hc
      simp only [hmark, hc, List.cons.injEq, false_and, imp_self, implies_true]
      rfl

namespace Extends

theorem tail {s s' : List Char} (h : Extends s s') (hs : s ≠ []) : Extends s.tail s'.tail := by
  cases h with
  | append s =>
    rw [List.tail_append_of_ne_nil hs]
    exact .append s.tail
  | swallowed => exact absurd rfl hs

theorem readOpened {s s' : List Char} (h : Extends s s') (flags : Flags) (negated : Bool) :
    ∃ mark items rest rest', readOpened flags negated s = (mark, items, rest) ∧
      Pattern.readOpened flags negated s' = (mark, items, rest') ∧ Extends rest rest' := by
  obtain ⟨hhyphens, hspan⟩ := h.span flags (p := (· == '-')) rfl
  unfold Pattern.readOpened
  generalize flags.span (· == '-') s = r at hhyphens hspan ⊢
  generalize flags.span (· == '-') s' = r' at hhyphens hspan ⊢
  obtain ⟨hyphens, u⟩ := r
  obtain ⟨hyphens', u'⟩ := r'
  cases hhyphens
  replace hspan : Extends u u' := hspan
  split
  · rename_i t heq
    cases heq
    rw [hspan.eq_cons]
    exact ⟨_, _, _, _, rfl, rfl, .append t⟩
  · rename_i hne heq
    cases heq
    split
    · rename_i t heq
      cases heq
      exact absurd rfl (hspan.not_cons (by decide) (fun t ht => hne t rfl ht) t)
    · rename_i heq
      cases heq
      exact ⟨_, _, _, _, rfl, rfl, hspan⟩

theorem readOpening {s s' : List Char} (h : Extends s s') (flags : Flags) :
    ∃ negated items rest rest', readOpening flags s = (negated, items, rest) ∧
      Pattern.readOpening flags s' = (negated, items, rest') ∧ Extends rest rest' := by
  have hskip := h.skip flags
  rw [readOpening_eq, readOpening_eq, hskip.head?_beq (by decide)]
  split
  · rename_i hmark
    have hne : flags.skip s ≠ [] := by
      intro hnil
      simp [hnil] at hmark
    exact (hskip.tail hne).readOpened flags true
  · exact hskip.readOpened flags false

end Extends

section Parts

variable {fuel fuel' : Nat} {flags : Flags} {pending : Pending} {items : List Members} {c : Char}
  {s t : List Char}

theorem readParts?_nil (hs : flags.skip s = []) :
    readParts? (fuel + 1) flags pending items s = none := by
  rw [readParts?, hs]

theorem readParts?_close (hs : flags.skip s = ']' :: t) :
    readParts? (fuel + 1) flags pending items s = some (pending (flags.operand items), t) := by
  rw [readParts?, hs]
  rfl

theorem readParts?_open (hs : flags.skip s = '[' :: t) :
    readParts? (fuel + 1) flags pending items s =
      (readNamed? t).elim
        ((readClass? fuel flags t).bind fun r => readParts? fuel flags pending (r.1 :: items) r.2)
        fun r => (flags.negate? r.1.1 (flags.foldCase r.1.2)).bind fun set =>
          readParts? fuel flags pending (⟨set, 0⟩ :: items) r.2 := by
  rw [readParts?]
  split
  · rename_i heq
    cases hs.symm.trans heq
  · rename_i heq
    cases hs.symm.trans heq
  · rename_i heq
    cases hs.symm.trans heq
    cases readNamed? t <;> rfl
  · rename_i hne
    exact absurd hs (hne t)

theorem readParts?_cons (hs : flags.skip s = c :: t) (hclose : c ≠ ']') (hopen : c ≠ '[') :
    readParts? (fuel + 1) flags pending items s =
      (readOperator? (c :: t)).elim
        ((readRange? flags (c :: t)).bind fun r =>
          readParts? fuel flags pending (⟨r.1, 0⟩ :: items) r.2)
        fun r => readParts? fuel flags (Members.operate r.1 (pending (flags.operand items))) [] r.2 := by
  rw [readParts?]
  split
  · rename_i heq
    cases hs.symm.trans heq
  · rename_i heq
    cases hs.symm.trans heq
    exact absurd rfl hclose
  · rename_i heq
    cases hs.symm.trans heq
    exact absurd rfl hopen
  · rw [hs]
    cases readOperator? (c :: t) <;> rfl

theorem keeps_readParts? (hclass : Keeps (readClass? fuel flags) (readClass? fuel' flags))
    (hparts : ∀ pending items,
      Keeps (readParts? fuel flags pending items) (readParts? fuel' flags pending items)) :
    Keeps (readParts? (fuel + 1) flags pending items) (readParts? (fuel' + 1) flags pending items) := by
  intro s s' hs x rest h
  have hskip := hs.skip flags
  cases hu : flags.skip s with
  | nil =>
    rw [readParts?_nil hu] at h
    cases h
  | cons c t =>
    rw [hu] at hskip
    have hu' := hskip.eq_cons
    have happend := Extends.append t
    -- the character that decides how the class goes on is in the text itself
    by_cases hclose : c = ']'
    · subst hclose
      rw [readParts?_close hu] at h
      rw [readParts?_close hu']
      exact Keeps.done _ happend h
    · by_cases hopen : c = '['
      · subst hopen
        rw [readParts?_open hu] at h
        rw [readParts?_open hu', readNamed?_append]
        cases hnamed : readNamed? t with
        | none =>
          rw [hnamed] at h
          exact hclass.bind (fun members => hparts pending (members :: items)) happend h
        | some r =>
          rw [hnamed] at h
          exact Keeps.given (flags.negate? r.1.1 (flags.foldCase r.1.2))
            (fun set => hparts pending (⟨set, 0⟩ :: items)) (.append r.2) h
      · rw [readParts?_cons hu hclose hopen] at h
        rw [readParts?_cons hu' hclose hopen, readOperator?_append]
        cases hoperator : readOperator? (c :: t) with
        | none =>
          rw [hoperator] at h
          exact (keeps_readRange? flags).bind (fun set => hparts pending (⟨set, 0⟩ :: items))
            (.append (c :: t)) h
        | some r =>
          rw [hoperator] at h
          exact hparts _ [] (.append r.2) h

end Parts

theorem keeps_readClass? {fuel fuel' : Nat} (hfuel : fuel ≤ fuel') (flags : Flags) :
    Keeps (readClass? fuel flags) (readClass? fuel' flags) ∧
      ∀ pending items,
        Keeps (readParts? fuel flags pending items) (readParts? fuel' flags pending items) := by
  -- both readers at once, with more fuel in front of `closing`
  induction fuel generalizing fuel' with
  | zero =>
    have hclass : Keeps (readClass? 0 flags) (readClass? fuel' flags) := by
      intro s s' _ x rest h
      cases h
    have hparts (pending : Pending) (items : List Members) :
        Keeps (readParts? 0 flags pending items) (readParts? fuel' flags pending items) := by
      intro s s' _ x rest h
      cases h
    exact ⟨hclass, hparts⟩
  | succ fuel ih =>
    obtain ⟨fuel', rfl⟩ := Nat.exists_eq_add_one_of_ne_zero (Nat.ne_zero_of_lt hfuel)
    obtain ⟨hclass, hparts⟩ := ih (Nat.le_of_succ_le_succ hfuel)
    refine ⟨?_, fun _ _ => keeps_readParts? hclass hparts⟩
    intro s s' hs x rest h
    obtain ⟨negated, items, t, t', hopen, hopen', ht⟩ := hs.readOpening flags
    unfold readClass? at h ⊢
    rw [hopen] at h
    rw [hopen']
    exact (hparts id items).bind
      (fun members => .given (flags.bracket? negated members) .done) ht h

end SqlTemplate.Pattern
