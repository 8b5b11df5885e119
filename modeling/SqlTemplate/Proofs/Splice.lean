import SqlTemplate.Filter
import SqlTemplate.Proofs.Extension

/-!
# The pattern between the anchors

A pattern that can be read by itself is read as well where a filter puts it, with the assertions of the
start and of the end of the text around it (`read?_splice`).
-/

namespace SqlTemplate.Pattern

/-! ## Openings of groups -/

theorem keeps_readName? (scope : Scope) : Keeps (readName? scope) (readName? scope) := by
  intro s s' hs x rest h
  unfold readName? at h ⊢
  split at h
  · rename_i c name d u htake hdrop
    cases hs with
    | append s =>
      obtain ⟨htake', hdrop'⟩ := cut_append hdrop closing
      rw [htake', hdrop', htake]
      exact Keeps.ite (fun _ => .done { scope with names := String.ofList (c :: name) :: scope.names })
        (fun _ => .fails) (.append u) h
    | swallowed => cases htake
  · cases h

theorem keeps_readOpeningParenthesis? (scope : Scope) :
    Keeps (readOpeningParenthesis? scope) (readOpeningParenthesis? scope) := by
  intro s s' hs x rest h
  have hskip := hs.skip scope.flags
  have hname := (keeps_readName? scope).bind fun scope => .done (Opening.numbered scope)
  unfold readOpeningParenthesis? at h ⊢
  split at h
  iterate 4 cases h
  · rename_i t heq
    rw [heq] at hskip
    rw [hskip.eq_cons]
    exact hname (.append t) h
  · rename_i t hequal hbang heq
    have happend := Extends.append t
    have hequal' := happend.not_cons (c := '=') (by decide) hequal
    have hbang' := happend.not_cons (c := '!') (by decide) hbang
    rw [heq] at hskip
    rw [hskip.eq_cons]
    simp only [List.cons_append]
    exact hname happend h
  · rename_i t hequal hbang _ _ hnamed hangle heq
    have happend := Extends.append t
    have hequal' := happend.not_cons (c := '=') (by decide) hequal
    have hbang' := happend.not_cons (c := '!') (by decide) hbang
    have hangle' := happend.not_cons (c := '<') (by decide) hangle
    -- what is added begins with a parenthesis and completes no opening
    have hnamed' : ∀ u, t ++ closing ≠ 'P' :: '<' :: u := by
      cases t with
      | nil => exact fun u hu => absurd (List.cons.inj hu).1 (by decide)
      | cons c t =>
        intro u hu
        obtain rfl := (List.cons.inj hu).1
        have hangle : ∀ v, t = '<' :: v → False := fun v hv => hnamed v (congrArg ('P' :: ·) hv)
        exact (Extends.append t).not_cons (by decide) hangle u (List.cons.inj hu).2
    rw [heq] at hskip
    rw [hskip.eq_cons]
    simp only [hangle', imp_self, implies_true]
    cases hcut : t.dropWhile fun c => !(c == ':' || c == ')') with
    | nil =>
      rw [hcut] at h
      cases h
    | cons c u =>
      obtain ⟨htake, hdrop⟩ := cut_append hcut closing
      have hflags (f : Flags → Opening) := Keeps.given
        (scope.flags.setAll? (t.takeWhile fun c => !(c == ':' || c == ')'))) fun flags => .done (f flags)
      rw [hcut] at h
      rw [htake, hdrop]
      by_cases hc : c = ':'
      · subst hc
        exact hflags (fun flags => .group { scope with flags } none) (.append u) h
      · simp only at h ⊢
        exact Keeps.ite (fun _ => .fails) (fun _ => hflags .setFlags) (.append u) h
  · rename_i hne
    have hne' := hskip.not_cons (by decide) hne
    simp only [hne', imp_self, implies_true]
    exact Keeps.done _ hskip h

/-! ## Repetitions -/

theorem keeps_readCount? (flags : Flags) : Keeps (readCount? flags) (readCount? flags) := by
  intro s s' hs x rest h
  obtain ⟨hdigits, hspan⟩ := (hs.dropWhile (p := Text.isBlank) (by decide)).span flags
    (p := Char.isDigit) (by decide)
  unfold readCount? at h ⊢
  dsimp only at h ⊢
  rw [hdigits]
  have hcount (n : Nat) : Keeps
      (fun s => if n ≤ maxCount then some (n, s.dropWhile Text.isBlank) else none)
      (fun s => if n ≤ maxCount then some (n, s.dropWhile Text.isBlank) else none) := by
    apply Keeps.ite
    · intro _ s s' hs
      exact Keeps.done n (hs.dropWhile (by decide))
    · intro _
      exact .fails
  exact Keeps.given (Number.readDigits? _) hcount hspan h

theorem keeps_readBounds? (flags : Flags) : Keeps (readBounds? flags) (readBounds? flags) := by
  intro s s' hs x rest h
  obtain ⟨⟨least, t⟩, hleast, h⟩ := Option.bind_eq_some_iff.mp h
  obtain ⟨t', hleast', ht⟩ := keeps_readCount? flags (hs.skip flags) hleast
  unfold readBounds?
  rw [hleast']
  simp only [Option.bind_eq_bind, Option.bind_some] at h ⊢
  split at h
  · rename_i u
    rw [ht.eq_cons]
    exact Keeps.done _ (.append u) h
  · rename_i u
    rw [ht.eq_cons]
    have hskip := (Extends.append u).skip flags
    split at h
    · rename_i v heq
      rw [heq] at hskip
      simp only [hskip.eq_cons]
      exact Keeps.done _ (.append v) h
    · rename_i hne
      -- The longer text does not go on with a brace either, so the same case applies to it.
      have hne' := hskip.not_cons (by decide) hne
      simp only
      obtain ⟨⟨most, v⟩, hmost, h⟩ := Option.bind_eq_some_iff.mp h
      obtain ⟨v', hmost', hv⟩ := keeps_readCount? flags hskip hmost
      rw [hmost']
      dsimp only [Option.bind_some] at h ⊢
      split at h
      · rename_i w
        rw [hv.eq_cons]
        exact Keeps.ite (fun _ => .done (least, some most)) (fun _ => .fails) (.append w) h
      · cases h
  · cases h

theorem Extends.skipLazy {s s' : List Char} (h : Extends s s') : Extends (skipLazy s) (skipLazy s') := by
  cases s with
  | nil =>
    cases h with
    | append => exact .append []
    | swallowed => exact .swallowed
  | cons c s =>
    rw [h.eq_cons]
    by_cases hc : c = '?'
    · subst hc
      exact .append s
    · have hlazy (t : List Char) : Pattern.skipLazy (c :: t) = c :: t := by
        unfold Pattern.skipLazy
        split
        · rename_i heq
          exact absurd (List.cons.inj heq).1 hc
        · rfl
      rw [hlazy, hlazy]
      exact .append (c :: s)

theorem keeps_readRepetitions? {fuel fuel' : Nat} (hfuel : fuel ≤ fuel') (flags : Flags) (p : Piece) :
    Keeps (readRepetitions? fuel flags p) (readRepetitions? fuel' flags p) := by
  induction fuel generalizing fuel' p with
  | zero =>
    intro s s' _ x rest h
    cases h
  | succ fuel ih =>
    obtain ⟨fuel', rfl⟩ := Nat.exists_eq_add_one_of_ne_zero (Nat.ne_zero_of_lt hfuel)
    intro s s' hs x rest h
    have hskip := hs.skip flags
    have hle := Nat.le_of_succ_le_succ hfuel
    rw [readRepetitions?] at h ⊢
    split at h
    iterate 3
      rename_i t heq
      rw [heq] at hskip
      rw [hskip.eq_cons]
      exact ih hle _ (Extends.append t).skipLazy h
    · rename_i t heq
      rw [heq] at hskip
      rw [hskip.eq_cons]
      have htimes (bounds : Nat × Option Nat) : Keeps
          (fun s => readRepetitions? fuel flags (p.times bounds.1 bounds.2) (skipLazy (flags.skip s)))
          (fun s => readRepetitions? fuel' flags (p.times bounds.1 bounds.2) (skipLazy (flags.skip s))) :=
        fun s s' hs => ih hle _ (hs.skip flags).skipLazy
      exact (keeps_readBounds? flags).bind htimes (.append t) h
    · rename_i hstar hplus hopt hbrace
      have hstar' := hskip.not_cons (by decide) hstar
      have hplus' := hskip.not_cons (by decide) hplus
      have hopt' := hskip.not_cons (by decide) hopt
      have hbrace' := hskip.not_cons (by decide) hbrace
      simp only
      exact Keeps.done _ hskip h

theorem keeps_repetitions? (flags : Flags) (p : Piece) :
    Keeps (fun s => readRepetitions? (s.length + 1) flags p s)
      (fun s => readRepetitions? (s.length + 1) flags p s) :=
  fun _ _ hs => keeps_readRepetitions? (Nat.succ_le_succ hs.length_le) flags p hs

/-! ## Primitives -/

theorem keeps_readPrimitive? (flags : Flags) : Keeps (readPrimitive? flags) (readPrimitive? flags) := by
  intro s s' hs x rest h
  cases s with
  | nil => cases h
  | cons c s =>
    rw [hs.eq_cons]
    have happend := Extends.append s
    unfold readPrimitive? at h
    dsimp only at h
    split at h
    iterate 4 cases h
    · exact Keeps.given flags.dot? (fun set => .done (Piece.mk (.char set) 0)) happend h
    iterate 2 exact Keeps.done _ happend h
    · exact (keeps_readEscape? flags).bind
        (fun primitive => .done (Piece.mk (flags.primitive primitive) 0)) happend h
    · have hfuel : 2 * s.length + 2 ≤ 2 * (s ++ closing).length + 2 := by
        rw [List.length_append]
        omega
      exact (keeps_readClass? hfuel flags).1.bind
        (fun members => .done (Piece.mk (.char members.set) members.depth)) happend h
    · rw [readPrimitive?]
      · exact Keeps.done _ happend h
      all_goals assumption

/-! ## Branches -/

def KeepsScope {α : Type} (f f' : List Char → Option (α × Scope × List Char)) : Prop :=
  ∀ ⦃s s' : List Char⦄, Extends s s' → ∀ ⦃x : α⦄ ⦃scope : Scope⦄ ⦃rest : List Char⦄,
    f s = some (x, scope, rest) → ∃ rest', f' s' = some (x, scope, rest') ∧ Extends rest rest'

namespace KeepsScope

variable {α β : Type} {f f' : List Char → Option (α × List Char)}
  {g g' : α → List Char → Option (β × Scope × List Char)}
  {k k' : List Char → Option (β × Scope × List Char)}

theorem done (x : α) (scope : Scope) :
    KeepsScope (fun s => some (x, scope, s)) (fun s => some (x, scope, s)) := by
  intro s s' hs x scope rest h
  cases h
  exact ⟨s', rfl, hs⟩

theorem bind (hf : Keeps f f') (hg : ∀ a, KeepsScope (g a) (g' a)) :
    KeepsScope (fun s => f s >>= fun r => g r.1 r.2) (fun s => f' s >>= fun r => g' r.1 r.2) := by
  intro s s' hs x scope rest h
  obtain ⟨⟨a, t⟩, ha, h⟩ := Option.bind_eq_some_iff.mp h
  obtain ⟨t', ha', ht⟩ := hf hs ha
  obtain ⟨rest', h', hrest⟩ := hg a ht h
  exact ⟨rest', Option.bind_eq_some_iff.mpr ⟨_, ha', h'⟩, hrest⟩

theorem map (hk : KeepsScope k k') (f : β → α) :
    KeepsScope (fun s => k s >>= fun r => some (f r.1, r.2.1, r.2.2))
      (fun s => k' s >>= fun r => some (f r.1, r.2.1, r.2.2)) := by
  intro s s' hs x scope rest h
  obtain ⟨⟨y, scope', t⟩, hy, h⟩ := Option.bind_eq_some_iff.mp h
  cases h
  obtain ⟨t', hy', ht⟩ := hk hs hy
  exact ⟨t', Option.bind_eq_some_iff.mpr ⟨_, hy', rfl⟩, ht⟩

end KeepsScope

theorem keeps_readBranches? {fuel fuel' : Nat} {scope : Scope}
    (hsequence : KeepsScope (readSequence? fuel scope) (readSequence? fuel' scope))
    (hbranches : ∀ scope, KeepsScope (readBranches? fuel scope) (readBranches? fuel' scope)) :
    KeepsScope (readBranches? (fuel + 1) scope) (readBranches? (fuel' + 1) scope) := by
  intro s s' hs x scope' rest h
  obtain ⟨⟨ps, inner, t⟩, hps, h⟩ := Option.bind_eq_some_iff.mp (by rwa [readBranches?] at h)
  obtain ⟨t', hps', ht⟩ := hsequence hs hps
  rw [readBranches?, hps']
  simp only [Option.bind_eq_bind, Option.bind_some] at h ⊢
  split at h
  · rename_i u
    rw [ht.eq_cons]
    exact (hbranches inner).map (fun branches => .sequence ps :: branches) (.append u) h
  · rename_i hne
    have hne' := ht.not_cons (by decide) hne
    simp only
    exact KeepsScope.done _ inner ht h

theorem keeps_readSequence? {fuel fuel' : Nat}
    (hsequence : ∀ scope, KeepsScope (readSequence? fuel scope) (readSequence? fuel' scope))
    (hbranches : ∀ scope, KeepsScope (readBranches? fuel scope) (readBranches? fuel' scope))
    (scope : Scope) :
    KeepsScope (readSequence? (fuel + 1) scope) (readSequence? (fuel' + 1) scope) := by
  have hpieces (flags : Flags) (p : Piece) (scope : Scope) :=
    KeepsScope.bind (keeps_repetitions? flags p) fun p => (hsequence scope).map fun ps => p :: ps
  intro s s' hs x scope' rest h
  have hskip := hs.skip scope.flags
  rw [readSequence?] at h ⊢
  split at h
  · rename_i heq
    rw [heq] at hskip
    cases h
    -- the text ends here: what is added begins, or a comment has taken it in
    generalize scope.flags.skip s' = u' at hskip ⊢
    cases hskip with
    | append => exact ⟨closing, rfl, .append []⟩
    | swallowed => exact ⟨[], rfl, .swallowed⟩
  iterate 2
    rename_i t heq
    rw [heq] at hskip
    rw [hskip.eq_cons]
    exact KeepsScope.done _ scope (.append (_ :: t)) h
  · rename_i t heq
    rw [heq] at hskip
    rw [hskip.eq_cons]
    obtain ⟨⟨opening, u⟩, hopening, h⟩ := Option.bind_eq_some_iff.mp h
    obtain ⟨u', hopening', hu⟩ := keeps_readOpeningParenthesis? scope (.append t) hopening
    simp only [hopening', Option.bind_eq_bind, Option.bind_some] at h ⊢
    cases opening with
    | setFlags flags => exact (hsequence _).map (fun ps => .empty :: ps) hu h
    | group inner number =>
      obtain ⟨⟨branches, inner', v⟩, hinner, h⟩ := Option.bind_eq_some_iff.mp h
      obtain ⟨v', hinner', hv⟩ := hbranches inner hu hinner
      simp only [hinner', Option.bind_some] at h ⊢
      split at h
      · rename_i w
        rw [hv.eq_cons]
        exact hpieces _ _ _ (.append w) h
      · cases h
  · rename_i hnil hclose hbranch hopen
    have hbranch' := hskip.not_cons (by decide) hbranch
    have hopen' := hskip.not_cons (by decide) hopen
    have hnil' : scope.flags.skip s' = [] → False := hskip.ne_nil hnil
    -- what comes first is in the text itself, so it is not the parenthesis that is added
    have hclose' : ∀ u, scope.flags.skip s' = ')' :: u → False := by
      obtain ⟨c, t, heq⟩ := List.exists_cons_of_ne_nil hnil
      intro u hu
      rw [heq] at hskip
      cases hskip.eq_cons.symm.trans hu
      exact hclose _ heq
    simp only
    exact KeepsScope.bind (keeps_readPrimitive? scope.flags)
      (fun p => hpieces scope.flags p scope) hskip h

theorem keepsScope_of_le {fuel fuel' : Nat} (hfuel : fuel ≤ fuel') (scope : Scope) :
    KeepsScope (readSequence? fuel scope) (readSequence? fuel' scope) ∧
      KeepsScope (readBranches? fuel scope) (readBranches? fuel' scope) := by
  -- the longer text has more fuel, so both amounts vary
  induction fuel generalizing fuel' scope with
  | zero =>
    constructor
    all_goals
      intro s s' _ x scope rest h
      cases h
  | succ fuel ih =>
    obtain ⟨fuel', rfl⟩ := Nat.exists_eq_add_one_of_ne_zero (Nat.ne_zero_of_lt hfuel)
    have ih := ih (Nat.le_of_succ_le_succ hfuel)
    have hsequence (scope : Scope) := (ih scope).1
    have hbranches (scope : Scope) := (ih scope).2
    exact ⟨keeps_readSequence? hsequence hbranches scope,
      keeps_readBranches? (hsequence scope) hbranches⟩

/-! ## The pattern of a filter -/

def anchor (p : Pattern) : Pattern := sequence [.assertion .textStart, p, .assertion .textEnd]

theorem eq_of_read? {text : List Char} {p : Pattern} (h : read? text = some p) :
    ∃ branches scope, readBranches? (2 * text.length + 2) {} text = some (branches, scope, []) ∧
      p = (Piece.choice branches).pattern := by
  obtain ⟨⟨branches, scope, rest⟩, hbranches, h⟩ := Option.bind_eq_some_iff.mp h
  dsimp only at h
  split at h
  · rename_i hrest
    cases h
    have hnil : rest = [] := by
      simp only [Bool.and_eq_true, List.isEmpty_iff] at hrest
      exact hrest.1.1
    exact ⟨branches, scope, hnil ▸ hbranches, rfl⟩
  · cases h

theorem readSequence?_start (fuel : Nat) (s : List Char) :
    readSequence? (fuel + 1) {} ('^' :: '(' :: s) =
      (readSequence? fuel {} ('(' :: s)).bind fun r =>
        some (⟨.assertion .textStart, 0⟩ :: r.1, r.2.1, r.2.2) :=
  rfl

theorem readSequence?_end (fuel : Nat) (scope : Scope) (hscope : scope.flags = {}) :
    readSequence? (fuel + 2) scope ['$'] = some ([⟨.assertion .textEnd, 0⟩], scope, []) := by
  obtain ⟨flags, groups, names⟩ := scope
  cases hscope
  rfl

theorem readSequence?_group (fuel : Nat) (s : List Char) :
    readSequence? (fuel + 1) {} ('(' :: '?' :: ':' :: s) =
      (readBranches? fuel {} s).bind fun r =>
        if r.2.2.head? = some ')' then
          (readRepetitions? (r.2.2.tail.length + 1) {} (Piece.group none (.choice r.1)) r.2.2.tail).bind
            fun q => (readSequence? fuel { r.2.1 with flags := {} } q.2).bind fun u =>
              some (q.1 :: u.1, u.2.1, u.2.2)
        else none := by
  have hopening : readOpeningParenthesis? {} ('?' :: ':' :: s) = some (.group {} none, s) := rfl
  have hskip : ({} : Scope).flags.skip ('(' :: '?' :: ':' :: s) = '(' :: '?' :: ':' :: s := rfl
  rw [readSequence?, hskip]
  simp only [hopening, Option.bind_eq_bind, Option.bind_some]
  congr 1
  funext ⟨branches, inner, rest⟩
  dsimp only
  split
  · rfl
  · rename_i hne
    have hhead : ¬ rest.head? = some ')' := by
      intro hhead
      obtain ⟨t, ht⟩ := List.head?_eq_some_iff.mp hhead
      exact hne t ht
    rw [if_neg hhead]

theorem readBranches?_splice {fuel fuel' : Nat} {s : List Char} {branches ps : List Piece}
    {scope scope' : Scope} {rest : List Char} (hfuel : fuel ≤ fuel')
    (h : readBranches? fuel {} s = some (branches, scope, []))
    (h' : readBranches? (fuel' + 5) {} ('^' :: '(' :: '?' :: ':' :: (s ++ closing)) =
      some (ps, scope', rest)) :
    ps = [.sequence [⟨.assertion .textStart, 0⟩, .group none (.choice branches),
      ⟨.assertion .textEnd, 0⟩]] := by
  obtain ⟨rest', hbranches, hrest⟩ := (keepsScope_of_le (Nat.le_add_right_of_le hfuel) {}).2 (.append s) h
  rw [readBranches?, readSequence?_start, readSequence?_group, hbranches] at h'
  -- if a comment took in what closes the group, nothing is left to close it
  cases hrest with
  | append =>
    have hlast (p : Piece) : readRepetitions? 2 {} p ['$'] = some (p, ['$']) := rfl
    have hend := readSequence?_end fuel' { scope with flags := {} } rfl
    simp only [List.nil_append, closing, Option.bind_some, List.head?_cons, if_true, List.tail_cons,
      List.length_cons, List.length_nil, hlast, hend] at h'
    cases h'
    rfl
  | swallowed => cases h'

/-- If a pattern can be read by itself, a filter stands for that pattern between its anchors. -/
theorem read?_splice {pattern : String} {p q : Pattern} (hp : read? pattern.toList = some p)
    (hq : read? (Filter.splice pattern) = some q) : q = anchor p := by
  obtain ⟨branches, scope, hbranches, hpattern⟩ := eq_of_read? hp
  obtain ⟨ps, scope', hps, hanchored⟩ := eq_of_read? hq
  have hlength : 2 * (Filter.splice pattern).length + 2 = 2 * pattern.toList.length + 9 + 5 := by
    simp [Filter.splice]
    omega
  rw [hlength] at hps
  have hps := readBranches?_splice (Nat.le_add_right _ 7) hbranches hps
  rw [hps] at hanchored
  rw [hanchored, hpattern]
  rfl

end SqlTemplate.Pattern
