import Mathlib.Data.List.Forall2
import SqlTemplate.Proofs.Outline
import SqlTemplate.Statement

/-!
# The final pass

The pass that makes the final statement of evaluated SQL carries its parameters along. `ofSql_eq`
takes the two apart: the SQL depends on the tokens alone, and the parameters are those of the
contents of the tokens, one by one and in order. A text without parameters is its own final statement
exactly if it is inert (`ofSql_eq_text_iff`).
-/

theorem List.forall₂_of_common_left {α β γ : Type} {P : α → β → Prop} {Q : α → γ → Prop}
    {R : β → γ → Prop} (h : ∀ a b c, P a b → Q a c → R b c) {as : List α} {bs : List β}
    {cs : List γ} (hp : List.Forall₂ P as bs) (hq : List.Forall₂ Q as cs) :
    List.Forall₂ R bs cs := by
  induction hp generalizing cs with
  | nil =>
    cases hq
    exact .nil
  | cons hb _ ih =>
    cases hq with
    | cons hc hq => exact .cons (h _ _ _ hb hc) (ih hq)

theorem List.exists_of_forall₂_of_mem {α β : Type} {R : α → β → Prop} {as : List α} {bs : List β}
    (h : List.Forall₂ R as bs) {b : β} (hb : b ∈ bs) : ∃ a ∈ as, R a b := by
  induction h with
  | nil => cases hb
  | cons hr _ ih =>
    rcases List.mem_cons.mp hb with rfl | hb
    · exact ⟨_, List.mem_cons_self, hr⟩
    · obtain ⟨a, ha, hr⟩ := ih hb
      exact ⟨a, List.mem_cons_of_mem _ ha, hr⟩

theorem List.exists_forall₂ {α β : Type} {R : α → β → Prop} {as : List α}
    (h : ∀ a ∈ as, ∃ b, R a b) : ∃ bs, List.Forall₂ R as bs := by
  induction as with
  | nil => exact ⟨[], .nil⟩
  | cons a as ih =>
    obtain ⟨b, hb⟩ := h a List.mem_cons_self
    obtain ⟨bs, hbs⟩ := ih fun a ha => h a (List.mem_cons_of_mem _ ha)
    exact ⟨b :: bs, .cons hb hbs⟩

theorem List.forall₂_congr_of_mem {α β : Type} {R S : α → β → Prop} {as : List α} {bs : List β}
    (h : ∀ a ∈ as, ∀ b, R a b ↔ S a b) : List.Forall₂ R as bs ↔ List.Forall₂ S as bs := by
  constructor
  · intro hr
    exact ((List.forall₂_and_left _ _).mpr ⟨h, hr⟩).imp fun _ _ ⟨he, hr⟩ => (he _).mp hr
  · intro hs
    exact ((List.forall₂_and_left _ _).mpr ⟨h, hs⟩).imp fun _ _ ⟨he, hs⟩ => (he _).mpr hs

/-! ## Steps that may fail -/

namespace Except

variable {ε α β : Type}

theorem bind_eq_ok {x : Except ε α} {f : α → Except ε β} {b : β} :
    x >>= f = .ok b ↔ ∃ a, x = .ok a ∧ f a = .ok b := by
  cases x with
  | ok a =>
    constructor
    · intro h; exact ⟨a, rfl, h⟩
    · rintro ⟨_, he, h⟩; cases he; exact h
  | error e =>
    constructor
    · intro h; cases h
    · rintro ⟨_, he, _⟩; cases he

theorem bind_eq_error {x : Except ε α} {f : α → Except ε β} {e : ε} :
    x >>= f = .error e ↔ x = .error e ∨ ∃ a, x = .ok a ∧ f a = .error e := by
  cases x with
  | ok a =>
    constructor
    · intro h; exact Or.inr ⟨a, rfl, h⟩
    · rintro (he | ⟨_, he, h⟩)
      · cases he
      · cases he; exact h
  | error e' =>
    constructor
    · intro h; cases h; exact Or.inl rfl
    · rintro (he | ⟨_, he, _⟩)
      · cases he; rfl
      · cases he

theorem map_eq_ok {x : Except ε α} {f : α → β} {b : β} :
    x.map f = .ok b ↔ ∃ a, x = .ok a ∧ f a = b := by
  cases x with
  | ok a =>
    constructor
    · intro h; exact ⟨a, rfl, Except.ok.inj h⟩
    · rintro ⟨_, he, h⟩; cases he; exact congrArg _ h
  | error e =>
    constructor
    · intro h; cases h
    · rintro ⟨_, he, _⟩; cases he

theorem map_eq_error {x : Except ε α} {f : α → β} {e : ε} : x.map f = .error e ↔ x = .error e := by
  cases x with
  | ok a => simp [Except.map]
  | error e' => simp [Except.map]

theorem mapM_eq_ok {f : α → Except ε β} {as : List α} {bs : List β} :
    as.mapM f = .ok bs ↔ List.Forall₂ (fun a b => f a = .ok b) as bs := by
  induction as generalizing bs with
  | nil =>
    rw [List.mapM_nil, List.forall₂_nil_left_iff]
    constructor
    · intro h; cases h; rfl
    · rintro rfl; rfl
  | cons a as ih =>
    rw [List.mapM_cons, bind_eq_ok, List.forall₂_cons_left_iff]
    constructor
    · rintro ⟨b, hb, h⟩
      obtain ⟨bs', hbs, h⟩ := bind_eq_ok.mp h
      cases h
      exact ⟨b, bs', hb, ih.mp hbs, rfl⟩
    · rintro ⟨b, bs', hb, hbs, rfl⟩
      exact ⟨b, hb, bind_eq_ok.mpr ⟨bs', ih.mpr hbs, rfl⟩⟩

/-- The failure of several steps is that of the first step that fails. -/
theorem mapM_eq_error {f : α → Except ε β} {as : List α} {e : ε} :
    as.mapM f = .error e ↔ ∃ before a after, as = before ++ a :: after ∧
      (∀ x ∈ before, ∃ b, f x = .ok b) ∧ f a = .error e := by
  induction as with
  | nil => simp [pure, Except.pure]
  | cons a as ih =>
    rw [List.mapM_cons]
    -- the first step fails, or the failure is one of the others
    cases ha : f a with
    | error e' =>
      constructor
      · intro h
        cases h
        exact ⟨[], a, as, rfl, by simp, ha⟩
      · rintro ⟨before, x, after, hs, hb, hx⟩
        cases before with
        | nil =>
          cases hs
          rw [ha] at hx
          cases hx
          rfl
        | cons y before =>
          cases hs
          obtain ⟨b, hy⟩ := hb a List.mem_cons_self
          rw [ha] at hy
          cases hy
    | ok b =>
      have hrest : (Except.ok b >>= fun b => as.mapM f >>= fun bs => pure (b :: bs)) =
          Except.error e ↔ as.mapM f = .error e := by
        change (as.mapM f >>= fun bs => pure (b :: bs)) = _ ↔ _
        cases as.mapM f with
        | error e' => exact Iff.rfl
        | ok bs => simp [bind, Except.bind, pure, Except.pure]
      rw [hrest, ih]
      constructor
      · rintro ⟨before, x, after, rfl, hb, hx⟩
        refine ⟨a :: before, x, after, rfl, ?_, hx⟩
        intro y hy
        rcases List.mem_cons.mp hy with rfl | hy
        · exact ⟨b, ha⟩
        · exact hb y hy
      · rintro ⟨before, x, after, hs, hb, hx⟩
        cases before with
        | nil =>
          cases hs
          rw [ha] at hx
          cases hx
        | cons y before =>
          cases hs
          exact ⟨before, x, after, rfl, fun z hz => hb z (List.mem_cons_of_mem _ hz), hx⟩

theorem exists_mapM_eq_ok {f : α → Except ε β} {as : List α} (h : ∀ a ∈ as, ∃ b, f a = .ok b) :
    ∃ bs, as.mapM f = .ok bs := by
  cases he : as.mapM f with
  | ok bs => exact ⟨bs, rfl⟩
  | error e =>
    obtain ⟨before, a, after, rfl, _, ha⟩ := mapM_eq_error.mp he
    obtain ⟨b, hb⟩ := h a (List.mem_append_right before List.mem_cons_self)
    rw [ha] at hb
    cases hb

theorem mapM_congr {f g : α → Except ε β} {as : List α} (h : ∀ a ∈ as, f a = g a) :
    as.mapM f = as.mapM g := by
  induction as with
  | nil => rfl
  | cons a as ih =>
    rw [List.mapM_cons, List.mapM_cons, h a List.mem_cons_self,
      ih fun a ha => h a (List.mem_cons_of_mem _ ha)]

/-! ## Properties of failures -/

def Fails (P : ε → Prop) (x : Except ε α) : Prop :=
  ∀ e, x = .error e → P e

namespace Fails

variable {P : ε → Prop}

theorem ok (a : α) : Fails P (.ok a) := by
  intro e h
  cases h

theorem error {e : ε} (h : P e) : Fails P (.error e : Except ε α) := by
  intro e' he
  cases he
  exact h

theorem bind {x : Except ε α} {f : α → Except ε β} (hx : Fails P x) (hf : ∀ a, Fails P (f a)) :
    Fails P (x >>= f) := by
  intro e h
  cases x with
  | ok a => exact hf a e h
  | error e' =>
    cases h
    exact hx e rfl

theorem imp {Q : ε → Prop} {x : Except ε α} (hx : Fails P x) (h : ∀ e, P e → Q e) : Fails Q x :=
  fun e he => h e (hx e he)

theorem map {x : Except ε α} (hx : Fails P x) (f : α → β) : Fails P (f <$> x) := by
  cases x with
  | ok a => exact .ok (f a)
  | error e => exact .error (hx e rfl)

theorem mapError {ε' : Type} {Q : ε' → Prop} {x : Except ε' α} {f : ε' → ε} (hx : Fails Q x)
    (hf : ∀ e, Q e → P (f e)) : Fails P (x.mapError f) := by
  cases x with
  | ok a => exact .ok a
  | error e => exact .error (hf e (hx e rfl))

end Fails

end Except

namespace SqlTemplate.Statement

variable (config : Configuration) (kind : Kind) (bindings : Bindings)

def replaceSegment : Segment → Collect String
  | .literal t => pure (String.ofList t)
  | .token content => replaceToken config kind bindings (String.ofList content)

def blankOut : Segment → String
  | .literal t => String.ofList t
  | .token _ => placeholder

theorem run_replaceToken (content : String) (done : List Parameter) :
    (replaceToken config kind bindings content).run done =
      (Parameter.ofContent config kind bindings content).map fun p => (placeholder, done ++ [p]) := by
  unfold replaceToken
  cases h : Parameter.ofContent config kind bindings content with
  | error e => rfl
  | ok p => rfl

/-- The pass over several segments, after the parameters `done`. -/
theorem run_mapM_segments (parts : List Segment) (done : List Parameter) :
    (parts.mapM (replaceSegment config kind bindings)).run done =
      (((parts.filterMap Segment.content?).map String.ofList).mapM
          (Parameter.ofContent config kind bindings)).map fun parameters =>
        (parts.map blankOut, done ++ parameters) := by
  -- the parameters found so far stand in front of those to come
  induction parts generalizing done with
  | nil => exact congrArg (fun l => Except.ok ([], l)) (List.append_nil done).symm
  | cons part parts ih =>
    rw [List.mapM_cons, StateT.run_bind]
    cases part with
    | literal t =>
      have hone : (replaceSegment config kind bindings (.literal t)).run done =
          .ok (String.ofList t, done) := rfl
      rw [hone]
      change (parts.mapM (replaceSegment config kind bindings) >>= fun texts =>
        pure (String.ofList t :: texts)).run done = _
      rw [StateT.run_bind, ih]
      change _ = (((parts.filterMap Segment.content?).map String.ofList).mapM
        (Parameter.ofContent config kind bindings)).map _
      cases ((parts.filterMap Segment.content?).map String.ofList).mapM
        (Parameter.ofContent config kind bindings) <;> rfl
    | token content =>
      have hone : (replaceSegment config kind bindings (.token content)).run done = _ :=
        run_replaceToken config kind bindings (String.ofList content) done
      have hhead : ((Segment.token content :: parts).filterMap Segment.content?).map String.ofList =
          String.ofList content :: (parts.filterMap Segment.content?).map String.ofList := rfl
      rw [hone, hhead, List.mapM_cons]
      cases Parameter.ofContent config kind bindings (String.ofList content) with
      | error e => rfl
      | ok p =>
        change (parts.mapM (replaceSegment config kind bindings) >>= fun texts =>
          pure (placeholder :: texts)).run (done ++ [p]) = _
        rw [StateT.run_bind, ih]
        cases ((parts.filterMap Segment.content?).map String.ofList).mapM
          (Parameter.ofContent config kind bindings) with
        | error e => rfl
        | ok parameters =>
          change Except.ok _ = Except.ok _
          simp [blankOut]

theorem ofSql_eq (sql : String) :
    ofSql config sql kind bindings =
      ((Delimiters.hash.tokens (prepare config sql)).mapM
          (Parameter.ofContent config kind bindings)).map fun parameters =>
        ⟨Delimiters.hash.replace (fun _ => placeholder) (prepare config sql), parameters⟩ := by
  have hscan : Delimiters.hash.scan (replaceToken config kind bindings) (prepare config sql) =
      ((Delimiters.hash.segments (prepare config sql).toList).mapM
        (replaceSegment config kind bindings) >>= fun parts => pure (String.join parts)) := rfl
  unfold ofSql Delimiters.tokens
  rw [hscan, StateT.run_bind, run_mapM_segments]
  cases (((Delimiters.hash.segments (prepare config sql).toList).filterMap
      Segment.content?).map String.ofList).mapM (Parameter.ofContent config kind bindings) with
  | error e => rfl
  | ok parameters => rfl

theorem sql_of_ofSql {config : Configuration} {kind : Kind} {bindings : Bindings} {sql : String}
    {statement : Statement} (h : ofSql config sql kind bindings = .ok statement) :
    statement.sql = Delimiters.hash.replace (fun _ => placeholder) (prepare config sql) := by
  rw [ofSql_eq] at h
  obtain ⟨_, _, rfl⟩ := Except.map_eq_ok.mp h
  rfl

/-- The parameters of a final statement are those of the contents of its tokens, in order. -/
theorem forall₂_of_ofSql {config : Configuration} {kind : Kind} {bindings : Bindings} {sql : String}
    {statement : Statement} (h : ofSql config sql kind bindings = .ok statement) :
    List.Forall₂ (fun content p => Parameter.ofContent config kind bindings content = .ok p)
      (Delimiters.hash.tokens (prepare config sql)) statement.parameters := by
  rw [ofSql_eq] at h
  obtain ⟨parameters, hp, rfl⟩ := Except.map_eq_ok.mp h
  exact Except.mapM_eq_ok.mp hp

/-! ## Outlines -/

section
variable {config : Configuration} {kind : Kind} {bindings : Bindings} {sql : String}
  (hshrink : config.settings.shrinkBlanks = false)
include hshrink

theorem prepare_eq : prepare config sql = sql := by
  simp [prepare, hshrink]

theorem ofSql_of_outline {o : Outline} (ho : Delimiters.hash.outline sql.toList = o) :
    ofSql config sql kind bindings =
      ((o.contents.map String.ofList).mapM (Parameter.ofContent config kind bindings)).map
        fun parameters => ⟨String.ofList (o.render fun _ => placeholder.toList), parameters⟩ := by
  have hsql : Delimiters.hash.replace (fun _ => placeholder) sql =
      String.ofList (o.render fun _ => placeholder.toList) := by
    rw [← ho, ← Delimiters.toList_replace Delimiters.hash (fun _ => placeholder),
      String.ofList_toList]
  rw [ofSql_eq, prepare_eq hshrink, Delimiters.tokens_eq, ho, hsql]

theorem ofSql_eq_text_iff :
    ofSql config sql kind bindings = .ok ⟨sql, []⟩ ↔ Delimiters.hash.Inert sql.toList := by
  rw [← Delimiters.outline_eq_text_iff Delimiters.braced_hash]
  constructor
  · intro h
    rw [ofSql_of_outline hshrink rfl] at h
    obtain ⟨parameters, hp, hs⟩ := Except.map_eq_ok.mp h
    simp only [Statement.mk.injEq] at hs
    obtain ⟨hsql, rfl⟩ := hs
    have hcontents := List.forall₂_nil_right_iff.mp (Except.mapM_eq_ok.mp hp)
    cases ho : Delimiters.hash.outline sql.toList with
    | token before content rest => rw [ho] at hcontents; cases hcontents
    | text t =>
      rw [ho] at hsql
      rw [← hsql]
      simp [Outline.render]
  · intro h
    rw [ofSql_of_outline hshrink h]
    simp [Outline.contents, Outline.render, Except.map, pure, Except.pure]

end

end SqlTemplate.Statement
