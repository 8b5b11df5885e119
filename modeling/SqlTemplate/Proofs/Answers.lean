import SqlTemplate.Proofs.Outline

/-!
# Scans as questions to a handler

A scan asks its handler about the contents of the tokens, one after the other, and puts the answers
between the literals (`scan_eq`). It stops at the first failure: `run_scan_eq_ok` and
`run_scan_eq_error` say so for handlers that may fail and have a state, which shows each call.
-/

namespace EStateM

variable {ε σ α β : Type} {m : EStateM ε σ α} {f : α → EStateM ε σ β} {s s' : σ}

theorem run_bind_eq_ok {b : β} :
    (m >>= f).run s = .ok b s' ↔ ∃ a s₁, m.run s = .ok a s₁ ∧ (f a).run s₁ = .ok b s' := by
  rw [run_bind]
  cases m.run s with
  | ok a s₁ =>
    constructor
    · intro h; exact ⟨a, s₁, rfl, h⟩
    · rintro ⟨_, _, he, h⟩; cases he; exact h
  | error e s₁ => simp

theorem run_bind_eq_error {e : ε} :
    (m >>= f).run s = .error e s' ↔
      m.run s = .error e s' ∨ ∃ a s₁, m.run s = .ok a s₁ ∧ (f a).run s₁ = .error e s' := by
  rw [run_bind]
  cases m.run s with
  | ok a s₁ =>
    constructor
    · intro h; exact Or.inr ⟨a, s₁, rfl, h⟩
    · rintro (he | ⟨_, _, he, h⟩)
      · cases he
      · cases he; exact h
  | error e s₁ => simp

theorem run_pure_eq_ok {a b : α} : (pure a : EStateM ε σ α).run s = .ok b s' ↔ a = b ∧ s = s' := by
  rw [run_pure, Result.ok.injEq]

end EStateM

namespace SqlTemplate

namespace Outline

def fill : Outline → List String → String
  | text t, _ => String.ofList t
  | token before _ rest, answers =>
    String.ofList before ++ answers.headD "" ++ rest.fill answers.tail

theorem fill_prepend (t : List Char) (o : Outline) (answers : List String) :
    (o.prepend t).fill answers = String.ofList t ++ o.fill answers := by
  cases o with
  | text t' => simp [prepend, fill]
  | token before content rest => simp [prepend, fill, String.append_assoc]

end Outline

namespace Delimiters

theorem scan_eq {m : Type → Type} [Monad m] [LawfulMonad m] (d : Delimiters)
    (handle : String → m String) (text : String) :
    d.scan handle text = (d.tokens text).mapM handle >>= fun answers =>
      pure ((d.outline text.toList).fill answers) := by
  unfold scan tokens outline
  generalize d.segments text.toList = parts
  induction parts with
  | nil => simp [Outline.ofSegments, Outline.fill]
  | cons part parts ih =>
    cases part with
    | literal t =>
      have hliteral : (((Segment.literal t :: parts).filterMap Segment.content?).map String.ofList) =
          ((parts.filterMap Segment.content?).map String.ofList) := rfl
      simp only [List.mapM_cons, pure_bind, bind_assoc, String.join_cons, hliteral,
        Outline.ofSegments, Outline.fill_prepend]
      have hjoin := congrArg (fun x => x >>= fun s => pure (String.ofList t ++ s)) ih
      simpa only [bind_assoc, pure_bind] using hjoin
    | token content =>
      have htoken : (((Segment.token content :: parts).filterMap Segment.content?).map String.ofList) =
          String.ofList content :: ((parts.filterMap Segment.content?).map String.ofList) := rfl
      simp only [List.mapM_cons, pure_bind, bind_assoc, String.join_cons, htoken,
        Outline.ofSegments]
      congr 1
      funext answer
      have hjoin := congrArg (fun x => x >>= fun s => pure (answer ++ s)) ih
      simpa [Outline.fill] using hjoin

/-! ## Handlers with a state -/

section
variable {ε σ : Type} (handle : String → EStateM ε σ String)

inductive Answers : σ → List String → List String → σ → Prop
  | nil (s : σ) : Answers s [] [] s
  | cons {s s₁ s₂ : σ} {content answer : String} {contents answers : List String}
      (h : (handle content).run s = .ok answer s₁) (hrest : Answers s₁ contents answers s₂) :
      Answers s (content :: contents) (answer :: answers) s₂

variable {handle} {contents answers : List String} {s s' : σ}

theorem run_mapM_eq_ok :
    (contents.mapM handle).run s = .ok answers s' ↔ Answers handle s contents answers s' := by
  induction contents generalizing s answers with
  | nil =>
    rw [List.mapM_nil, EStateM.run_pure_eq_ok]
    constructor
    · rintro ⟨rfl, rfl⟩
      exact .nil s
    · intro h
      cases h
      exact ⟨rfl, rfl⟩
  | cons content contents ih =>
    rw [List.mapM_cons, EStateM.run_bind_eq_ok]
    constructor
    · rintro ⟨answer, s₁, h, hrest⟩
      obtain ⟨more, s₂, hmore, hpure⟩ := EStateM.run_bind_eq_ok.mp hrest
      obtain ⟨rfl, rfl⟩ := EStateM.run_pure_eq_ok.mp hpure
      exact .cons h (ih.mp hmore)
    · intro h
      cases h with
      | cons h hrest =>
        refine ⟨_, _, h, EStateM.run_bind_eq_ok.mpr ⟨_, _, ih.mpr hrest, ?_⟩⟩
        exact EStateM.run_pure_eq_ok.mpr ⟨rfl, rfl⟩

theorem run_mapM_eq_error {e : ε} :
    (contents.mapM handle).run s = .error e s' ↔
      ∃ before content after answers s₁, contents = before ++ content :: after ∧
        Answers handle s before answers s₁ ∧ (handle content).run s₁ = .error e s' := by
  induction contents generalizing s with
  | nil =>
    rw [List.mapM_nil]
    constructor
    · intro h
      cases h
    · rintro ⟨before, _, _, _, _, h, _⟩
      cases before <;> cases h
  | cons content contents ih =>
    rw [List.mapM_cons, EStateM.run_bind_eq_error]
    constructor
    · rintro (h | ⟨answer, s₁, h, hrest⟩)
      · exact ⟨[], content, contents, [], s, rfl, .nil s, h⟩
      · rcases EStateM.run_bind_eq_error.mp hrest with hrest | ⟨_, _, _, hpure⟩
        · obtain ⟨before, c, after, answers, s₂, rfl, hb, hc⟩ := ih.mp hrest
          exact ⟨content :: before, c, after, answer :: answers, s₂, rfl, .cons h hb, hc⟩
        · cases hpure
    · rintro ⟨before, c, after, answers, s₂, hs, hb, hc⟩
      cases hb with
      | nil =>
        cases hs
        exact Or.inl hc
      | cons h hb =>
        cases hs
        refine Or.inr ⟨_, _, h, EStateM.run_bind_eq_error.mpr (Or.inl ?_)⟩
        exact ih.mpr ⟨_, c, after, _, s₂, rfl, hb, hc⟩

theorem run_scan_eq_ok {d : Delimiters} {text out : String} :
    (d.scan handle text).run s = .ok out s' ↔
      ∃ answers, Answers handle s (d.tokens text) answers s' ∧
        out = (d.outline text.toList).fill answers := by
  rw [scan_eq, EStateM.run_bind_eq_ok]
  constructor
  · rintro ⟨answers, s₁, h, hpure⟩
    obtain ⟨rfl, rfl⟩ := EStateM.run_pure_eq_ok.mp hpure
    exact ⟨answers, run_mapM_eq_ok.mp h, rfl⟩
  · rintro ⟨answers, h, rfl⟩
    exact ⟨answers, s', run_mapM_eq_ok.mpr h, EStateM.run_pure_eq_ok.mpr ⟨rfl, rfl⟩⟩

theorem run_scan_eq_error {d : Delimiters} {text : String} {e : ε} :
    (d.scan handle text).run s = .error e s' ↔
      ∃ before content after answers s₁, d.tokens text = before ++ content :: after ∧
        Answers handle s before answers s₁ ∧ (handle content).run s₁ = .error e s' := by
  rw [scan_eq, EStateM.run_bind_eq_error, run_mapM_eq_error]
  constructor
  · rintro (h | ⟨_, _, _, hpure⟩)
    · exact h
    · cases hpure
  · exact Or.inl

end

end Delimiters

end SqlTemplate
