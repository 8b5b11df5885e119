import SqlTemplate.Context

/-!
# Sinks

Feeding a sink is a monoid action of fragment lists (`feed_append`). A round of a loop puts two
sinks in front of the one behind it; `feed_rounds` says what passes through the rounds of nested
loops: of each fragment its text with the variables of all rounds renamed, and besides only texts
that stand between the rounds.
-/

namespace SqlTemplate

namespace Sink

/-! ## Fragments one after the other -/

theorem leadIn_append (lead : String) (emitted : Bool) (a b : List String) :
    leadIn lead emitted (a ++ b) =
      ((leadIn lead (leadIn lead emitted a).1 b).1,
        (leadIn lead emitted a).2 ++ (leadIn lead (leadIn lead emitted a).1 b).2) := by
  induction a generalizing emitted with
  | nil => rfl
  | cons fragment a ih =>
    simp only [List.cons_append, leadIn]
    split
    · simp only [ih, List.cons_append]
    · simp only [ih, List.cons_append]

@[simp] theorem feed_nil (s : Sink) : s.feed [] = s := by
  induction s with
  | statement sql started => rfl
  | buffer sql outer ih => simp [feed]
  | prefixed lead emitted outer ih => simp [feed, leadIn, ih]
  | numbering scope outer ih => simp [feed, ih]

theorem feed_append (s : Sink) (a b : List String) : s.feed (a ++ b) = (s.feed a).feed b := by
  induction s generalizing a b with
  | statement sql started => simp [feed, List.foldl_append]
  | buffer sql outer ih => simp [feed, String.join_append, String.append_assoc]
  | prefixed lead emitted outer ih => simp [feed, leadIn_append, ih]
  | numbering scope outer ih => simp [feed, ih]

theorem sql_feed_empty (fragments : List String) :
    (empty.feed fragments).sql = Text.trim (" ".intercalate fragments) := by
  have hfold : ∀ (fragments : List String) (sql : String),
      fragments.foldl joinFragment (sql, true) = (" ".intercalate (sql :: fragments), true) := by
    intro fragments
    induction fragments with
    | nil => intro sql; rw [String.intercalate_singleton]; rfl
    | cons fragment rest ih =>
      intro sql
      change rest.foldl joinFragment (sql ++ " " ++ fragment, true) = _
      rw [ih, String.intercalate_cons_append, String.intercalate_cons_cons]
  cases fragments with
  | nil => rfl
  | cons fragment rest =>
    change Text.trim (rest.foldl joinFragment ("" ++ fragment, true)).1 = _
    rw [hfold, String.empty_append]

/-! ## Rounds of nested loops -/

end Sink

/-- A round of a loop as fragments meet it: the variables of the loop, the text that stands before
the first fragment of the round that is not blank, and whether it was emitted already. -/
structure LoopRound where
  scope : LoopScope
  lead : String
  emitted : Bool

namespace Sink

def insideRounds : List LoopRound → Sink → Sink
  | [], s => s
  | r :: rounds, s => .numbering r.scope (.prefixed r.lead r.emitted (insideRounds rounds s))

def renamedBy (scopes : List LoopScope) (sql : String) : String :=
  scopes.foldl (fun sql scope => scope.renameTokens sql) sql

theorem leadIn_concat (lead : String) (emitted : Bool) (a : List String) (t : String) :
    ∃ a', (leadIn lead emitted (a ++ [t])).2 = a' ++ [t] ∧ ∀ u ∈ a', u ∈ a ∨ u = lead := by
  induction a generalizing emitted with
  | nil =>
    simp only [List.nil_append, leadIn]
    split
    · exact ⟨[lead], rfl, by simp⟩
    · exact ⟨[], rfl, by simp⟩
  | cons fragment a ih =>
    simp only [List.cons_append, leadIn]
    split
    · obtain ⟨a', he, hm⟩ := ih true
      refine ⟨lead :: fragment :: a', by simp [he], ?_⟩
      intro u hu
      simp only [List.mem_cons] at hu ⊢
      rcases hu with rfl | rfl | hu
      · exact Or.inr rfl
      · exact Or.inl (Or.inl rfl)
      · exact (hm u hu).imp Or.inr id
    · obtain ⟨a', he, hm⟩ := ih emitted
      refine ⟨fragment :: a', by simp [he], ?_⟩
      intro u hu
      simp only [List.mem_cons] at hu ⊢
      rcases hu with rfl | hu
      · exact Or.inl (Or.inl rfl)
      · exact (hm u hu).imp Or.inr id

/-- What reaches the sink behind nested rounds when `a` and then `t` are fed inside them: `t`
renamed comes last, and before it only renamed fragments of `a` and leads of rounds, renamed by the
rounds around them. -/
theorem feed_rounds (rounds : List LoopRound) (s : Sink) (a : List String) (t : String) :
    ∃ rounds' leads,
      (insideRounds rounds s).feed (a ++ [t]) =
        insideRounds rounds' (s.feed (leads ++ [renamedBy (rounds.map (·.scope)) t])) ∧
      rounds'.map (·.scope) = rounds.map (·.scope) ∧
      ∀ u ∈ leads, (∃ v ∈ a, u = renamedBy (rounds.map (·.scope)) v) ∨
        ∃ inner r outer, rounds = inner ++ r :: outer ∧
          u = renamedBy (outer.map (·.scope)) r.lead := by
  induction rounds generalizing a t with
  | nil => exact ⟨[], a, rfl, rfl, fun u hu => Or.inl ⟨u, hu, rfl⟩⟩
  | cons r rounds ih =>
    -- a round passes on the renamed fragments with its lead among them, and `t` last
    obtain ⟨b, hb, hbm⟩ :=
      leadIn_concat r.lead r.emitted (a.map r.scope.renameTokens) (r.scope.renameTokens t)
    obtain ⟨rounds', leads, hf, hs, hl⟩ := ih b (r.scope.renameTokens t)
    refine ⟨⟨r.scope, r.lead, (leadIn r.lead r.emitted
      (a.map r.scope.renameTokens ++ [r.scope.renameTokens t])).1⟩ :: rounds', leads, ?_, ?_, ?_⟩
    · simp only [insideRounds, feed, List.map_append, List.map_cons, List.map_nil, hb, hf,
        renamedBy, List.foldl_cons]
    · simp [hs]
    · intro u hu
      rcases hl u hu with ⟨v, hv, rfl⟩ | ⟨inner, r', outer, rfl, rfl⟩
      · rcases hbm v hv with hv | rfl
        · obtain ⟨w, hw, rfl⟩ := List.mem_map.mp hv
          exact Or.inl ⟨w, hw, rfl⟩
        · exact Or.inr ⟨[], r, rounds, rfl, rfl⟩
      · exact Or.inr ⟨r :: inner, r', outer, rfl, rfl⟩

end Sink

end SqlTemplate
