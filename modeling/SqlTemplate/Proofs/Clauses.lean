import SqlTemplate.Proofs.Emission
import SqlTemplate.Proofs.Pieces

/-!
# Clauses over optional parts

A `where` clause over conditions with a connective before each, and a `set` clause over assignments with a
comma behind each. Some of the parts are left out in a call. `Node.emits_clauses` says that the clause of the
others has no connective before the first and no comma behind the last of them.
-/

namespace SqlTemplate

open Text

structure Condition where
  test : String
  connective : String
  text : String
  connective_upper : upper connective = "AND" ∨ upper connective = "OR"
  text_end : text.toList.getLast?.any (!isPadding ·) = true

structure Assignment where
  test : String
  text : String
  text_start : text.toList.head?.any (fun c => !isPadding c && c != ',') = true

def Node.optional (test sql : String) : Node :=
  .conditional test (.text sql)

namespace Condition

def sql (p : Condition) : String :=
  " " ++ p.connective ++ " " ++ p.text

def node (p : Condition) : Node :=
  .optional p.test p.sql

/-- The SQL of several conditions without the connective of the first and the space before it. -/
def kept (first : Condition) (rest : List Condition) : String :=
  " " ++ first.text ++ String.join (rest.map sql)

def clause : List Condition → List String
  | [] => []
  | first :: rest => ["WHERE " ++ first.kept rest]

end Condition

namespace Assignment

def sql (p : Assignment) : String :=
  " " ++ p.text ++ ","

def node (p : Assignment) : Node :=
  .optional p.test p.sql

def clause : List Assignment → List String
  | [] => []
  | first :: rest => ["SET " ++ ", ".intercalate ((first :: rest).map text)]

end Assignment

/-! ## What the parts emit -/

def Context.asked (c : Context) (tests : List String) : Context :=
  { c with trace := c.trace ++ tests.map .evaluated }

namespace Node

open Build

variable {ev : Evaluator} {c : Context} {holds : String → Bool}

theorem emits_optional {test : String} (h : ev.test test c.bindings = .ok (holds test)) (sql : String) :
    Emits ((optional test sql).apply ev) c (holds test) (if holds test then [sql] else [])
      (c.noted (.evaluated test)) := by
  refine (emits_evaluate test h).bind ?_
  cases holds test with
  | false => exact .pure false _
  | true => exact (emits_text ev sql _).bind (.pure true _)

theorem emits_optionals {α : Type} (test sql : α → String) (parts : List α)
    (h : ∀ p ∈ parts, ev.test (test p) c.bindings = .ok (holds (test p))) :
    Emits (applyAll ev (parts.map fun p => optional (test p) (sql p))) c ()
      ((parts.filter fun p => holds (test p)).map sql) (c.asked (parts.map test)) := by
  induction parts generalizing c with
  | nil =>
    have hasked : c.asked [] = c := by simp [Context.asked]
    rw [List.map_nil, List.map_nil, hasked]
    exact .pure () c
  | cons p parts ih =>
    -- a test leaves the bindings alone, so that the other parts are tested under those of `c` too
    have hfirst := emits_optional (h p List.mem_cons_self) (sql p)
    have hrest := ih (c := c.noted (.evaluated (test p))) fun q hq => h q (List.mem_cons_of_mem p hq)
    have hasked : (c.noted (.evaluated (test p))).asked (parts.map test) =
        c.asked ((p :: parts).map test) := by
      simp [Context.asked, Context.noted]
    rw [hasked] at hrest
    have hall := emits_applyAll_cons hfirst hrest
    rw [List.filter_cons]
    cases hp : holds (test p) with
    | false => simpa [hp] using hall
    | true => simpa [hp] using hall

theorem emits_trim_optionals {α : Type} (rule : TrimRule) (test sql : α → String) (parts : List α)
    (h : ∀ p ∈ parts, ev.test (test p) c.bindings = .ok (holds (test p))) :
    Emits ((Node.trim rule (.sequence (parts.map fun p => optional (test p) (sql p)))).apply ev) c true
      (rule.finish (String.join ((parts.filter fun p => holds (test p)).map sql))).toList
      (c.asked (parts.map test)) :=
  emits_trim (emits_sequence (emits_optionals test sql parts h)) rule

end Node

/-! ## The clauses as texts -/

theorem Text.not_isPadding_join {parts : List String}
    (h : ∀ s ∈ parts, ∀ c ∈ s.toList.getLast?, isPadding c = false) :
    ∀ c ∈ (String.join parts).toList.getLast?, isPadding c = false := by
  induction parts with
  | nil =>
    intro c hc
    cases hc
  | cons s parts ih =>
    intro c hc
    rw [String.join_cons, String.toList_append, List.getLast?_append] at hc
    cases hlast : (String.join parts).toList.getLast? with
    | none =>
      rw [hlast] at hc
      exact h s List.mem_cons_self c hc
    | some d =>
      rw [hlast] at hc
      cases hc
      exact ih (fun t ht => h t (List.mem_cons_of_mem s ht)) c hlast

namespace Condition

theorem upper_cases (p : Condition) :
    p.connective.toList.map Char.toUpper = ['A', 'N', 'D'] ∨
      p.connective.toList.map Char.toUpper = ['O', 'R'] := by
  rcases p.connective_upper with h | h
  · exact Or.inl (by simpa [upper] using congrArg String.toList h)
  · exact Or.inr (by simpa [upper] using congrArg String.toList h)

theorem exists_cons_connective (p : Condition) :
    ∃ k t, p.connective.toList = k :: t ∧ isPadding k = false := by
  have hupper := p.upper_cases
  cases hl : p.connective.toList with
  | nil =>
    rw [hl, List.map_nil] at hupper
    rcases hupper with h | h <;> cases h
  | cons k t =>
    refine ⟨k, t, rfl, ?_⟩
    rw [← isPadding_toUpper]
    rw [hl, List.map_cons] at hupper
    rcases hupper with h | h
    · rw [(List.cons.inj h).1]
      decide
    · rw [(List.cons.inj h).1]
      decide

theorem sql_end (p : Condition) : ∀ c ∈ p.sql.toList.getLast?, isPadding c = false := by
  intro c hc
  obtain ⟨d, hd, hend⟩ := (Option.any_eq_true _ _).mp p.text_end
  unfold sql at hc
  rw [String.toList_append, List.getLast?_append, hd] at hc
  cases hc
  rwa [Bool.not_eq_true'] at hend

/-- Every connective is found at the start of the clause, whatever stands behind the space after it. -/
theorem leadCut_connective (p : Condition) (rest : List Char) :
    TrimRule.whereClause.leadCut (p.connective.toList ++ ' ' :: rest) =
      byteSize p.connective.toList := by
  unfold TrimRule.leadCut
  rw [List.map_append, ← byteSize_map_toUpper p.connective.toList]
  rcases p.upper_cases with h | h
  · rw [h]
    rfl
  · rw [h]
    rfl

section
variable (first : Condition) (rest : List Condition)

theorem toList_join_sql :
    (String.join ((first :: rest).map sql)).toList =
      [' '] ++ (first.connective.toList ++ (first.kept rest).toList) ++ [] := by
  simp [sql, kept]

theorem trim_join_sql :
    trimBoth isPadding (String.join ((first :: rest).map sql)).toList =
      first.connective.toList ++ (first.kept rest).toList := by
  rw [toList_join_sql, trimBoth_append (by simp [isPadding]) (by simp)]
  refine trimBoth_eq_self ?_ ?_
  · intro c hc
    obtain ⟨k, t, hk, hpadding⟩ := first.exists_cons_connective
    rw [hk] at hc
    cases hc
    exact hpadding
  · intro c hc
    have hparts : ∀ s ∈ (first :: rest).map sql, ∀ c ∈ s.toList.getLast?, isPadding c = false := by
      intro s hs
      obtain ⟨p, _, rfl⟩ := List.mem_map.mp hs
      exact p.sql_end
    refine not_isPadding_join hparts c ?_
    rw [toList_join_sql, List.append_nil]
    exact List.mem_getLast?_of_suffix (List.suffix_append _ _) hc

theorem cuts_kept :
    TrimRule.whereClause.Cuts (first.connective.toList ++ (first.kept rest).toList)
      first.connective.toList (first.kept rest).toList [] where
  split := by rw [List.append_nil]
  front_size := by
    have hkept : (first.kept rest).toList =
        ' ' :: (first.text.toList ++ (String.join (rest.map sql)).toList) := by
      simp [kept]
    rw [hkept, leadCut_connective]
  back_size := (Nat.zero_min _).symm

theorem finish_sql :
    TrimRule.whereClause.finish (String.join ((first :: rest).map sql)) =
      some ("WHERE " ++ first.kept rest) := by
  have hkept : (first.kept rest).toList ≠ [] := by simp [kept]
  have hne : first.connective.toList ++ (first.kept rest).toList ≠ [] :=
    List.append_ne_nil_of_right_ne_nil _ hkept
  rw [TrimRule.finish_of_cuts (trim_join_sql first rest) hne (cuts_kept first rest)]
  simp [TrimRule.opening, TrimRule.closing, TrimRule.whereClause, hkept]

end

end Condition

namespace Assignment

section
variable (first : Assignment) (rest : List Assignment)

theorem join_sql :
    String.join ((first :: rest).map sql) =
      " " ++ ", ".intercalate ((first :: rest).map text) ++ "," := by
  induction rest generalizing first with
  | nil => simp [sql]
  | cons second rest ih =>
    have hcomma : ("," : String) ++ " " = ", " := by decide
    have hsplit : ", ".intercalate ((first :: second :: rest).map text) =
        first.text ++ ", " ++ ", ".intercalate ((second :: rest).map text) :=
      String.intercalate_cons_cons
    rw [List.map_cons, String.join_cons, ih, hsplit, ← hcomma]
    simp only [sql, String.append_assoc]

theorem exists_intercalate :
    ∃ more, (", ".intercalate ((first :: rest).map text)).toList = first.text.toList ++ more := by
  cases rest with
  | nil => exact ⟨[], by simp⟩
  | cons second rest => exact ⟨_, by
      rw [List.map_cons, List.map_cons, String.intercalate_cons_cons, String.append_assoc,
        String.toList_append]⟩

theorem exists_cons_intercalate :
    ∃ k t, (", ".intercalate ((first :: rest).map text)).toList = k :: t ∧
      isPadding k = false ∧ k ≠ ',' := by
  obtain ⟨more, hmore⟩ := exists_intercalate first rest
  obtain ⟨k, hk, hstart⟩ := (Option.any_eq_true _ _).mp first.text_start
  obtain ⟨t, ht⟩ := List.head?_eq_some_iff.mp hk
  refine ⟨k, t ++ more, by rw [hmore, ht, List.cons_append], ?_⟩
  simpa using hstart

theorem toList_join_sql :
    (String.join ((first :: rest).map sql)).toList =
      [' '] ++ ((", ".intercalate ((first :: rest).map text)).toList ++ [',']) ++ [] := by
  rw [join_sql]
  simp

theorem trim_join_sql :
    trimBoth isPadding (String.join ((first :: rest).map sql)).toList =
      (", ".intercalate ((first :: rest).map text)).toList ++ [','] := by
  rw [toList_join_sql, trimBoth_append (by simp [isPadding]) (by simp)]
  obtain ⟨k, t, hk, hpadding, _⟩ := exists_cons_intercalate first rest
  rw [hk]
  refine trimBoth_eq_self ?_ ?_
  · intro c hc
    cases hc
    exact hpadding
  · intro c hc
    rw [List.getLast?_concat] at hc
    cases hc
    decide

theorem leadCut_intercalate (after : List Char) :
    TrimRule.setClause.leadCut ((", ".intercalate ((first :: rest).map text)).toList ++ after) = 0 := by
  obtain ⟨k, t, hk, _, hne⟩ := exists_cons_intercalate first rest
  have hcomma : k.toUpper ≠ ',' := by
    rcases toUpper_cases k with h | ⟨hlower, hupper, h⟩
    · rwa [h]
    · intro he
      rw [he] at h
      change 44 = k.toNat - 32 at h
      omega
  have hhit : TrimRule.setClause.leadHit? ((k :: (t ++ after)).map Char.toUpper) = none := by
    simp [TrimRule.leadHit?, TrimRule.setClause, hcomma.symm]
  unfold TrimRule.leadCut
  rw [hk, List.cons_append, hhit]
  rfl

theorem tailCut_comma (before : List Char) : TrimRule.setClause.tailCut (before ++ [',']) = 1 := by
  have hhit : TrimRule.setClause.tailHit? ((before ++ [',']).map Char.toUpper) = some "," := by
    simp [TrimRule.tailHit?, TrimRule.setClause, List.isSuffixOf]
  unfold TrimRule.tailCut
  rw [hhit]
  rfl

theorem cuts_intercalate :
    TrimRule.setClause.Cuts ((", ".intercalate ((first :: rest).map text)).toList ++ [',']) []
      (", ".intercalate ((first :: rest).map text)).toList [','] where
  split := rfl
  front_size := (leadCut_intercalate first rest [',']).symm
  back_size := by
    rw [leadCut_intercalate, tailCut_comma, byteSize_append, Nat.sub_zero]
    exact (Nat.min_eq_left (Nat.le_add_left _ _)).symm

theorem finish_sql :
    TrimRule.setClause.finish (String.join ((first :: rest).map sql)) =
      some ("SET " ++ ", ".intercalate ((first :: rest).map text)) := by
  rw [TrimRule.finish_of_cuts (trim_join_sql first rest) (by simp) (cuts_intercalate first rest)]
  obtain ⟨k, t, hk, _⟩ := exists_cons_intercalate first rest
  have hne : (", ".intercalate ((first :: rest).map text)).toList.isEmpty = false := by
    rw [hk]
    rfl
  simp only [TrimRule.opening, TrimRule.closing, TrimRule.setClause, hne, String.ofList_toList]
  simp

end

end Assignment

/-! ## The clauses -/

namespace Node

open Build

variable {ev : Evaluator} {c : Context} {holds : String → Bool} {conditions : List Condition}
  {assignments : List Assignment}

/-- Whatever tests are true: a `where` clause appends nothing if none is, and else one fragment with the
conditions whose tests are true, in which only the connective of the first is missing. A `set` clause appends
nothing or one fragment with the assignments whose tests are true and commas between them. -/
theorem emits_clauses
    (hconditions : ∀ p ∈ conditions, ev.test p.test c.bindings = .ok (holds p.test))
    (hassignments : ∀ p ∈ assignments, ev.test p.test c.bindings = .ok (holds p.test)) :
    Emits ((Node.trim .whereClause (.sequence (conditions.map Condition.node))).apply ev) c true
      (Condition.clause (conditions.filter (holds ·.test))) (c.asked (conditions.map (·.test))) ∧
    Emits ((Node.trim .setClause (.sequence (assignments.map Assignment.node))).apply ev) c true
      (Assignment.clause (assignments.filter (holds ·.test))) (c.asked (assignments.map (·.test))) := by
  have hwhere := emits_trim_optionals .whereClause Condition.test Condition.sql conditions hconditions
  have hset := emits_trim_optionals .setClause Assignment.test Assignment.sql assignments hassignments
  constructor
  · cases hon : conditions.filter (holds ·.test) with
    | nil =>
      rw [hon] at hwhere
      exact hwhere
    | cons first rest =>
      rw [hon, Condition.finish_sql] at hwhere
      exact hwhere
  · cases hon : assignments.filter (holds ·.test) with
    | nil =>
      rw [hon] at hset
      exact hset
    | cons first rest =>
      rw [hon, Assignment.finish_sql] at hset
      exact hset

theorem emits_clauses_ends :
    let c := Context.start (.start (.map [("a", .bool true), ("b", .null), ("c", .int 1)]) none false)
    let holds : String → Bool := (· != "b")
    let conditions : List Condition :=
      [⟨"a", "or", "ORDER_ID = 1", by decide, by decide⟩,
        ⟨"b", "AND", "x = 2", by decide, by decide⟩,
        ⟨"c", "And", "ANDROID = 3", by decide, by decide⟩]
    let assignments : List Assignment :=
      [⟨"a", "x = f(1, 2)", by decide⟩, ⟨"b", "y = 2", by decide⟩, ⟨"c", "z = 3", by decide⟩]
    ((∀ p ∈ conditions, Evaluator.paths.test p.test c.bindings = .ok (holds p.test)) ∧
      ∀ p ∈ assignments, Evaluator.paths.test p.test c.bindings = .ok (holds p.test)) ∧
    Emits ((Node.trim .whereClause (.sequence (conditions.map Condition.node))).apply .paths) c true
      ["WHERE  ORDER_ID = 1 And ANDROID = 3"] (c.asked ["a", "b", "c"]) ∧
    Emits ((Node.trim .setClause (.sequence (assignments.map Assignment.node))).apply .paths) c true
      ["SET x = f(1, 2), z = 3"] (c.asked ["a", "b", "c"]) := by
  intro c holds conditions assignments
  have htests : ∀ test ∈ ["a", "b", "c"],
      Evaluator.paths.test test c.bindings = .ok (holds test) := by
    intro test htest
    simp only [List.mem_cons, List.not_mem_nil, or_false] at htest
    rcases htest with rfl | rfl | rfl <;> rfl
  have hconditions : ∀ p ∈ conditions,
      Evaluator.paths.test p.test c.bindings = .ok (holds p.test) :=
    fun p hp => htests p.test (List.mem_map_of_mem (f := Condition.test) hp)
  have hassignments : ∀ p ∈ assignments,
      Evaluator.paths.test p.test c.bindings = .ok (holds p.test) :=
    fun p hp => htests p.test (List.mem_map_of_mem (f := Assignment.test) hp)
  refine ⟨⟨hconditions, hassignments⟩, ?_⟩
  obtain ⟨hwhere, hset⟩ := emits_clauses hconditions hassignments
  have hwhere' : Condition.clause (conditions.filter (holds ·.test)) =
      ["WHERE  ORDER_ID = 1 And ANDROID = 3"] := by decide +kernel
  have hset' : Assignment.clause (assignments.filter (holds ·.test)) = ["SET x = f(1, 2), z = 3"] := by
    decide +kernel
  rw [hwhere'] at hwhere
  rw [hset'] at hset
  exact ⟨hwhere, hset⟩

end Node

end SqlTemplate
