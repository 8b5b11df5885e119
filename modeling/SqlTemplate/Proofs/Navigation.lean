import SqlTemplate.Bound
import SqlTemplate.Proofs.Binding
import SqlTemplate.Proofs.Reading

/-!
# Following paths

The steps of two paths with a dot in between are the steps of the first and then those of the second,
however malformed the two are. So what a joined path leads to is what the second leads to from where the
first has led, whether the first starts at a value, at the bindings or at the names of a bound statement.
These three agree on every path whose root is a bound name.
-/

namespace SqlTemplate

namespace Path

theorem steps_ofText (path : String) :
    (ofText path).steps = (Text.pieces (· == '.') path.toList).map Step.ofText := rfl

/-- The steps of a path hold all of its text but the dots between them. -/
theorem text_ofText (path : String) : (ofText path).text = path := by
  have htexts : (ofText path).steps.map (·.text.toList) = Text.pieces (· == '.') path.toList := by
    rw [steps_ofText, List.map_map]
    exact List.map_id'' (fun piece => String.toList_ofList) _
  apply String.toList_inj.mp
  unfold text joinSteps
  rw [String.toList_intercalate, List.map_map]
  exact (congrArg _ htexts).trans (Text.intercalate_pieces '.' path.toList)

section
variable (p q : String)

theorem steps_joined :
    (ofText (p ++ "." ++ q)).steps = (ofText p).steps ++ (ofText q).steps := by
  have hdot : (p ++ "." ++ q).toList = p.toList ++ '.' :: q.toList := by simp
  rw [steps_ofText, hdot, Text.pieces_append rfl, List.map_append]
  rfl

theorem root_joined : (ofText (p ++ "." ++ q)).root = (ofText p).root :=
  (List.cons.inj (steps_joined p q)).1

theorem rest_joined : (ofText (p ++ "." ++ q)).rest = (ofText p).rest ++ (ofText q).steps :=
  (List.cons.inj (steps_joined p q)).2

end

theorem steps_of_free {text : String} (h : '.' ∉ text.toList) :
    (ofText text).steps = [Step.ofText text.toList] := by
  have hfree : ∀ c ∈ text.toList, (c == '.') = false := fun c hc =>
    beq_false_of_ne fun hdot => h (hdot ▸ hc)
  rw [steps_ofText, Text.pieces_of_free hfree]
  rfl

theorem steps_intercalate {text : String} {texts : List String}
    (h : ∀ t ∈ text :: texts, '.' ∉ t.toList) :
    (ofText (".".intercalate (text :: texts))).steps =
      (text :: texts).map fun t => Step.ofText t.toList := by
  induction texts generalizing text with
  | nil =>
    rw [String.intercalate_singleton, steps_of_free (h text List.mem_cons_self)]
    rfl
  | cons next texts ih =>
    rw [String.intercalate_cons_cons, steps_joined, steps_of_free (h text List.mem_cons_self),
      ih fun t ht => h t (List.mem_cons_of_mem text ht)]
    rfl

end Path

section
variable (p q : String)

theorem rootName_joined : rootName (p ++ "." ++ q) = rootName p :=
  congrArg Step.name (Path.root_joined p q)

/-! ## From a value -/

theorem Value.walkAll_append (v : Value) (steps more : List Step) :
    v.walkAll (steps ++ more) = (v.walkAll steps).bind (·.walkAll more) :=
  List.foldlM_append

theorem Value.getPath_joined (v : Value) :
    v.getPath (p ++ "." ++ q) = (v.getPath p).bind (·.getPath q) := by
  unfold getPath
  rw [Path.steps_joined, walkAll_append]

theorem Value.follow_joined (v : Value) :
    v.follow (Path.ofText (p ++ "." ++ q)) = (v.follow (Path.ofText p)).bind (·.getPath q) := by
  unfold follow getPath
  rw [Path.root_joined, Path.rest_joined, Option.bind_assoc]
  simp only [walkAll_append]

/-! ## From a bound name -/

theorem Bindings.getPath_joined (b : Bindings) :
    b.getPath (p ++ "." ++ q) = (b.getPath p).bind (·.getPath q) := by
  rw [getPath_eq_follow, getPath_eq_follow, rootName_joined, Option.bind_assoc]
  simp only [Value.follow_joined]

theorem BoundStatement.getAdditional_eq_follow (s : BoundStatement) (path : String) :
    s.getAdditional path =
      (s.additional.get? (rootName path)).bind (·.follow (Path.ofText path)) := rfl

theorem BoundStatement.getAdditional_joined (s : BoundStatement) :
    s.getAdditional (p ++ "." ++ q) = (s.getAdditional p).bind (·.getPath q) := by
  rw [getAdditional_eq_follow, getAdditional_eq_follow, rootName_joined, Option.bind_assoc]
  simp only [Value.follow_joined]

end

/-- Following a path is one walk, which can be stopped at every dot and started again from there, and the
bindings, a bound statement and a map with the same names send it to the same place. -/
theorem getPath_compositional :
    (∀ (v : Value) (p q : String), v.getPath (p ++ "." ++ q) = (v.getPath p).bind (·.getPath q)) ∧
    (∀ (b : Bindings) (p q : String),
      b.getPath (p ++ "." ++ q) = (b.getPath p).bind (·.getPath q)) ∧
    (∀ (s : BoundStatement) (p q : String),
      s.getAdditional (p ++ "." ++ q) = (s.getAdditional p).bind (·.getPath q)) ∧
    (∀ path : String, ".".intercalate ((Path.ofText path).steps.map Step.text) = path) ∧
    ∀ (b : Bindings) (s : BoundStatement) (path : String), s.additional = b.locals →
      rootName path ≠ "" → b.isBound (rootName path) = true →
      b.getPath path = (Value.map b.locals).getPath path ∧
      s.getAdditional path = (Value.map b.locals).getPath path ∧
      b.localPath path = some (((Value.map b.locals).getPath path).getD .null) := by
  refine ⟨fun v p q => v.getPath_joined p q, fun b p q => b.getPath_joined p q,
    fun s p q => s.getAdditional_joined p q, Path.text_ofText, fun b s path hs hroot hbound => ?_⟩
  obtain ⟨v, hv⟩ := Option.isSome_iff_exists.mp hbound
  have hmap : (Value.map b.locals).getPath path = v.follow (Path.ofText path) := by
    have hproperty : (Value.map b.locals).property (rootName path) = some v := hv
    rw [Value.getPath_eq_follow _ hroot, hproperty, Option.bind_some]
  rw [hmap]
  refine ⟨?_, ?_, ?_⟩
  · rw [Bindings.getPath_eq_follow, Bindings.get_of_get? hv, Option.bind_some]
  · rw [BoundStatement.getAdditional_eq_follow, hs, hv, Option.bind_some]
  · rw [Bindings.localPath_eq_follow, hv, Option.map_some]

theorem getPath_compositional_malformed :
    let b : Bindings := ⟨[("xs", .list [.null, .map [("id", .int 7)]])], false⟩
    let s : BoundStatement := { statement := ⟨"", []⟩, parameter := .null, additional := b.locals }
    s.additional = b.locals ∧ rootName "xs[1..id." ≠ "" ∧ b.isBound (rootName "xs[1..id.") = true ∧
      (Value.map b.locals).getPath "xs[1..id." = some (.int 7) ∧
      b.getPath "xs[1..id." = some (.int 7) ∧ s.getAdditional "xs[1..id." = some (.int 7) ∧
      b.localPath "xs[1..id." = some (.int 7) := by
  intro b s
  have hroot : rootName "xs[1..id." ≠ "" := by decide +kernel
  have hbound : b.isBound (rootName "xs[1..id.") = true := rfl
  have hmap : (Value.map b.locals).getPath "xs[1..id." = some (.int 7) := rfl
  obtain ⟨-, -, -, -, hagree⟩ := getPath_compositional
  obtain ⟨hb, hs, hlocal⟩ := hagree b s "xs[1..id." rfl hroot hbound
  rw [hmap] at hb hs hlocal
  exact ⟨rfl, hroot, hbound, hmap, hb, hs, hlocal⟩

end SqlTemplate
