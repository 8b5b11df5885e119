import SqlTemplate.Apply

/-!
# Evaluations of trees

The evaluation of a tree is put together from a few steps. A property of steps that these have and
that is kept where steps are put together (`Build.Compositional`) is a property of the evaluation of
every tree: `Build.Compositional.apply` is the induction over trees, once for all properties. For most
properties a loop need not be looked at as a whole, but only its rounds (`Build.Closed`).
-/

namespace SqlTemplate

/-! ## The nodes of a tree -/

namespace Node

mutual

def parts : Node → List Node
  | .text sql => [.text sql]
  | .substitution sql filter => [.substitution sql filter]
  | .conditional test body => .conditional test body :: body.parts
  | .choice branches none => .choice branches none :: partsOfBranches branches
  | .choice branches (some otherwise) =>
    .choice branches (some otherwise) :: (partsOfBranches branches ++ otherwise.parts)
  | .trim rule body => .trim rule body :: body.parts
  | .loop header body => .loop header body :: body.parts
  | .declare name expression => [.declare name expression]
  | .sequence children => .sequence children :: partsOfAll children

def partsOfBranches : List (String × Node) → List Node
  | [] => []
  | (_, body) :: rest => body.parts ++ partsOfBranches rest

def partsOfAll : List Node → List Node
  | [] => []
  | node :: rest => node.parts ++ partsOfAll rest

end

def loops (root : Node) : List Loop :=
  root.parts.filterMap fun
    | .loop header _ => some header
    | _ => none

def boundNames (root : Node) : List String :=
  root.parts.flatMap fun
    | .declare name _ => [name]
    | .loop header _ => header.item.toList ++ header.index.toList
    | _ => []

theorem partsOfBranches_append (branches more : List (String × Node)) :
    partsOfBranches (branches ++ more) = partsOfBranches branches ++ partsOfBranches more := by
  induction branches with
  | nil => rfl
  | cons branch branches ih => simp [partsOfBranches, ih]

theorem partsOfAll_append (children more : List Node) :
    partsOfAll (children ++ more) = partsOfAll children ++ partsOfAll more := by
  induction children with
  | nil => rfl
  | cons node children ih => simp [partsOfAll, ih]

variable {root body : Node} {header : Loop} {name expression : String}

theorem mem_loops (h : .loop header body ∈ root.parts) : header ∈ root.loops :=
  List.mem_filterMap.mpr ⟨_, h, rfl⟩

theorem mem_boundNames_declare (h : .declare name expression ∈ root.parts) :
    name ∈ root.boundNames :=
  List.mem_flatMap.mpr ⟨_, h, List.mem_singleton_self name⟩

theorem mem_boundNames_item (h : .loop header body ∈ root.parts) (hname : name ∈ header.item) :
    name ∈ root.boundNames :=
  List.mem_flatMap.mpr ⟨_, h, List.mem_append_left _ (Option.mem_toList.mpr hname)⟩

theorem mem_boundNames_index (h : .loop header body ∈ root.parts) (hname : name ∈ header.index) :
    name ∈ root.boundNames :=
  List.mem_flatMap.mpr ⟨_, h, List.mem_append_right _ (Option.mem_toList.mpr hname)⟩

end Node

/-! ## Properties of steps -/

namespace Build

/-- A property of the steps that the nodes `parts` give rise to outside loops, kept by all that joins
steps. -/
structure ClosedOutsideLoops (ev : Evaluator) (parts : List Node) (P : (α : Type) → Build α → Prop) :
    Prop where
  pure {α : Type} (a : α) : P α (Pure.pure a)
  bind {α β : Type} {m : Build α} {f : α → Build β} (hm : P α m) (hf : ∀ a, P β (f a)) :
    P β (m >>= f)
  append (fragment : String) : P Unit (append fragment)
  test (expression : String) : P Bool (evaluate expression (ev.test expression))
  substitute {sql : String} {filter : Option Filter} (hpart : .substitution sql filter ∈ parts)
    (content : String) : P String (substitute ev filter content)
  declare {name expression : String} (hpart : .declare name expression ∈ parts) :
    P Bool ((Node.declare name expression).apply ev)
  buffered {α : Type} {m : Build α} (hm : P α m) : P (α × String) (buffered m)

structure Compositional (ev : Evaluator) (parts : List Node) (P : (α : Type) → Build α → Prop) :
    Prop extends ClosedOutsideLoops ev parts P where
  loop {header : Loop} {node : Node} (hpart : .loop header node ∈ parts) {body : Build Bool}
    (hbody : P Bool body) : P Unit (header.run ev body)

structure Closed (ev : Evaluator) (parts : List Node) (P : (α : Type) → Build α → Prop) :
    Prop extends ClosedOutsideLoops ev parts P where
  collect {header : Loop} {node : Node} (hpart : .loop header node ∈ parts) :
    P (Option (List Item))
      (evaluate header.collection (ev.collection header.collection header.nullable))
  round {header : Loop} {node : Node} (hpart : .loop header node ∈ parts) {body : Build Bool}
    (hbody : P Bool body) (item : Item) : P Unit (header.round body item)
  release {header : Loop} {node : Node} (hpart : .loop header node ∈ parts) :
    P Unit (Loop.releaseVariable header.item >>= fun _ => Loop.releaseVariable header.index)
  prefixed {α : Type} {m : Build α} (hm : P α m) (lead : String) : P (α × Bool) (prefixed lead m)

namespace Compositional

open Node

variable {ev : Evaluator} {all : List Node} {P : (α : Type) → Build α → Prop}
  (h : Compositional ev all P)
include h

theorem mapM {α β : Type} {f : α → Build β} (hf : ∀ a, P β (f a)) (l : List α) :
    P (List β) (l.mapM f) := by
  induction l with
  | nil => rw [List.mapM_nil]; exact h.pure _
  | cons a l ih =>
    rw [List.mapM_cons]
    exact h.bind (hf a) fun _ => h.bind ih fun _ => h.pure _

theorem scan {handle : String → Build String} (hhandle : ∀ content, P String (handle content))
    (d : Delimiters) (text : String) : P String (d.scan handle text) := by
  refine h.bind (h.mapM (fun part => ?_) _) fun _ => h.pure _
  cases part with
  | literal t => exact h.pure _
  | token content => exact hhandle _

mutual

theorem apply : ∀ node : Node, (∀ n ∈ node.parts, n ∈ all) → P Bool (node.apply ev)
  | .text sql, _ => h.bind (h.append sql) fun _ => h.pure _
  | .substitution sql filter, hparts =>
    have hpart := hparts (.substitution sql filter) (by simp [parts])
    h.bind (h.scan (h.substitute hpart) _ _) fun _ => h.bind (h.append _) fun _ => h.pure _
  | .conditional test body, hparts => by
    have hbody := apply body fun n hn => hparts n (by simp [parts, hn])
    refine h.bind (h.test _) fun holds => ?_
    cases holds with
    | true => exact h.bind hbody fun _ => h.pure _
    | false => exact h.pure _
  | .choice branches none, hparts =>
    applyFirst branches _ (fun n hn => hparts n (by simp [parts, hn])) (h.pure _)
  | .choice branches (some otherwise), hparts =>
    applyFirst branches _ (fun n hn => hparts n (by simp [parts, hn]))
      (h.bind (apply otherwise fun n hn => hparts n (by simp [parts, hn])) fun _ => h.pure _)
  | .trim rule body, hparts => by
    have hbody := apply body fun n hn => hparts n (by simp [parts, hn])
    refine h.bind (h.buffered hbody) fun (_, sql) => ?_
    cases hsql : rule.finish sql with
    | none => simpa only [hsql] using h.pure _
    | some sql => simpa only [hsql] using h.bind (h.append _) fun _ => h.pure _
  | .loop header body, hparts =>
    have hpart := hparts (.loop header body) (by simp [parts])
    h.bind (h.loop hpart (apply body fun n hn => hparts n (by simp [parts, hn]))) fun _ => h.pure _
  | .declare name expression, hparts => h.declare (hparts _ (by simp [parts]))
  | .sequence children, hparts =>
    h.bind (applyAll children fun n hn => hparts n (by simp [parts, hn])) fun _ => h.pure _

theorem applyFirst : ∀ (branches : List (String × Node)) (otherwise : Build Bool),
    (∀ n ∈ partsOfBranches branches, n ∈ all) → P Bool otherwise →
      P Bool (Node.applyFirst ev branches otherwise)
  | [], _, _, hother => hother
  | (test, body) :: rest, otherwise, hparts, hother => by
    have hbody := apply body fun n hn => hparts n (by simp [partsOfBranches, hn])
    have hrest := applyFirst rest otherwise
      (fun n hn => hparts n (by simp [partsOfBranches, hn])) hother
    refine h.bind (h.test _) fun holds => ?_
    cases holds with
    | true => exact h.bind hbody fun _ => h.pure _
    | false => exact hrest

theorem applyAll : ∀ children : List Node, (∀ n ∈ partsOfAll children, n ∈ all) →
    P Unit (Node.applyAll ev children)
  | [], _ => h.pure _
  | node :: rest, hparts =>
    h.bind (apply node fun n hn => hparts n (by simp [partsOfAll, hn])) fun _ =>
      applyAll rest fun n hn => hparts n (by simp [partsOfAll, hn])

end

end Compositional

/-- What all steps have, the evaluation of a tree has. -/
theorem Compositional.apply_root {ev : Evaluator} {root : Node} {P : (α : Type) → Build α → Prop}
    (h : Compositional ev root.parts P) : P Bool (root.apply ev) :=
  h.apply root fun _ hn => hn

/-! ## Loops by their rounds -/

namespace Closed

variable {ev : Evaluator} {all : List Node} {P : (α : Type) → Build α → Prop}
  (h : Closed ev all P)
include h

theorem appendText (text : Option String) : P Unit (Loop.appendText text) := by
  cases text with
  | none => exact h.pure _
  | some text => exact h.append text

section
variable {header : Loop} {node : Node} (hpart : .loop header node ∈ all) {body : Build Bool}
  (hbody : P Bool body)
include hpart hbody

theorem rounds (items : List Item) (first : Bool) : P Unit (header.rounds body first items) := by
  induction items generalizing first with
  | nil => exact h.pure _
  | cons item rest ih => exact h.bind (h.prefixed (h.round hpart hbody item) _) fun _ => ih _

theorem runRounds (items : List Item) : P Unit (header.runRounds body items) :=
  h.bind (h.appendText _) fun _ => h.bind (h.rounds hpart hbody items true) fun _ =>
    h.bind (h.appendText _) fun _ => h.release hpart

theorem run : P Unit (header.run ev body) := by
  refine h.bind (h.collect hpart) fun items => ?_
  split
  · exact h.pure _
  · exact h.pure _
  · refine h.bind (h.appendText _) fun _ => ?_
    split
    · exact h.append _
    · exact h.runRounds hpart hbody _

end

theorem compositional : Compositional ev all P where
  toClosedOutsideLoops := h.toClosedOutsideLoops
  loop := h.run

end Closed

end Build

end SqlTemplate
