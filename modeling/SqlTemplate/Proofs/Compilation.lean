import SqlTemplate.Proofs.Pass
import SqlTemplate.Template

/-!
# Compiled templates

What an element becomes depends on its name, and for most names on what its contents become
(`compileElement_eq`). The nodes of a template have the shape of its tree: every block has one node for
each text and each element in it, in the same order (`Forms`), and whatever has this shape is what the
template is compiled to (`compile_eq_ok`).
-/

namespace SqlTemplate

/-! ## Elements -/

namespace Element

inductive Role where
  | block
  | loop
  | list
  | conditional
  | choice
  | declaration
deriving DecidableEq

def roleOf : String → Option Role
  | "trim" | "where" | "set" | "otherwise" => some .block
  | "foreach" => some .loop
  | "in" => some .list
  | "if" | "when" => some .conditional
  | "choose" => some .choice
  | "bind" => some .declaration
  | _ => none

def isBranch : Element → Bool
  | text _ => false
  | element name _ _ => name == "when" || name == "if"

def isOtherwise : Element → Bool
  | text _ => false
  | element name _ _ => name == "otherwise"

/-- Induction on an element with the elements in it. -/
theorem ind {motive : Element → Prop} (text : ∀ t, motive (.text t))
    (element : ∀ name attributes children, (∀ e ∈ children, motive e) →
      motive (.element name attributes children)) : ∀ e, motive e
  | .text t => text t
  | .element name attributes children =>
    element name attributes children fun e _ => ind text element e

theorem roleOf_of_isBranch {name : String} {attributes : List (String × String)}
    {children : List Element} (h : isBranch (.element name attributes children) = true) :
    roleOf name = some .conditional := by
  rw [isBranch, Bool.or_eq_true, beq_iff_eq, beq_iff_eq] at h
  rcases h with rfl | rfl <;> rfl

theorem not_isOtherwise_of_isBranch {e : Element} (h : e.isBranch = true) :
    ¬ e.isOtherwise = true := by
  cases e with
  | text t => cases h
  | element name attributes children =>
    rw [isBranch, Bool.or_eq_true, beq_iff_eq, beq_iff_eq] at h
    rcases h with rfl | rfl <;> exact fun h => nomatch h

end Element

namespace Template

open Element

/-! ## One layer of a tree -/

theorem required_eq_ok {tag : Tag} {name value : String} :
    tag.required name = .ok value ↔ tag.attributes.get? name = some value := by
  unfold Tag.required
  cases tag.attributes.get? name <;> simp

variable (config : Configuration)

def nodeOf : Element → Except Fault Node
  | .text t => .ok (textNode config t)
  | .element name attributes children => compileElement config ⟨name, attributes⟩ children

theorem compileAll_eq_mapM (contents : List Element) :
    compileAll config contents = contents.mapM (nodeOf config) := by
  induction contents with
  | nil => rw [compileAll]; rfl
  | cons e contents ih =>
    rw [List.mapM_cons, ← ih]
    cases e with
    | text t => rw [compileAll]; rfl
    | element name attributes children => rw [compileAll]; rfl

theorem compileAll_eq_ok {config : Configuration} {contents : List Element} {nodes : List Node} :
    compileAll config contents = .ok nodes ↔
      List.Forall₂ (fun e node => nodeOf config e = .ok node) contents nodes := by
  rw [compileAll_eq_mapM, Except.mapM_eq_ok]

def blockOf (tag : Tag) (nodes : List Node) : Node :=
  match tag.name with
  | "trim" => .trim (trimOf tag) (.sequence nodes)
  | "where" => .trim .whereClause (.sequence nodes)
  | "set" => .trim .setClause (.sequence nodes)
  | _ => .sequence nodes

def branchNode (branch : String × Node) : Node :=
  .conditional branch.1 branch.2

theorem compileElement_eq (tag : Tag) (children : List Element) :
    compileElement config tag children =
      match roleOf tag.name with
      | some .block => do pure (blockOf tag (← compileAll config children))
      | some .loop => do
        let nodes ← compileAll config children
        pure (.loop (← loopOf config tag) (.sequence nodes))
      | some .list => inNode config tag
      | some .conditional => do
        let test ← tag.required "test"
        pure (.conditional test (.sequence (← compileAll config children)))
      | some .choice => do
        let (branches, otherwise) ← compileChoice config [] none children
        pure (.choice branches otherwise)
      | some .declaration => do
        let name ← tag.required "name"
        pure (.declare name (← tag.required "value"))
      | none => .error (.template (.unknownElement tag.name) tag.name) := by
  obtain ⟨name, attributes⟩ := tag
  rw [compileElement]
  dsimp only
  split <;> try rfl
  simp [roleOf]

section
variable {config} {name : String} {attributes : List (String × String)} {children : List Element}
  {node : Node}

theorem nodeOf_block (role : roleOf name = some .block) :
    nodeOf config (.element name attributes children) = .ok node ↔
      ∃ nodes, List.Forall₂ (fun e node => nodeOf config e = .ok node) children nodes ∧
        blockOf ⟨name, attributes⟩ nodes = node := by
  rw [nodeOf, compileElement_eq]
  simp only [role]
  constructor
  · intro h
    obtain ⟨nodes, hnodes, h⟩ := Except.bind_eq_ok.mp h
    exact ⟨nodes, compileAll_eq_ok.mp hnodes, Except.ok.inj h⟩
  · rintro ⟨nodes, hnodes, rfl⟩
    exact Except.bind_eq_ok.mpr ⟨nodes, compileAll_eq_ok.mpr hnodes, rfl⟩

theorem nodeOf_loop (role : roleOf name = some .loop) :
    nodeOf config (.element name attributes children) = .ok node ↔
      ∃ nodes header, List.Forall₂ (fun e node => nodeOf config e = .ok node) children nodes ∧
        loopOf config ⟨name, attributes⟩ = .ok header ∧ .loop header (.sequence nodes) = node := by
  rw [nodeOf, compileElement_eq]
  simp only [role]
  constructor
  · intro h
    obtain ⟨nodes, hnodes, h⟩ := Except.bind_eq_ok.mp h
    obtain ⟨header, hheader, h⟩ := Except.bind_eq_ok.mp h
    exact ⟨nodes, header, compileAll_eq_ok.mp hnodes, hheader, Except.ok.inj h⟩
  · rintro ⟨nodes, header, hnodes, hheader, rfl⟩
    exact Except.bind_eq_ok.mpr ⟨nodes, compileAll_eq_ok.mpr hnodes,
      Except.bind_eq_ok.mpr ⟨header, hheader, rfl⟩⟩

theorem nodeOf_list (role : roleOf name = some .list) :
    nodeOf config (.element name attributes children) = inNode config ⟨name, attributes⟩ := by
  rw [nodeOf, compileElement_eq]
  simp only [role]

theorem nodeOf_conditional (role : roleOf name = some .conditional) :
    nodeOf config (.element name attributes children) = .ok node ↔
      ∃ test nodes, Entries.get? "test" attributes = some test ∧
        List.Forall₂ (fun e node => nodeOf config e = .ok node) children nodes ∧
        branchNode (test, .sequence nodes) = node := by
  rw [nodeOf, compileElement_eq]
  simp only [role]
  constructor
  · intro h
    obtain ⟨test, htest, h⟩ := Except.bind_eq_ok.mp h
    obtain ⟨nodes, hnodes, h⟩ := Except.bind_eq_ok.mp h
    exact ⟨test, nodes, required_eq_ok.mp htest, compileAll_eq_ok.mp hnodes, Except.ok.inj h⟩
  · rintro ⟨test, nodes, htest, hnodes, rfl⟩
    exact Except.bind_eq_ok.mpr ⟨test, required_eq_ok.mpr htest,
      Except.bind_eq_ok.mpr ⟨nodes, compileAll_eq_ok.mpr hnodes, rfl⟩⟩

theorem nodeOf_declaration (role : roleOf name = some .declaration) :
    nodeOf config (.element name attributes children) = .ok node ↔
      ∃ declared value, Entries.get? "name" attributes = some declared ∧
        Entries.get? "value" attributes = some value ∧ .declare declared value = node := by
  rw [nodeOf, compileElement_eq]
  simp only [role]
  constructor
  · intro h
    obtain ⟨declared, hdeclared, h⟩ := Except.bind_eq_ok.mp h
    obtain ⟨value, hvalue, h⟩ := Except.bind_eq_ok.mp h
    exact ⟨declared, value, required_eq_ok.mp hdeclared, required_eq_ok.mp hvalue, Except.ok.inj h⟩
  · rintro ⟨declared, value, hdeclared, hvalue, rfl⟩
    exact Except.bind_eq_ok.mpr ⟨declared, required_eq_ok.mpr hdeclared,
      Except.bind_eq_ok.mpr ⟨value, required_eq_ok.mpr hvalue, rfl⟩⟩

theorem nodeOf_unknown (role : roleOf name = none) :
    nodeOf config (.element name attributes children) ≠ .ok node := by
  rw [nodeOf, compileElement_eq]
  simp only [role]
  exact fun h => nomatch h

/-! ## Choices -/

variable {e : Element} {rest : List Element} {branches branches' : List (String × Node)}
  {otherwise otherwise' : Option Node} {result : List (String × Node) × Option Node}

theorem compileChoice_branch (he : e.isBranch = true) :
    compileChoice config branches otherwise (e :: rest) = .ok result ↔
      ∃ branch, nodeOf config e = .ok (branchNode branch) ∧
        compileChoice config (branches ++ [branch]) otherwise rest = .ok result := by
  cases e with
  | text t => cases he
  | element name attributes children =>
    have hchoice : compileChoice config branches otherwise (.element name attributes children :: rest) =
        (do
          let test ← Tag.required ⟨name, attributes⟩ "test"
          let nodes ← compileAll config children
          compileChoice config (branches ++ [(test, .sequence nodes)]) otherwise rest) := by
      rw [isBranch, Bool.or_eq_true, beq_iff_eq, beq_iff_eq] at he
      rcases he with rfl | rfl <;> rw [compileChoice]
    rw [hchoice]
    constructor
    · intro h
      obtain ⟨test, htest, h⟩ := Except.bind_eq_ok.mp h
      obtain ⟨nodes, hnodes, h⟩ := Except.bind_eq_ok.mp h
      refine ⟨(test, .sequence nodes), ?_, h⟩
      exact (nodeOf_conditional (roleOf_of_isBranch he)).mpr
        ⟨test, nodes, required_eq_ok.mp htest, compileAll_eq_ok.mp hnodes, rfl⟩
    · rintro ⟨branch, hbranch, h⟩
      obtain ⟨test, nodes, htest, hnodes, hnode⟩ :=
        (nodeOf_conditional (roleOf_of_isBranch he)).mp hbranch
      cases branch
      cases hnode
      exact Except.bind_eq_ok.mpr ⟨_, required_eq_ok.mpr htest,
        Except.bind_eq_ok.mpr ⟨nodes, compileAll_eq_ok.mpr hnodes, h⟩⟩

theorem compileChoice_otherwise (he : e.isOtherwise = true) :
    compileChoice config branches otherwise (e :: rest) = .ok result ↔
      otherwise = none ∧ ∃ node, nodeOf config e = .ok node ∧
        compileChoice config branches (some node) rest = .ok result := by
  cases e with
  | text t => cases he
  | element name attributes children =>
    rw [isOtherwise, beq_iff_eq] at he
    subst name
    rw [compileChoice]
    cases otherwise with
    | some node =>
      constructor
      · intro h
        cases h
      · rintro ⟨h, -⟩
        cases h
    | none =>
      constructor
      · intro h
        obtain ⟨nodes, hnodes, h⟩ := Except.bind_eq_ok.mp h
        exact ⟨rfl, _, (nodeOf_block rfl).mpr ⟨nodes, compileAll_eq_ok.mp hnodes, rfl⟩, h⟩
      · rintro ⟨-, node, hnode, h⟩
        obtain ⟨nodes, hnodes, rfl⟩ := (nodeOf_block rfl).mp hnode
        exact Except.bind_eq_ok.mpr ⟨nodes, compileAll_eq_ok.mpr hnodes, h⟩

theorem compileChoice_other (hbranch : e.isBranch = false) (hotherwise : e.isOtherwise = false) :
    compileChoice config branches otherwise (e :: rest) =
      compileChoice config branches otherwise rest := by
  cases e with
  | text t => rw [compileChoice]
  | element name attributes children =>
    rw [compileChoice]
    · rintro rfl
      cases hbranch
    · rintro rfl
      cases hbranch
    · rintro rfl
      cases hotherwise

/-- The branches of a choice are the nodes of its branches, in order, and its last resort is the node of
the only element that can be one. Both come after those that were found before. -/
theorem compileChoice_eq_ok :
    compileChoice config branches otherwise children = .ok (branches', otherwise') ↔
      ∃ more last, branches ++ more = branches' ∧ otherwise.toList ++ last = otherwise'.toList ∧
        List.Forall₂ (fun e node => nodeOf config e = .ok node) (children.filter isBranch)
          (more.map branchNode) ∧
        List.Forall₂ (fun e node => nodeOf config e = .ok node) (children.filter isOtherwise) last := by
  -- over the contents, with any branches in front of those still to come
  induction children generalizing branches otherwise with
  | nil =>
    rw [compileChoice]
    constructor
    · intro h
      cases h
      exact ⟨[], [], by simp, by simp, .nil, .nil⟩
    · rintro ⟨more, last, rfl, hlast, hmore, hnone⟩
      cases hnone
      rw [List.filter_nil, List.forall₂_nil_left_iff, List.map_eq_nil_iff] at hmore
      rw [hmore, List.append_nil]
      rw [List.append_nil] at hlast
      cases otherwise <;> cases otherwise' <;> cases hlast <;> rfl
  | cons e rest ih =>
    by_cases hbranch : e.isBranch = true
    · have hotherwise := not_isOtherwise_of_isBranch hbranch
      rw [compileChoice_branch hbranch, List.filter_cons_of_pos hbranch,
        List.filter_cons_of_neg hotherwise]
      simp only [ih]
      constructor
      · rintro ⟨branch, hnode, more, last, rfl, hlast, hmore, hlasts⟩
        exact ⟨branch :: more, last, by simp, hlast, .cons hnode hmore, hlasts⟩
      · rintro ⟨more, last, rfl, hlast, hmore, hlasts⟩
        cases more with
        | nil => cases hmore
        | cons branch more =>
          cases hmore with
          | cons hnode hmore => exact ⟨branch, hnode, more, last, by simp, hlast, hmore, hlasts⟩
    · by_cases hotherwise : e.isOtherwise = true
      · rw [compileChoice_otherwise hotherwise, List.filter_cons_of_neg hbranch,
          List.filter_cons_of_pos hotherwise]
        simp only [ih]
        constructor
        · rintro ⟨rfl, node, hnode, more, last, hmore', hlast, hmore, hlasts⟩
          exact ⟨more, node :: last, hmore', hlast, hmore, .cons hnode hlasts⟩
        · rintro ⟨more, last, hmore', hlast, hmore, hlasts⟩
          cases hlasts with
          | cons hnode hlasts =>
            -- a second last resort has no place
            cases otherwise with
            | none => exact ⟨rfl, _, hnode, more, _, hmore', hlast, hmore, hlasts⟩
            | some node =>
              have hlength := congrArg List.length hlast
              cases otherwise' <;> simp at hlength
      · rw [compileChoice_other (by simpa using hbranch) (by simpa using hotherwise),
          List.filter_cons_of_neg hbranch, List.filter_cons_of_neg hotherwise]
        exact ih

theorem nodeOf_choice (role : roleOf name = some .choice) :
    nodeOf config (.element name attributes children) = .ok node ↔
      ∃ branches otherwise, .choice branches otherwise = node ∧
        List.Forall₂ (fun e node => nodeOf config e = .ok node) (children.filter isBranch)
          (branches.map branchNode) ∧
        List.Forall₂ (fun e node => nodeOf config e = .ok node) (children.filter isOtherwise)
          otherwise.toList := by
  rw [nodeOf, compileElement_eq]
  simp only [role]
  constructor
  · intro h
    obtain ⟨⟨branches, otherwise⟩, hchoice, h⟩ := Except.bind_eq_ok.mp h
    obtain ⟨more, last, rfl, hlast, hmore, hlasts⟩ := compileChoice_eq_ok.mp hchoice
    rw [Option.toList_none, List.nil_append] at hlast
    exact ⟨_, otherwise, Except.ok.inj h, hmore, hlast ▸ hlasts⟩
  · rintro ⟨branches, otherwise, rfl, hbranches, hotherwise⟩
    exact Except.bind_eq_ok.mpr ⟨(branches, otherwise),
      compileChoice_eq_ok.mpr ⟨branches, otherwise.toList, rfl, rfl, hbranches, hotherwise⟩, rfl⟩

end

/-! ## The shape of the nodes -/

/-- The node has the shape of the element: what is made of the contents of a block stands in it in the
order of the contents, one node for each. -/
inductive Forms : Element → Node → Prop
  | text (t : String) : Forms (.text t) (textNode config t)
  | block {name : String} {attributes : List (String × String)} {children : List Element}
      {nodes : List Node} (role : roleOf name = some .block)
      (contents : List.Forall₂ Forms children nodes) :
      Forms (.element name attributes children) (blockOf ⟨name, attributes⟩ nodes)
  | loop {name : String} {attributes : List (String × String)} {children : List Element}
      {nodes : List Node} {header : Loop} (role : roleOf name = some .loop)
      (header_eq : loopOf config ⟨name, attributes⟩ = .ok header)
      (contents : List.Forall₂ Forms children nodes) :
      Forms (.element name attributes children) (.loop header (.sequence nodes))
  | list {name : String} {attributes : List (String × String)} {children : List Element} {node : Node}
      (role : roleOf name = some .list) (node_eq : inNode config ⟨name, attributes⟩ = .ok node) :
      Forms (.element name attributes children) node
  | conditional {name test : String} {attributes : List (String × String)} {children : List Element}
      {nodes : List Node} (role : roleOf name = some .conditional)
      (test_eq : Entries.get? "test" attributes = some test)
      (contents : List.Forall₂ Forms children nodes) :
      Forms (.element name attributes children) (.conditional test (.sequence nodes))
  | choice {name : String} {attributes : List (String × String)} {children : List Element}
      {branches : List (String × Node)} {otherwise : Option Node} (role : roleOf name = some .choice)
      (branches_eq : List.Forall₂ Forms (children.filter isBranch) (branches.map branchNode))
      (otherwise_eq : List.Forall₂ Forms (children.filter isOtherwise) otherwise.toList) :
      Forms (.element name attributes children) (.choice branches otherwise)
  | declaration {name declared value : String} {attributes : List (String × String)}
      {children : List Element} (role : roleOf name = some .declaration)
      (name_eq : Entries.get? "name" attributes = some declared)
      (value_eq : Entries.get? "value" attributes = some value) :
      Forms (.element name attributes children) (.declare declared value)

variable {config} {e : Element} {node : Node} {contents : List Element} {nodes : List Node}

theorem nodeOf_eq_ok : nodeOf config e = .ok node ↔ Forms config e node := by
  induction e using Element.ind generalizing node with
  | text t =>
    constructor
    · intro h
      cases h
      exact .text t
    · intro h
      cases h
      rfl
  | element name attributes children ih =>
    -- the induction hypothesis for all contents, and for those that a choice picks
    have hcontents : ∀ {nodes}, List.Forall₂ (fun e node => nodeOf config e = .ok node) children nodes ↔
        List.Forall₂ (Forms config) children nodes :=
      List.forall₂_congr_of_mem fun e he _ => ih e he
    have hfilter : ∀ {p : Element → Bool} {nodes},
        List.Forall₂ (fun e node => nodeOf config e = .ok node) (children.filter p) nodes ↔
          List.Forall₂ (Forms config) (children.filter p) nodes :=
      List.forall₂_congr_of_mem fun e he _ => ih e (List.mem_of_mem_filter he)
    constructor
    · intro h
      cases role : roleOf name with
      | none => exact absurd h (nodeOf_unknown role)
      | some r =>
        cases r with
        | block =>
          obtain ⟨nodes, hnodes, rfl⟩ := (nodeOf_block role).mp h
          exact .block role (hcontents.mp hnodes)
        | loop =>
          obtain ⟨nodes, header, hnodes, hheader, rfl⟩ := (nodeOf_loop role).mp h
          exact .loop role hheader (hcontents.mp hnodes)
        | list => exact .list role ((nodeOf_list role).symm.trans h)
        | conditional =>
          obtain ⟨test, nodes, htest, hnodes, rfl⟩ := (nodeOf_conditional role).mp h
          exact .conditional role htest (hcontents.mp hnodes)
        | choice =>
          obtain ⟨branches, otherwise, rfl, hbranches, hotherwise⟩ := (nodeOf_choice role).mp h
          exact .choice role (hfilter.mp hbranches) (hfilter.mp hotherwise)
        | declaration =>
          obtain ⟨declared, value, hdeclared, hvalue, rfl⟩ := (nodeOf_declaration role).mp h
          exact .declaration role hdeclared hvalue
    · intro h
      cases h with
      | block role hnodes => exact (nodeOf_block role).mpr ⟨_, hcontents.mpr hnodes, rfl⟩
      | loop role hheader hnodes =>
        exact (nodeOf_loop role).mpr ⟨_, _, hcontents.mpr hnodes, hheader, rfl⟩
      | list role hnode => exact (nodeOf_list role).trans hnode
      | conditional role htest hnodes =>
        exact (nodeOf_conditional role).mpr ⟨_, _, htest, hcontents.mpr hnodes, rfl⟩
      | choice role hbranches hotherwise =>
        exact (nodeOf_choice role).mpr ⟨_, _, rfl, hfilter.mpr hbranches, hfilter.mpr hotherwise⟩
      | declaration role hdeclared hvalue =>
        exact (nodeOf_declaration role).mpr ⟨_, _, hdeclared, hvalue, rfl⟩

theorem compile_eq_ok {root : Node} : compile config contents = .ok root ↔
    ∃ nodes, root = .sequence nodes ∧ List.Forall₂ (Forms config) contents nodes := by
  have hcompile : ∀ {nodes}, compileAll config contents = .ok nodes ↔
      List.Forall₂ (Forms config) contents nodes := by
    intro nodes
    rw [compileAll_eq_ok]
    exact List.forall₂_congr_of_mem fun _ _ _ => nodeOf_eq_ok
  constructor
  · intro h
    obtain ⟨nodes, hnodes, h⟩ := Except.bind_eq_ok.mp h
    exact ⟨nodes, (Except.ok.inj h).symm, hcompile.mp hnodes⟩
  · rintro ⟨nodes, rfl, hnodes⟩
    exact Except.bind_eq_ok.mpr ⟨nodes, hcompile.mpr hnodes, rfl⟩

end Template

end SqlTemplate
