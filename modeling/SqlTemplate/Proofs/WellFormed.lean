import SqlTemplate.Proofs.Compilation
import SqlTemplate.Proofs.Pieces
import SqlTemplate.Proofs.Registration

/-!
# Well-formed templates

What an element must have depends on its name, and so does which of its contents are examined. A template
is accepted exactly if all elements that are examined have what they must have (`compile_iff_wellFormed`).
-/

namespace SqlTemplate

/-! ## Letter case -/

namespace Text

def Spells (word text : String) : Prop :=
  List.Forall₂ (fun letter c => c = letter ∨ c = letter.toUpper) word.toList text.toList

theorem toUpper_eq_iff {letter c : Char} (h : 97 ≤ letter.toNat ∧ letter.toNat ≤ 122) :
    letter.toUpper = c.toUpper ↔ c = letter ∨ c = letter.toUpper := by
  have hletter := toNat_toUpper letter
  have hc := toNat_toUpper c
  rw [if_pos h] at hletter
  rw [← Char.toNat_inj, ← Char.toNat_inj, ← Char.toNat_inj, hletter, hc]
  split <;> omega

theorem sameIgnoringCase_iff {word text : String}
    (h : ∀ letter ∈ word.toList, 97 ≤ letter.toNat ∧ letter.toNat ≤ 122) :
    sameIgnoringCase text word = true ↔ Spells word text := by
  have hsame : sameIgnoringCase text word = true ↔
      word.toList.map Char.toUpper = text.toList.map Char.toUpper := by
    rw [sameIgnoringCase, beq_iff_eq, upper, upper, String.ofList_inj, eq_comm]
  rw [hsame, ← List.forall₂_eq_eq_eq, List.forall₂_map_left_iff, List.forall₂_map_right_iff]
  constructor
  · intro hall
    exact ((List.forall₂_and_left _ _).mpr ⟨h, hall⟩).imp fun _ _ ⟨hl, he⟩ => (toUpper_eq_iff hl).mp he
  · intro hall
    exact ((List.forall₂_and_left _ _).mpr ⟨h, hall⟩).imp fun _ _ ⟨hl, he⟩ => (toUpper_eq_iff hl).mpr he

end Text

/-! ## Elements -/

namespace Element

def IsFlag (name : String) (attributes : Entries String) : Prop :=
  ∀ text, attributes.get? name = some text → Text.Spells "true" text ∨ Text.Spells "false" text

/-- The element and what is examined in it have the attributes that their names ask for. -/
inductive WellFormed : Element → Prop
  | text (t : String) : WellFormed (.text t)
  | block {name : String} {attributes : List (String × String)} {children : List Element}
      (role : roleOf name = some .block)
      (contents : ∀ e ∈ children, WellFormed e) :
      WellFormed (.element name attributes children)
  | loop {name : String} {attributes : List (String × String)} {children : List Element}
      (role : roleOf name = some .loop)
      (collection : Entries.contains "collection" attributes = true)
      (nullable : IsFlag "nullable" attributes)
      (contents : ∀ e ∈ children, WellFormed e) :
      WellFormed (.element name attributes children)
  | list {name : String} {attributes : List (String × String)} {children : List Element}
      (role : roleOf name = some .list)
      (collection : Entries.contains "collection" attributes = true)
      (nullable : IsFlag "nullable" attributes)
      (inline : IsFlag "inline" attributes) :
      WellFormed (.element name attributes children)
  | conditional {name : String} {attributes : List (String × String)} {children : List Element}
      (role : roleOf name = some .conditional)
      (test : Entries.contains "test" attributes = true)
      (contents : ∀ e ∈ children, WellFormed e) :
      WellFormed (.element name attributes children)
  | choice {name : String} {attributes : List (String × String)} {children : List Element}
      (role : roleOf name = some .choice)
      (branches : ∀ e ∈ children, e.isBranch = true → WellFormed e)
      (otherwise : ∀ e ∈ children, e.isOtherwise = true → WellFormed e)
      (once : (children.filter isOtherwise).length ≤ 1) :
      WellFormed (.element name attributes children)
  | declaration {name : String} {attributes : List (String × String)} {children : List Element}
      (role : roleOf name = some .declaration)
      (declared : Entries.contains "name" attributes = true)
      (value : Entries.contains "value" attributes = true) :
      WellFormed (.element name attributes children)

end Element

namespace Template

open Element

/-! ## Attributes -/

theorem exists_required {tag : Tag} {name : String} :
    (∃ value, tag.required name = .ok value) ↔ tag.attributes.contains name = true := by
  simp only [required_eq_ok, Entries.contains, Option.isSome_iff_exists]

theorem exists_flag {tag : Tag} {name : String} {default : Bool} :
    (∃ value, tag.flag name default = .ok value) ↔ IsFlag name tag.attributes := by
  have htrue : ∀ text, Text.sameIgnoringCase text "true" = true ↔ Text.Spells "true" text := fun _ =>
    Text.sameIgnoringCase_iff (by simp)
  have hfalse : ∀ text, Text.sameIgnoringCase text "false" = true ↔ Text.Spells "false" text := fun _ =>
    Text.sameIgnoringCase_iff (by simp)
  unfold Tag.flag IsFlag
  cases tag.attributes.get? name with
  | none => simp
  | some text =>
    simp only [← htrue, ← hfalse, Option.some.injEq, forall_eq']
    cases Text.sameIgnoringCase text "true" <;> cases Text.sameIgnoringCase text "false" <;> simp

theorem exists_loopOf {config : Configuration} {tag : Tag} :
    (∃ header, loopOf config tag = .ok header) ↔
      tag.attributes.contains "collection" = true ∧ IsFlag "nullable" tag.attributes := by
  rw [← exists_required, ← @exists_flag tag "nullable" config.settings.nullableLoops]
  constructor
  · rintro ⟨header, h⟩
    obtain ⟨collection, hcollection, h⟩ := Except.bind_eq_ok.mp h
    obtain ⟨nullable, hnullable, -⟩ := Except.bind_eq_ok.mp h
    exact ⟨⟨collection, hcollection⟩, nullable, hnullable⟩
  · rintro ⟨⟨collection, hcollection⟩, nullable, hnullable⟩
    exact ⟨_, Except.bind_eq_ok.mpr ⟨collection, hcollection,
      Except.bind_eq_ok.mpr ⟨nullable, hnullable, rfl⟩⟩⟩

theorem exists_inNode {config : Configuration} {tag : Tag} :
    (∃ node, inNode config tag = .ok node) ↔ tag.attributes.contains "collection" = true ∧
      IsFlag "nullable" tag.attributes ∧ IsFlag "inline" tag.attributes := by
  rw [← exists_required, ← @exists_flag tag "nullable" config.settings.nullableLoops,
    ← @exists_flag tag "inline" false]
  constructor
  · rintro ⟨node, h⟩
    obtain ⟨collection, hcollection, h⟩ := Except.bind_eq_ok.mp h
    obtain ⟨nullable, hnullable, h⟩ := Except.bind_eq_ok.mp h
    obtain ⟨inline, hinline, -⟩ := Except.bind_eq_ok.mp h
    exact ⟨⟨collection, hcollection⟩, ⟨nullable, hnullable⟩, inline, hinline⟩
  · rintro ⟨⟨collection, hcollection⟩, ⟨nullable, hnullable⟩, inline, hinline⟩
    exact ⟨_, Except.bind_eq_ok.mpr ⟨collection, hcollection, Except.bind_eq_ok.mpr
      ⟨nullable, hnullable, Except.bind_eq_ok.mpr ⟨inline, hinline, rfl⟩⟩⟩⟩

/-! ## Acceptance -/

variable {config : Configuration} {e : Element} {node : Node}

theorem wellFormed_of_forms (h : Forms config e node) : e.WellFormed := by
  induction e using Element.ind generalizing node with
  | text t => exact .text t
  | element name attributes children ih =>
    have hmem : ∀ {e contents nodes}, List.Forall₂ (Forms config) contents nodes → e ∈ contents →
        ∃ node, Forms config e node := by
      intro e contents nodes hall he
      obtain ⟨node, -, hnode⟩ := List.exists_of_forall₂_of_mem hall.flip he
      exact ⟨node, hnode⟩
    have hcontents : ∀ {nodes}, List.Forall₂ (Forms config) children nodes →
        ∀ e ∈ children, e.WellFormed := by
      intro nodes hall e he
      obtain ⟨node, hnode⟩ := hmem hall he
      exact ih e he hnode
    cases h with
    | block role hnodes => exact .block role (hcontents hnodes)
    | loop role hheader hnodes =>
      obtain ⟨hcollection, hnullable⟩ := exists_loopOf.mp ⟨_, hheader⟩
      exact .loop role hcollection hnullable (hcontents hnodes)
    | list role hnode =>
      obtain ⟨hcollection, hnullable, hinline⟩ := exists_inNode.mp ⟨_, hnode⟩
      exact .list role hcollection hnullable hinline
    | conditional role htest hnodes =>
      exact .conditional role (Option.isSome_of_eq_some htest) (hcontents hnodes)
    | @choice _ _ _ branches otherwise role hbranches hotherwise =>
      refine .choice role (fun e he hb => ?_) (fun e he ho => ?_) ?_
      · obtain ⟨node, hnode⟩ := hmem hbranches (List.mem_filter.mpr ⟨he, hb⟩)
        exact ih e he hnode
      · obtain ⟨node, hnode⟩ := hmem hotherwise (List.mem_filter.mpr ⟨he, ho⟩)
        exact ih e he hnode
      -- a choice has room for one last resort
      · rw [hotherwise.length_eq]
        cases otherwise <;> simp
    | declaration role hname hvalue =>
      exact .declaration role (Option.isSome_of_eq_some hname) (Option.isSome_of_eq_some hvalue)

theorem exists_branch (he : e.isBranch = true) (h : nodeOf config e = .ok node) :
    ∃ branch, branchNode branch = node := by
  cases e with
  | text t => cases he
  | element name attributes children =>
    obtain ⟨test, nodes, -, -, hnode⟩ := (nodeOf_conditional (roleOf_of_isBranch he)).mp h
    exact ⟨_, hnode⟩

theorem exists_nodeOf (config : Configuration) (h : e.WellFormed) :
    ∃ node, nodeOf config e = .ok node := by
  induction h with
  | text t => exact ⟨_, rfl⟩
  | block role contents ih =>
    obtain ⟨nodes, hnodes⟩ := List.exists_forall₂ ih
    exact ⟨_, (nodeOf_block role).mpr ⟨nodes, hnodes, rfl⟩⟩
  | @loop name attributes children role collection nullable contents ih =>
    obtain ⟨nodes, hnodes⟩ := List.exists_forall₂ ih
    obtain ⟨header, hheader⟩ := (@exists_loopOf config ⟨name, attributes⟩).mpr ⟨collection, nullable⟩
    exact ⟨_, (nodeOf_loop role).mpr ⟨nodes, header, hnodes, hheader, rfl⟩⟩
  | @list name attributes children role collection nullable inline =>
    rw [nodeOf_list role]
    exact exists_inNode.mpr ⟨collection, nullable, inline⟩
  | conditional role test contents ih =>
    obtain ⟨nodes, hnodes⟩ := List.exists_forall₂ ih
    obtain ⟨test, htest⟩ := Option.isSome_iff_exists.mp test
    exact ⟨_, (nodeOf_conditional role).mpr ⟨test, nodes, htest, hnodes, rfl⟩⟩
  | @choice name attributes children role branches otherwise once ihb iho =>
    have hbranches : ∀ e ∈ children.filter isBranch,
        ∃ branch, nodeOf config e = .ok (branchNode branch) := by
      intro e he
      obtain ⟨he, hbranch⟩ := List.mem_filter.mp he
      obtain ⟨node, hnode⟩ := ihb e he hbranch
      obtain ⟨branch, rfl⟩ := exists_branch hbranch hnode
      exact ⟨branch, hnode⟩
    have hotherwise : ∀ e ∈ children.filter isOtherwise, ∃ node, nodeOf config e = .ok node := by
      intro e he
      obtain ⟨he, hotherwise⟩ := List.mem_filter.mp he
      exact iho e he hotherwise
    obtain ⟨branches, hbranches⟩ := List.exists_forall₂ hbranches
    obtain ⟨last, hlast⟩ := List.exists_forall₂ hotherwise
    -- there is at most one last resort, and it is the first
    have hone : last.head?.toList = last := by
      rw [hlast.length_eq] at once
      match last, once with
      | [], _ => rfl
      | [_], _ => rfl
    exact ⟨_, (nodeOf_choice role).mpr
      ⟨branches, last.head?, rfl, List.forall₂_map_right_iff.mpr hbranches, hone.symm ▸ hlast⟩⟩
  | declaration role declared value =>
    obtain ⟨declared, hdeclared⟩ := Option.isSome_iff_exists.mp declared
    obtain ⟨value, hvalue⟩ := Option.isSome_iff_exists.mp value
    exact ⟨_, (nodeOf_declaration role).mpr ⟨declared, value, hdeclared, hvalue, rfl⟩⟩

theorem exists_forms_iff (config : Configuration) :
    (∃ node, Forms config e node) ↔ e.WellFormed := by
  constructor
  · rintro ⟨node, h⟩
    exact wellFormed_of_forms h
  · intro h
    obtain ⟨node, hnode⟩ := exists_nodeOf config h
    exact ⟨node, nodeOf_eq_ok.mp hnode⟩

/-- Exactly the well-formed templates are accepted, with nodes of their shape, and every other one is
refused with a fault of the template. -/
theorem compile_iff_wellFormed (config : Configuration) (contents : List Element) :
    ((∃ root, compile config contents = .ok root) ↔ ∀ e ∈ contents, e.WellFormed) ∧
    (∀ root, compile config contents = .ok root ↔
      ∃ nodes, root = .sequence nodes ∧ List.Forall₂ (Forms config) contents nodes) ∧
    ∀ fault, compile config contents = .error fault →
      ∃ cause fragment, fault = .template cause fragment := by
  refine ⟨?_, fun root => compile_eq_ok, fun fault h => ?_⟩
  · constructor
    · rintro ⟨root, h⟩ e he
      obtain ⟨nodes, -, hnodes⟩ := compile_eq_ok.mp h
      obtain ⟨node, -, hnode⟩ := List.exists_of_forall₂_of_mem hnodes.flip he
      exact wellFormed_of_forms hnode
    · intro h
      obtain ⟨nodes, hnodes⟩ := List.exists_forall₂ fun e he => (exists_forms_iff config).mpr (h e he)
      exact ⟨_, compile_eq_ok.mpr ⟨nodes, rfl, hnodes⟩⟩
  · have htemplate := misread_compile config contents fault h
    cases fault with
    | template cause fragment => exact ⟨cause, fragment, rfl⟩
    | _ => cases htemplate

theorem compile_iff_wellFormed_choice :
    let when : Element := .element "when" [("test", "t")]
      [.element "foreach" [("collection", "ids"), ("nullable", "tRUE")] [.text "b"]]
    let accepted : List Element :=
      [.text "a", .element "choose" [] [.text "c", when, .element "note" [] [], .element "otherwise" [] []]]
    let refused : List Element :=
      [.element "choose" [] [.element "otherwise" [] [], when, .element "otherwise" [] []]]
    (∀ e ∈ accepted, e.WellFormed) ∧ (∃ root, compile .standard accepted = .ok root) ∧
      (¬ ∀ e ∈ refused, e.WellFormed) ∧
      ∃ fault, compile .standard refused = .error fault ∧
        ∃ cause fragment, fault = .template cause fragment := by
  intro when accepted refused
  have hnullable : IsFlag "nullable" [("collection", "ids"), ("nullable", "tRUE")] := by
    intro text h
    cases h
    exact Or.inl (by simp [Text.Spells])
  have hwhen : when.WellFormed := by
    refine .conditional rfl rfl fun e he => ?_
    cases List.mem_singleton.mp he
    refine .loop rfl rfl hnullable fun e he => ?_
    cases List.mem_singleton.mp he
    exact .text "b"
  have hotherwise : (Element.element "otherwise" [] []).WellFormed := .block rfl fun e he => nomatch he
  have haccepted : ∀ e ∈ accepted, e.WellFormed := by
    simp only [accepted, List.forall_mem_cons]
    refine ⟨.text "a", .choice rfl ?_ ?_ (by decide), by simp⟩
    · simp [isBranch, hwhen]
    · simp [isOtherwise, hotherwise, when]
  have hrefused : ¬ ∀ e ∈ refused, e.WellFormed := by
    intro h
    cases h _ List.mem_cons_self with
    | choice _ _ _ once => exact absurd once (by decide)
    | block role | loop role | list role | conditional role | declaration role =>
      exact absurd role (by decide)
  obtain ⟨haccepts, -, -⟩ := compile_iff_wellFormed .standard accepted
  obtain ⟨hrefuses, -, hfault⟩ := compile_iff_wellFormed .standard refused
  refine ⟨haccepted, haccepts.mpr haccepted, hrefused, ?_⟩
  cases h : compile .standard refused with
  | ok root => exact absurd (hrefuses.mp ⟨root, h⟩) hrefused
  | error fault => exact ⟨fault, rfl, hfault fault h⟩

end Template

end SqlTemplate
