import SqlTemplate.Proofs.FirstFault
import SqlTemplate.Proofs.Static
import SqlTemplate.Template

/-!
# Registration

A template is read as a tree, and a static tree is evaluated and goes through the final pass at once. The
reader finds faults in the elements only (`Template.misread_compile`), the evaluation of a static tree
finds none, and the faults of the final pass show a content. So no fault of a call can arise here, and
the statement that comes out depends on nothing that a call brings (`registration_of_template`).
-/

open Except (Fails)

namespace SqlTemplate

namespace Fault

def isTemplate : Fault → Bool
  | template .. => true
  | _ => false

theorem phase_of_isTemplate {fault : Fault} (h : fault.isTemplate = true) :
    fault.phase = .registration := by
  cases fault with
  | template cause fragment => rfl
  | _ => cases h

/-- Faults that show a part of the template do not come from a call. -/
theorem phase_of_fragment? {fault : Fault} {content : String} (h : fault.fragment? = some content) :
    fault.phase = .registration ∨ fault.phase = .typeResolution := by
  cases fault with
  | template cause fragment => exact Or.inl rfl
  | reference content position => exact Or.inl rfl
  | typing cause fragment => exact Or.inr rfl
  | evaluation expression cause => cases h
  | rejected value pattern => cases h
  | settings cause => cases h

end Fault

namespace Template

/-! ## Faults of the reader -/

def Misread {α : Type} : Except Fault α → Prop :=
  Fails fun fault => fault.isTemplate = true

theorem misread_required (tag : Tag) (name : String) : Misread (tag.required name) := by
  unfold Tag.required
  split
  · exact .ok _
  · exact .error rfl

theorem misread_flag (tag : Tag) (name : String) (default : Bool) :
    Misread (tag.flag name default) := by
  unfold Tag.flag
  split
  · exact .ok _
  · split
    · exact .ok _
    · split
      · exact .ok _
      · exact .error rfl

variable (config : Configuration)

theorem misread_loopOf (tag : Tag) : Misread (loopOf config tag) :=
  (misread_required tag _).bind fun _ => (misread_flag tag _ _).bind fun _ => .ok _

theorem misread_inNode (tag : Tag) : Misread (inNode config tag) :=
  (misread_required tag _).bind fun _ => (misread_flag tag _ _).bind fun _ =>
    (misread_flag tag _ _).bind fun _ => .ok _

mutual

theorem misread_compileAll : ∀ contents : List Element, Misread (compileAll config contents)
  | [] => by
    rw [compileAll]
    exact .ok _
  | .text t :: rest => by
    rw [compileAll]
    exact (misread_compileAll rest).bind fun _ => .ok _
  | .element name attributes children :: rest => by
    rw [compileAll]
    exact (misread_compileElement ⟨name, attributes⟩ children).bind fun _ =>
      (misread_compileAll rest).bind fun _ => .ok _

theorem misread_compileElement (tag : Tag) (children : List Element) :
    Misread (compileElement config tag children) := by
  have hchildren := misread_compileAll children
  rw [compileElement]
  split
  case h_1 | h_2 | h_3 | h_9 => exact hchildren.bind fun _ => .ok _
  case h_4 => exact hchildren.bind fun _ => (misread_loopOf config tag).bind fun _ => .ok _
  case h_5 => exact misread_inNode config tag
  case h_6 | h_7 => exact (misread_required tag _).bind fun _ => hchildren.bind fun _ => .ok _
  case h_8 => exact (misread_compileChoice [] none children).bind fun _ => .ok _
  case h_10 =>
    exact (misread_required tag _).bind fun _ => (misread_required tag _).bind fun _ => .ok _
  case h_11 => exact .error rfl

theorem misread_compileChoice (branches : List (String × Node)) (otherwise : Option Node) :
    ∀ children : List Element, Misread (compileChoice config branches otherwise children)
  | [] => by
    rw [compileChoice]
    exact .ok _
  | .text _ :: rest => by
    rw [compileChoice]
    exact misread_compileChoice branches otherwise rest
  | .element name attributes children :: rest => by
    unfold compileChoice
    split
    case h_1 | h_2 =>
      exact (misread_required _ _).bind fun _ => (misread_compileAll children).bind fun _ =>
        misread_compileChoice _ otherwise rest
    case h_3 =>
      dsimp only
      split
      · exact .error rfl
      · exact (misread_compileAll children).bind fun _ => misread_compileChoice branches _ rest
    case h_4 => exact misread_compileChoice branches otherwise rest

end

theorem misread_compile (contents : List Element) : Misread (compile config contents) :=
  (misread_compileAll config contents).bind fun _ => .ok _

/-! ## Sources -/

variable {config} {kind : Kind} {root : Node}

theorem sourceOf_dynamic (h : root.isDynamic = true) :
    sourceOf config root kind = .ok (.dynamic root) := by
  unfold sourceOf
  rw [if_pos h]

theorem sourceOf_static (h : root.isDynamic = false) :
    sourceOf config root kind =
      (Statement.ofSql config root.staticSql kind (config.startBindings .null)).map .fixed := by
  unfold sourceOf
  rw [if_neg (by simp [h]), Statement.ofNode_static h]
  cases Statement.ofSql config root.staticSql kind (config.startBindings .null) <;> rfl

/-- How the registration of a template ends: `read` is the tree that was made of it, `result` its
source. -/
structure Registration (config : Configuration) (kind : Kind) (read : Except Fault Node)
    (result : Except Fault Source) : Prop where
  phase : ∀ fault, result = .error fault →
    fault.phase = .registration ∨ fault.phase = .typeResolution
  refused : ∀ fault, result = .error fault ↔
    read = .error fault ∧ fault.isTemplate = true ∨
      ∃ root, read = .ok root ∧ root.isDynamic = false ∧
        Statement.ofSql config root.staticSql kind (config.startBindings .null) = .error fault
  dynamic : ∀ root, read = .ok root → root.isDynamic = true → result = .ok (.dynamic root)
  /-- A static tree has one statement: no call fails, whatever is configured for it, and none asks an
  evaluator. -/
  fixed : ∀ root source, read = .ok root → root.isDynamic = false → result = .ok source →
    ∃ statement,
      Statement.ofSql config root.staticSql kind (config.startBindings .null) = .ok statement ∧
      ∀ (ev : Evaluator) (callConfig : Configuration) (p : Value),
        (source.bind ev callConfig p).result = .ok { statement, parameter := p } ∧
        (source.bind ev callConfig p).trace = []

theorem registration_sourceOf {read : Except Fault Node} (hread : Misread read) :
    Registration config kind read (read >>= (sourceOf config · kind)) := by
  have hrefused : ∀ fault, (read >>= (sourceOf config · kind)) = .error fault ↔
      read = .error fault ∧ fault.isTemplate = true ∨
        ∃ root, read = .ok root ∧ root.isDynamic = false ∧
          Statement.ofSql config root.staticSql kind (config.startBindings .null) = .error fault := by
    intro fault
    rw [Except.bind_eq_error]
    refine or_congr ⟨fun h => ⟨h, hread fault h⟩, And.left⟩ (exists_congr fun root => ?_)
    refine and_congr_right fun _ => ?_
    cases hdynamic : root.isDynamic with
    | true => simp [sourceOf_dynamic hdynamic]
    | false => simp [sourceOf_static hdynamic, Except.map_eq_error]
  refine ⟨?_, hrefused, ?_, ?_⟩
  · intro fault h
    rcases (hrefused fault).mp h with ⟨_, htemplate⟩ | ⟨root, _, _, hsql⟩
    · exact Or.inl (Fault.phase_of_isTemplate htemplate)
    · obtain ⟨_, content, _, _, _, _, hcontent⟩ := Statement.ofSql_eq_error.mp hsql
      exact Fault.phase_of_fragment? hcontent
  · rintro root rfl hdynamic
    exact sourceOf_dynamic hdynamic
  · rintro root source rfl hstatic hsource
    change sourceOf config root kind = .ok source at hsource
    rw [sourceOf_static hstatic] at hsource
    obtain ⟨statement, hstatement, rfl⟩ := Except.map_eq_ok.mp hsource
    exact ⟨statement, hstatement, fun _ _ _ => ⟨rfl, rfl⟩⟩

/-- Registering a template of elements or a text: it fails with a fault of the template or of a type, and
a static template that is accepted is one statement for all calls. -/
theorem registration_of_template (config : Configuration) (kind : Kind) :
    (∀ contents, Registration config kind (compile config contents) (source config contents kind)) ∧
    ∀ text, Registration config kind (.ok (textNode config text)) (textSource config text kind) :=
  ⟨fun contents => registration_sourceOf (misread_compile config contents),
    fun _ => registration_sourceOf (.ok _)⟩

end Template

end SqlTemplate
