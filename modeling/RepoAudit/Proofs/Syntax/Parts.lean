import RepoAudit.Proofs.Syntax.WellFormed

/-!
The parts of nodes by which calls, attributes, assignments and definitions are told apart.
-/
namespace RepoAudit.Syntax.Tree

/-- The object and the label of an attribute. -/
def attribute? : Tree → Option (Tree × Text)
  | .node .attribute _ (value :: .leaf (.text attr) :: _) => some (value, attr)
  | _ => none

def called? : Tree → Option Tree
  | .node .call _ (called :: _) => some called
  | _ => none

/-- The plain name and the label in a call of an attribute of a plain name. -/
def method? (t : Tree) : Option (Text × Text) :=
  (t.called?.bind attribute?).bind fun (value, attr) => value.name?.map fun name => (name, attr)

def calledName? (t : Tree) : Option Text := t.called?.bind name?

/-- The arguments of a call that stand without a keyword. -/
def arguments : Tree → List Tree
  | .node .call _ (_ :: .list args :: _) => args
  | _ => []

def assignedNames : Tree → List Text
  | .node .assign _ (.list targets :: _) => targets.filterMap name?
  | _ => []

def assignedValue : Tree → Tree
  | .node .assign _ (_ :: value :: _) => value
  | _ => .absent

/-- Whether a node defines a function, plain or asynchronous. -/
def isDefinition (t : Tree) : Bool :=
  t.kind? == some .functionDef || t.kind? == some .asyncFunctionDef

def definedName : Tree → Text
  | .node _ _ (.leaf (.text name) :: _) => name
  | _ => []

def decorators : Tree → List Tree
  | .node _ _ (_ :: _ :: _ :: .list decorators :: _) => decorators
  | _ => []

def ofStatements (body : List Tree) : Tree := .node .moduleBody default [.list body, .list []]

/-- A plain definition without parameters. -/
def ofDefinition (name : Text) (decorators body : List Tree) : Tree :=
  .node .functionDef default [.ident name,
    .node .arguments default
      [.list [], .list [], .absent, .list [], .list [], .absent, .list []],
    .list body, .list decorators, .absent, .absent]

/-- A call of an attribute of a plain name. -/
def ofMethod (receiver attr : Text) (args : List Tree) : Tree :=
  .node .call default [
    .node .attribute default [.node .name default [.ident receiver, .node .load default []],
      .ident attr, .node .load default []],
    .list args, .list []]

variable {span : Span}

/-- A part that is a node stands in the field of its label. -/
theorem field_of_node {kind : Kind} {fields : List Tree} {label : String} {part : Tree}
    (hPart : part.kind?.isSome)
    (h : (kind.labels.zip fields).lookup label = some part) :
    (node kind span fields).field label = .ok part := by
  match part, hPart with
  | .node .., _ => simp only [field, h, Option.getD_some]

/-- In a well-formed call the first part is what it calls. -/
theorem field_func {called : Tree} {rest : List Tree} (h : called.WellFormed) :
    (node .call span (called :: rest)).field "func" = .ok called :=
  field_of_node h.1 rfl

theorem field_attribute_value {value : Tree} {rest : List Tree} (h : value.WellFormed) :
    (node .attribute span (value :: rest)).field "value" = .ok value :=
  field_of_node h.1 rfl

theorem method?_call {spanCalled spanValue : Span} {receiver attr : Text}
    {others more rest : List Tree} :
    (node .call span (node .attribute spanCalled (node .name spanValue (ident receiver :: others) ::
      ident attr :: more) :: rest)).method? = some (receiver, attr) := rfl

theorem nameField_attr {value : Tree} {attr : Text} {rest : List Tree} :
    (node .attribute span (value :: ident attr :: rest)).nameField "attr" = .ok (.str attr) := rfl

/-- Attributes are the only nodes that have this field. -/
theorem attr_of_kind (kind : Kind) (h : kind ≠ .attribute) :
    kind.labels.contains "attr" = false ∧ kind.optionalLabels.contains "attr" = false := by
  cases kind <;> first | exact absurd rfl h | decide

/-- Only attributes have a label of that kind. -/
theorem nameField_attr_of_ne {t : Tree} (h : t.kind? ≠ some .attribute) :
    ∃ fault, t.nameField "attr" = .error fault := by
  match t, h with
  | .node kind span fields, h =>
    obtain ⟨hLabels, hOptional⟩ := attr_of_kind kind fun hKind => h (by rw [hKind, kind?])
    have hNone : (kind.labels.zip fields).lookup "attr" = none := by
      rw [List.lookup_eq_none_iff]
      rintro ⟨label, part⟩ hEntry
      have hMem := (List.of_mem_zip hEntry).1
      simp only [bne_iff_ne, ne_eq]
      rintro rfl
      simp [hMem] at hLabels
    exact ⟨_, by simp only [nameField, field, hNone, Option.getD_none, hOptional]; rfl⟩
  | .absent, _ => exact ⟨_, rfl⟩
  | .leaf _, _ => exact ⟨_, rfl⟩
  | .list _, _ => exact ⟨_, rfl⟩

/-- Only the node of a name has a plain name. -/
theorem eq_node_of_name? {t : Tree} {id : Text} (h : t.name? = some id) :
    ∃ span rest, t = node .name span (ident id :: rest) := by
  unfold name? at h
  split at h
  · cases h
    exact ⟨_, _, rfl⟩
  · cases h

theorem nameField_id {id : Text} {rest : List Tree} :
    (node .name span (ident id :: rest)).nameField "id" = .ok (.str id) := rfl

theorem field_assign_value {first value : Tree} {rest : List Tree} (h : value.WellFormed) :
    (node .assign span (first :: value :: rest)).field "value" = .ok value :=
  field_of_node h.1 rfl

theorem nameField_name {name : Text} {rest : List Tree} :
    (node .functionDef span (ident name :: rest)).nameField "name" = .ok (.str name) := rfl

end RepoAudit.Syntax.Tree
