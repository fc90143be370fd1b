import RepoAudit.Record

/-!
Records that are made from named arguments. Main statement: a record is made exactly if its
arguments are accepted by their names, and then its fields are filled from them.
-/
namespace RepoAudit.RecordType

/-- Whether arguments make a record of a type. Each of them bears the name of a field, and no field
without a default is missing. -/
def accepts (type : RecordType) (arguments : List (Text × Json)) : Bool :=
  (arguments.all fun argument =>
    argument.1 != reserved && (type.fields.map Prod.fst).contains argument.1) &&
  type.fields.all fun field => field.2.isSome || (arguments.lookup field.1).isSome

/-- The fields of a record, with defaults for those that are not given. -/
def filled (type : RecordType) (arguments : List (Text × Json)) : List (Text × Json) :=
  type.fields.map fun field =>
    (field.1, ((arguments.lookup field.1).orElse fun _ => field.2).getD .null)

/-- The fault of the first argument that bears no name of a field. -/
def badName? (type : RecordType) (arguments : List (Text × Json)) : Option Fault :=
  arguments.findSome? fun argument =>
    nameFault? type.name (type.fields.map Prod.fst) argument.1

/-- The fields without a default that are not given. -/
def missing (type : RecordType) (arguments : List (Text × Json)) : List (Text × Option Json) :=
  type.fields.filter fun field =>
    field.2.isNone && !arguments.any fun argument => argument.1 == field.1

variable {type : RecordType} {arguments made : List (Text × Json)}

/-- A record is made unless a name is bad, and then unless an argument is missing. -/
theorem make_eq (type : RecordType) (arguments : List (Text × Json)) :
    type.make arguments = (type.badName? arguments).elim
      (if (type.missing arguments).isEmpty then .ok (type.filled arguments)
        else .error (.missingArguments (maker type.name) ((type.missing arguments).map Prod.fst)))
      .error := by
  unfold make
  split
  · next fault hFault =>
      have hBad : type.badName? arguments = some fault := hFault
      rw [hBad]
      rfl
  · next hNone =>
      have hGood : type.badName? arguments = none := hNone
      rw [hGood]
      rfl

/-- No name is bad exactly if all are fields, and none is reserved. -/
theorem badName?_eq_none_iff : type.badName? arguments = none ↔ ∀ argument ∈ arguments,
    (argument.1 != reserved && (type.fields.map Prod.fst).contains argument.1) = true := by
  rw [badName?, List.findSome?_eq_none_iff]
  refine forall₂_congr fun argument _ => ?_
  unfold nameFault?
  by_cases hReserved : (argument.1 == reserved) = true
  · simp [hReserved, bne]
  · simp [hReserved, bne]

theorem any_eq_isSome_lookup (arguments : List (Text × Json)) (name : Text) :
    (arguments.any fun argument => argument.1 == name) = (arguments.lookup name).isSome := by
  induction arguments with
  | nil => rfl
  | cons argument arguments ih =>
      rw [List.any_cons, List.lookup_cons, ih, BEq.comm]
      cases name == argument.1 <;> simp

/-- Nothing is missing exactly if each field has a default or an argument. -/
theorem missing_eq_nil_iff : type.missing arguments = [] ↔ ∀ field ∈ type.fields,
    (field.2.isSome || (arguments.lookup field.1).isSome) = true := by
  rw [missing, List.filter_eq_nil_iff]
  refine forall₂_congr fun field _ => ?_
  rw [any_eq_isSome_lookup]
  cases field.2 <;> simp

/-- A record that is made is filled from its arguments and defaults. -/
theorem make_eq_ok_iff : type.make arguments = .ok made ↔
    type.accepts arguments = true ∧ type.filled arguments = made := by
  rw [make_eq, accepts, Bool.and_eq_true, List.all_eq_true, List.all_eq_true,
    ← badName?_eq_none_iff, ← missing_eq_nil_iff]
  cases type.badName? arguments with
  | some fault => simp
  | none => cases type.missing arguments <;> simp

end RepoAudit.RecordType
