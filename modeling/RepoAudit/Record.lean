import RepoAudit.Fault

/-!
Records that are made from named arguments.
-/
namespace RepoAudit

/-- The fields of a kind of record in their order, each with its default if it has one. -/
structure RecordType where
  name : Text
  fields : List (Text × Option Json)

namespace RecordType

/-- The name of the record that is being made, which no argument may bear. -/
def reserved : Text := "self"

/-- What makes the records of a name. -/
def maker (record : Text) : Text := record ++ Text.ofString ".__init__"

/-- The fault of an argument's name, if the fields have the given names. -/
def nameFault? (record : Text) (fields : List Text) (name : Text) : Option Fault :=
  if name == reserved then some (.repeatedArgument (maker record) name)
  else if fields.contains name then none
  else some (.unexpectedKeyword (maker record) name)

/-- The fields of a record made from arguments. A name that is no field is refused before fields
that are missing. -/
def make (type : RecordType) (arguments : List (Text × Json)) :
    Except Fault (List (Text × Json)) :=
  match arguments.findSome? fun (name, _) =>
      nameFault? type.name (type.fields.map (·.1)) name with
  | some fault => .error fault
  | none =>
    let missing := type.fields.filter fun (name, default) =>
      default.isNone && !arguments.any (·.1 == name)
    if missing.isEmpty then
      .ok (type.fields.map fun (name, default) =>
        (name, ((arguments.lookup name).orElse fun _ => default).getD .null))
    else .error (.missingArguments (maker type.name) (missing.map (·.1)))

/-- The record whose arguments are the members of a value. `origin` tells where its type is
defined. -/
def makeFrom (type : RecordType) (origin : Text) (v : Json) :
    Except Fault (List (Text × Json)) :=
  match v with
  | .obj members => type.make members
  | v => .error (.argumentsNotMapping (origin ++ Text.ofString "." ++ type.name) v.typeName)

end RecordType

/-- A record as it is shown, from its fields as they are shown. -/
def shownRecord (name : Text) (fields : List (Text × Text)) : Text :=
  let shown : List Text := fields.map fun (field, value) => field ++ ("=" : Text) ++ value
  name ++ bracketed '(' ')' shown

end RepoAudit
