import RepoAudit.Fault

/-!
Access to values whose type is not known. What a value does not allow is a fault that names its
type.
-/
namespace RepoAudit.Json

/-- The member of an object, or a default. Only objects can be asked. -/
def getD (v : Json) (name : Text) (default : Json) : Except Fault Json :=
  match v with
  | .obj members => .ok ((members.lookup name).getD default)
  | v => .error (.noAttribute v.typeName "get")

/-- The member of an object, or null. -/
def get (v : Json) (name : Text) : Except Fault Json := v.getD name .null

/-- The member of an object that has it. -/
def field (v : Json) (name : Text) : Except Fault Json :=
  match v with
  | .obj members => match members.lookup name with
    | some m => .ok m
    | none => .error (.missingKey (.str name))
  | .arr _ => .error (.listIndexType "str")
  | .str _ => .error (.textIndexType "str")
  | v => .error (.notSubscriptable v.typeName)

/-- The first item of an array, or the first code point of a text. -/
def first (v : Json) : Except Fault Json :=
  match v with
  | .arr (item :: _) => .ok item
  | .arr [] => .error .listIndexRange
  | .str (p :: _) => .ok (.str [p])
  | .str [] => .error .textIndexRange
  | .obj _ => .error (.missingKey (.int 0))
  | v => .error (.notSubscriptable v.typeName)

/-- What a loop over a value goes through: items, names of members or code points. -/
def elements (v : Json) : Except Fault (List Json) :=
  match v with
  | .arr items => .ok items
  | .obj members => .ok (members.map fun (name, _) => .str name)
  | .str s => .ok (s.map fun p => .str [p])
  | v => .error (.notIterable v.typeName)

/-- The members of an object that is unpacked. -/
def unpacked (v : Json) : Except Fault (List (Text × Json)) :=
  match v with
  | .obj members => .ok members
  | v => .error (.notMapping v.typeName)

def values (v : Json) : Except Fault (List Json) :=
  match v with
  | .obj members => .ok (members.map (·.2))
  | v => .error (.noAttribute v.typeName "values")

/-- Whether a value holds a text: as a member's name, an item or a part. -/
def holds (v : Json) (t : Text) : Except Fault Bool :=
  match v with
  | .obj members => .ok (members.any fun (name, _) => name == t)
  | .arr items => .ok (items.any fun item => item.same (.str t))
  | .str s => .ok (occursIn t s)
  | v => .error (.notContainer v.typeName)

/-- Whether a value holds another: as a member's name, an item or a part. -/
def contains (v part : Json) : Except Fault Bool :=
  match v, part with
  | v, .str t => v.holds t
  | .str _, part => .error (.containsNeedsText part.typeName)
  | .arr items, part => .ok (items.any fun item => item.same part)
  | .obj _, .arr _ => .error (.unhashable "list")
  | .obj _, .obj _ => .error (.unhashable "dict")
  | .obj _, _ => .ok false
  | v, _ => .error (.notContainer v.typeName)

/-- The text of a value that is asked for a text's operation of the given name. -/
def text (v : Json) (operation : Text) : Except Fault Text :=
  match v with
  | .str s => .ok s
  | v => .error (.noAttribute v.typeName operation)

def textItems (items : List Json) : Except Fault (List Text) :=
  items.zipIdx.mapM fun (item, i) => match item with
    | .str t => .ok t
    | item => .error (.joinItem i item.typeName)

def withField (v : Json) (name : Text) (value : Json) : Except Fault Json :=
  match v with
  | .obj members => .ok (.obj (setEntry name value members))
  | .arr _ => .error (.listIndexType "str")
  | v => .error (.notAssignable v.typeName)

/-- An attribute of a record of the given type, whose attributes are the given ones. -/
def attributeOf (type : Text) (attributes : List (Text × Json)) (name : Text) :
    Except Fault Json :=
  match attributes.lookup name with
  | some value => .ok value
  | none => .error (.noAttribute type name)

/-- Whether a value can be a key. -/
def asKey (v : Json) : Except Fault Json :=
  match v with
  | .arr _ => .error (.unhashable "list")
  | .obj _ => .error (.unhashable "dict")
  | v => .ok v

/-- The first value if it counts as true, otherwise the second. -/
def orElse (v other : Json) : Json := if v.truthy then v else other

end RepoAudit.Json
