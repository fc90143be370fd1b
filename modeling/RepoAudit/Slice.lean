import RepoAudit.Json.Arithmetic

/-!
Places in lists that may count from the end: the last item is at `-1`.
-/
namespace RepoAudit

variable {α : Type}

/-- A place as a bound in a list. Bounds past an end stand at it. -/
def sliceIndex (length : Nat) (i : Int) : Nat :=
  if i < 0 then (i + length).toNat else min i.toNat length

/-- The items from one bound up to another. -/
def slice (items : List α) (start stop : Int) : List α :=
  let first := sliceIndex items.length start
  (items.drop first).take (sliceIndex items.length stop - first)

/-- The items up to a bound that may be any value. Null is no bound. -/
def sliceTo (items : List α) (stop : Json) : Except Fault (List α) :=
  match stop, stop.int? with
  | .null, _ => .ok items
  | _, some n => .ok (slice items 0 n)
  | _, none => .error .sliceIndex

/-- The bound of places: they have to fit into 64 bits with a sign. -/
def placeBound : Int := Int.pow 2 63

/-- The item at a place. -/
def itemAt (items : List α) (i : Int) : Except Fault α :=
  let place := if i < 0 then i + items.length else i
  if i < -placeBound || placeBound ≤ i then .error .placeTooLarge
  else if place < 0 then .error .listIndexRange
  else match items[place.toNat]? with
    | some item => .ok item
    | none => .error .listIndexRange

def itemAtValue (items : List α) (place : Json) : Except Fault α :=
  match place.int? with
  | some i => itemAt items i
  | none => .error (.listIndexType place.typeName)

end RepoAudit
