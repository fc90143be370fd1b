import RepoAudit.Json.Access

/-!
Shapes of values. A value of a known shape gives what it is asked for: a chain of names is followed
from object to object, and where a member is missing there is a default.
-/
namespace RepoAudit.Json

def isObject : Json → Bool
  | .obj _ => true
  | _ => false

def isText : Json → Bool
  | .str _ => true
  | _ => false

def isArrayOf (kind : Json → Bool) : Json → Bool
  | .arr items => items.all kind
  | _ => false

/-- The items of an array. Other values have none. -/
def items : Json → List Json
  | .arr items => items
  | _ => []

/-- Whether a loop over a value comes upon items of one kind only. A text or an object has nothing
to loop over but texts, so it has to be empty if texts are of another kind. -/
def isLoopOver (kind : Json → Bool) : Json → Bool
  | .arr items => items.all kind
  | .str s => s.isEmpty
  | .obj members => members.isEmpty
  | _ => false

def hasOptional (v : Json) (name : Text) (kind : Json → Bool) : Bool := (v.member? name).all kind

/-- The items of a member. There are none if it is not an array. -/
def itemsOf (v : Json) (name : Text) : List Json :=
  match v.member? name with
  | some (.arr items) => items
  | _ => []

/-- The value to which a chain of names leads. -/
def follow? : List Text → Json → Option Json
  | [], v => some v
  | name :: names, v => (v.member? name).bind (follow? names)

/-- Whether a value can be asked for a chain of names: it is an object, and so is every member on
the way that is there. -/
def allows : List Text → Json → Bool
  | [], _ => true
  | name :: names, v => v.isObject && v.hasOptional name (allows names)

/-- Asks for the members of a chain one after the other. -/
def getAlong (default : Json) : List Text → Json → Except Fault Json
  | [], v => .ok v
  | [name], v => v.getD name default
  | name :: next :: names, v => do getAlong default (next :: names) (← v.getD name (.obj []))

variable {v : Json} {name : Text} {names : List Text}

theorem isObject_iff : v.isObject = true ↔ ∃ members, v = .obj members := by
  cases v <;> simp [isObject]

theorem isText_iff : v.isText = true ↔ ∃ t, v = .str t := by
  cases v <;> simp [isText]

theorem isArrayOf_iff {kind : Json → Bool} :
    v.isArrayOf kind = true ↔ ∃ items, v = .arr items ∧ ∀ item ∈ items, kind item = true := by
  cases v <;> simp [isArrayOf]

theorem hasOptional_iff {kind : Json → Bool} :
    v.hasOptional name kind = true ↔ ∀ m, v.member? name = some m → kind m = true := by
  rw [hasOptional]
  cases v.member? name <;> simp

/-- What is looped over is an array of one kind, or nothing at all. -/
theorem elements_iff {kind : Json → Bool} (hText : ∀ t, kind (.str t) = false) (v : Json)
    {found : List Json} :
    (v.elements = .ok found ∧ ∀ item ∈ found, kind item = true) ↔
      v.isLoopOver kind = true ∧ v.items = found := by
  have hOk {all : List Json} : ((.ok all : Except Fault (List Json)) = .ok found ∧
      ∀ item ∈ found, kind item = true) ↔ all.all kind = true ∧ all = found := by
    rw [Except.ok.injEq, List.all_eq_true, and_comm (b := all = found)]
    exact and_congr_right fun hSame => by rw [hSame]
  cases v with
  | arr all => exact hOk
  | str s =>
      refine hOk.trans ?_
      cases s <;> simp [isLoopOver, items, hText]
  | obj members =>
      refine hOk.trans ?_
      cases members <;> simp [isLoopOver, items, hText]
  | _ => simp [elements, isLoopOver]

/-- A loop goes through items of a kind exactly if the value is made for it. -/
theorem exists_elements_iff {kind : Json → Bool} (hText : ∀ t, kind (.str t) = false) (v : Json) :
    (∃ found, v.elements = .ok found ∧ ∀ item ∈ found, kind item = true) ↔
      v.isLoopOver kind = true := by
  simp only [elements_iff hText, exists_and_left, exists_eq', and_true]

/-- A field is found exactly if it is a member. -/
theorem field_eq_ok_iff {m : Json} : v.field name = .ok m ↔ v.member? name = some m := by
  cases v with
  | obj members => cases hFound : members.lookup name <;> simp [field, member?, hFound]
  | _ => simp [field, member?]

/-- Only an object has members. -/
theorem isObject_of_member? {m : Json} (h : v.member? name = some m) : v.isObject = true := by
  cases v <;> simp_all [member?, isObject]

/-- Only objects can be asked for members. -/
theorem getD_eq (v : Json) (name : Text) (default : Json) :
    v.getD name default =
      if v.isObject then .ok ((v.member? name).getD default)
      else .error (.noAttribute v.typeName "get") := by
  cases v <;> rfl

/-- In an object a default stands for a missing member. -/
theorem getD_of_isObject (h : v.isObject = true) (name : Text) (default : Json) :
    v.getD name default = .ok ((v.member? name).getD default) := by
  rw [getD_eq, if_pos h]

/-- A chain goes on from a member that is missing as from an object without members. -/
theorem follow?_getD (h : names ≠ []) (v : Json) (name : Text) :
    follow? names ((v.member? name).getD (.obj [])) = follow? (name :: names) v := by
  rw [follow?]
  cases v.member? name with
  | some m => rfl
  | none =>
      cases names with
      | nil => exact absurd rfl h
      | cons next names => rfl

/-- A way through members starts at an object. -/
theorem isObject_of_allows (h : allows (name :: names) v = true) : v.isObject = true := by
  rw [allows, Bool.and_eq_true] at h
  exact h.1

theorem allows_getD (h : allows (name :: names) v = true) :
    allows names ((v.member? name).getD (.obj [])) = true := by
  rw [allows, Bool.and_eq_true, hasOptional_iff] at h
  cases hMember : v.member? name with
  | some m => exact h.2 m hMember
  | none => cases names <;> rfl

/-- A chain that a value allows ends at its value, or at the default. -/
theorem getAlong_of_allows (hNames : names ≠ []) (h : allows names v = true) (default : Json) :
    getAlong default names v = .ok ((follow? names v).getD default) := by
  induction names generalizing v with
  | nil => exact absurd rfl hNames
  | cons name names ih =>
      have hObject := isObject_of_allows h
      cases names with
      | nil =>
          rw [getAlong, getD_of_isObject hObject, follow?]
          cases v.member? name <;> rfl
      | cons next names =>
          rw [getAlong, getD_of_isObject hObject, ← follow?_getD (List.cons_ne_nil _ _)]
          exact ih (List.cons_ne_nil _ _) (allows_getD h)

/-- A member that is an array of one kind, if it is there, gives its items to a loop. -/
theorem elements_of_hasOptional {kind : Json → Bool} (hObject : v.isObject = true)
    (h : v.hasOptional name (isArrayOf kind) = true) :
    (v.getD name (.arr []) >>= elements) = .ok (v.itemsOf name) ∧
      ∀ item ∈ v.itemsOf name, kind item = true := by
  rw [getD_of_isObject hObject, itemsOf]
  cases hMember : v.member? name with
  | none => exact ⟨rfl, nofun⟩
  | some m =>
      obtain ⟨items, rfl, hItems⟩ := isArrayOf_iff.1 (hasOptional_iff.1 h m hMember)
      exact ⟨rfl, hItems⟩

/-- A member that can be looped over, or is missing, gives its items to a loop. -/
theorem elements_getD_iff {kind : Json → Bool} (hText : ∀ t, kind (.str t) = false)
    (hObject : v.isObject = true) {found : List Json} :
    ((v.getD name (.arr []) >>= elements) = .ok found ∧ ∀ item ∈ found, kind item = true) ↔
      v.hasOptional name (isLoopOver kind) = true ∧ v.itemsOf name = found := by
  have hItems : v.itemsOf name = ((v.member? name).getD (.arr [])).items := by
    rw [itemsOf]
    cases v.member? name with
    | none => rfl
    | some m => cases m <;> rfl
  have hLoop : v.hasOptional name (isLoopOver kind) =
      ((v.member? name).getD (.arr [])).isLoopOver kind := by
    rw [hasOptional]
    cases v.member? name <;> rfl
  rw [getD_of_isObject hObject, hItems, hLoop]
  exact elements_iff hText _

end RepoAudit.Json
