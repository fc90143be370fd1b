import Mathlib.Data.List.TakeWhile
import RepoAudit.Fault
import RepoAudit.Proofs.Text.Search

/-!
Texts that can be printed. A text without lone surrogates can be printed to every output, and
whatever is shown is one of them: what a text holds is escaped where it is shown.
-/
namespace RepoAudit

@[simp] theorem ErrorHandler.passes_strict (p : CodePoint) : strict.passes p = p.char?.isSome := by
  simp [passes]

/-- Characters are written by every handler. -/
theorem ErrorHandler.passes_of_isSome (h : ErrorHandler) {p : CodePoint} (hChar : p.char?.isSome) :
    h.passes p = true := by
  rw [passes, hChar, Bool.true_or]

/-- What is refused by some handler is a lone surrogate. -/
theorem ErrorHandler.isNone_of_passes_eq_false (h : ErrorHandler) (p : CodePoint)
    (hRefused : h.passes p = false) : p.char?.isNone = true := by
  rw [passes, Bool.or_eq_false_iff] at hRefused
  simpa using hRefused.1

/-- The handler of paths lets through whatever another lets through. -/
theorem ErrorHandler.passes_escape (h : ErrorHandler) {p : CodePoint} (hPasses : h.passes p) :
    escape.passes p = true := by
  cases h with
  | strict => exact escape.passes_of_isSome ((passes_strict p).symm.trans hPasses)
  | escape => exact hPasses

/-- A text that holds characters only. -/
def Text.Writable (t : Text) : Prop := ∀ p ∈ t, p.char?.isSome

/-- A text that the output writes. -/
def Text.Sayable [Output] (t : Text) : Prop := ∀ p ∈ t, Output.handler.passes p

namespace Text

instance [Output] (t : Text) : Decidable t.Sayable :=
  inferInstanceAs (Decidable (∀ p ∈ t, Output.handler.passes p = true))

@[simp] theorem writable_nil : Writable [] := by
  intro p hp
  cases hp

@[simp] theorem writable_cons {p : CodePoint} {t : Text} :
    Writable (p :: t) ↔ p.char?.isSome ∧ Writable t :=
  List.forall_mem_cons

@[simp] theorem writable_append {s t : Text} : Writable (s ++ t) ↔ Writable s ∧ Writable t :=
  List.forall_mem_append

@[simp] theorem writable_ofChars (cs : List Char) : Writable (ofChars cs) := by
  intro p hp
  obtain ⟨c, _, rfl⟩ := List.mem_map.mp hp
  rfl

@[simp] theorem writable_ofString (s : String) : Writable (ofString s) := writable_ofChars _

@[simp] theorem writable_ofNat (n : Nat) : Writable (ofNat n) := writable_ofChars _

@[simp] theorem writable_ofInt (n : Int) : Writable (ofInt n) := by
  cases n with
  | ofNat n => exact writable_ofNat n
  | negSucc n => exact writable_cons.mpr ⟨rfl, writable_ofNat _⟩

@[simp] theorem writable_quoted (t : Text) : Writable t.quoted := writable_ofChars _

/-- A fault is found in a text exactly if one of its code points is refused. -/
theorem unencodable?_eq_none_iff {h : ErrorHandler} {t : Text} :
    t.unencodable? h = none ↔ ∀ p ∈ t, h.passes p := by
  have hNone : t.unencodable? h = none ↔
      (t.drop (t.takeWhile h.passes).length).takeWhile (·.char?.isNone) = [] := by
    unfold unencodable?
    dsimp only
    split <;> simp_all
  rw [hNone, takeWhile_drop_eq_nil_iff h.isNone_of_passes_eq_false]

section Output

variable [Output]

/-- A text that holds characters only can be printed to every output. -/
theorem Writable.sayable {t : Text} (h : t.Writable) : t.Sayable :=
  fun p hp => ErrorHandler.passes_of_isSome _ (h p hp)

@[simp] theorem sayable_nil : Sayable [] := writable_nil.sayable

@[simp] theorem sayable_append {s t : Text} : Sayable (s ++ t) ↔ Sayable s ∧ Sayable t :=
  List.forall_mem_append

@[simp] theorem sayable_cons {p : CodePoint} {t : Text} :
    Sayable (p :: t) ↔ Output.handler.passes p ∧ Sayable t :=
  List.forall_mem_cons

@[simp] theorem sayable_ofString (s : String) : Sayable (ofString s) :=
  (writable_ofString s).sayable

@[simp] theorem sayable_quoted (t : Text) : Sayable t.quoted := (writable_quoted t).sayable

theorem sayable_iff {t : Text} : t.Sayable ↔ t.unencodable? Output.handler = none :=
  unencodable?_eq_none_iff.symm

theorem Sayable.printed {t : Text} (h : t.Sayable) : t.printed = .ok t := by
  rw [Text.printed, sayable_iff.1 h]

/-- A text fails to be printed exactly if the output refuses some of it. -/
theorem printed_fails_iff {t : Text} : (∃ fault, t.printed = .error fault) ↔ ¬t.Sayable := by
  rw [sayable_iff, Text.printed]
  cases t.unencodable? Output.handler <;> simp

end Output

end Text

/-- What holds of every code point of some texts holds of every code point of their union. -/
theorem forall_mem_joinWith {P : CodePoint → Prop} {sep : Text} (hSep : ∀ p ∈ sep, P p) :
    ∀ {parts : List Text}, (∀ part ∈ parts, ∀ p ∈ part, P p) → ∀ p ∈ joinWith sep parts, P p
  | [], _ => nofun
  | [part], h => h part (List.mem_singleton_self part)
  | part :: next :: parts, h => by
      rw [joinWith, List.forall_mem_append, List.forall_mem_append]
      have hNext : ∀ other ∈ next :: parts, ∀ p ∈ other, P p :=
        fun other hOther => h other (List.mem_cons_of_mem _ hOther)
      exact ⟨⟨h part (List.mem_cons_self ..), hSep⟩, forall_mem_joinWith hSep hNext⟩

theorem writable_joinWith {sep : Text} {parts : List Text} (hSep : sep.Writable)
    (h : ∀ part ∈ parts, part.Writable) : Text.Writable (joinWith sep parts) :=
  forall_mem_joinWith hSep h

/-- Brackets and commas can be printed. -/
theorem writable_bracketed {left right : Char} {parts : List Text}
    (h : ∀ part ∈ parts, part.Writable) : (bracketed left right parts).Writable := by
  have hParts := writable_joinWith (Text.writable_ofString ", ") h
  simp [bracketed, hParts, CodePoint.char?]

mutual

/-- What is shown inside a container has no lone surrogates: texts stand in quotes there. -/
theorem Json.writable_shown : ∀ v : Json, v.shown.Writable
  | .null => by simp [shown]
  | .bool true => by simp [shown]
  | .bool false => by simp [shown]
  | .int n => by simp [shown]
  | .float x => by simp [shown]
  | .str s => by simp [shown]
  | .arr items => by
      rw [shown]
      exact writable_bracketed (writable_shownItems items)
  | .obj members => by
      rw [shown]
      exact writable_bracketed (writable_shownMembers members)

theorem Json.writable_shownItems : ∀ items : List Json, ∀ part ∈ shownItems items, part.Writable
  | [] => by simp [shownItems]
  | item :: items => by
      rw [shownItems, List.forall_mem_cons]
      exact ⟨writable_shown item, writable_shownItems items⟩

theorem Json.writable_shownMembers : ∀ members : List (Text × Json),
    ∀ part ∈ shownMembers members, part.Writable
  | [] => by simp [shownMembers]
  | (name, item) :: members => by
      rw [shownMembers, List.forall_mem_cons]
      exact ⟨by simp [writable_shown item], writable_shownMembers members⟩

end

/-- What is said of a text that cannot be printed can be printed. -/
theorem writable_message_of_unencodable? {handler : ErrorHandler} {t : Text} {fault : Fault}
    (h : t.unencodable? handler = some fault) : fault.message.Writable := by
  unfold Text.unencodable? at h
  dsimp only at h
  split at h
  · cases h
  · cases h
    unfold Fault.message Fault.unencodableText
    dsimp only
    split <;> simp

/-- How a command ended can be printed. -/
theorem writable_exitText (exit : Exit) : (Fault.exitText exit).Writable := by
  unfold Fault.exitText
  split
  · simp
  · next n =>
      have hName : ∀ name, Fault.signalName n = some name → name.Writable := by
        intro name h
        unfold Fault.signalName at h
        split at h <;> cases h <;> exact Text.writable_ofString _
      split
      · next name h => simp [hName name h]
      · simp

/-- A command that failed is shown with its arguments in quotes. -/
theorem writable_commandFailed (command : List Text) (exit : Exit) :
    (Fault.commandFailed command exit).message.Writable := by
  have hCommand : (Fault.shownCommand command).Writable := by
    apply writable_bracketed
    rw [List.forall_mem_map]
    exact fun argument _ => Text.writable_quoted argument
  simp [Fault.message, hCommand, writable_exitText]

end RepoAudit
