import RepoAudit.Proofs.Tool.VectorStore

/-!
Pieces and vectors of a store. They are kept in two lists, and a query goes from a place in the one
to the same place in the other. Main statement: whatever calls added pieces, and whether they
returned or failed, every piece has a vector of its content at its own place.
-/
namespace RepoAudit

variable {ν : Type}

/-- An engine that makes one vector for each text, in order, and appends all vectors in order to an
index, unless it fails. The vectors of a text are those which `embeds` tells. -/
structure Engine.MakesOneEach (embeds : Json → ν → Prop) (engine : Engine ν) : Prop where
  encode {texts : List Json} {rows : List ν} (h : engine.encode texts = .ok rows) :
    List.Forall₂ embeds texts rows
  append {index more made : List ν} (h : engine.append index more = .ok made) :
    made = index ++ more

namespace VectorStore

/-- A call that adds pieces, with the engine as it is then: an engine that fails in one call may
work in the next. -/
structure Addition (ν : Type) where
  engine : Engine ν
  pieces : List StoredCode

def Addition.step (call : Addition ν) : Use ν Unit := add call.engine call.pieces

/-- The store after calls in turn. One that fails leaves its store to the next. -/
def afterAdditions (calls : List (Addition ν)) (s : VectorStore ν) : VectorStore ν :=
  calls.foldl (fun s call => (call.step.perform s).2) s

/-- The calls that return, in turn. -/
def returning : List (Addition ν) → VectorStore ν → List (Addition ν)
  | [], _ => []
  | call :: calls, s =>
    if (call.step.perform s).1.isOk then call :: returning calls (call.step.perform s).2
    else returning calls (call.step.perform s).2

/-- The vector at the place of each piece embeds its content, and there are no other vectors. -/
def Embedded (embeds : Json → ν → Prop) (s : VectorStore ν) : Prop :=
  List.Forall₂ (fun piece vector => embeds piece.content vector) s.pieces s.vectors

/-- Whether a call adds its pieces to an index: the engine makes their vectors and appends them. If
there are no pieces, it is not asked. -/
def Addition.Taken (call : Addition ν) (index : List ν) : Prop :=
  call.pieces = [] ∨ ∃ rows made, call.engine.encode (call.pieces.map (·.content)) = .ok rows ∧
    call.engine.append index rows = .ok made

variable {embeds : Json → ν → Prop} {s : VectorStore ν} {call : Addition ν}

/-- A call returns exactly if its vectors are taken. -/
theorem Addition.step_isOk_iff (call : Addition ν) (s : VectorStore ν) :
    (call.step.perform s).1.isOk = true ↔ call.Taken s.vectors := by
  obtain ⟨engine, pieces⟩ := call
  cases pieces with
  | nil => exact iff_of_true rfl (.inl rfl)
  | cons piece pieces =>
      have hSome : (!(piece :: pieces).isEmpty) = true := rfl
      simp only [Addition.Taken, reduceCtorEq, false_or, Addition.step, add, if_pos hSome, encode,
        bind_assoc, Step.perform_bind, Step.perform_modify, Step.perform_attempt, Step.perform_get]
      cases hRows : engine.encode ((piece :: pieces).map (·.content)) with
      | error fault => simp [Except.isOk, Except.toBool]
      | ok rows =>
          cases hMade : engine.append s.vectors rows with
          | error fault => simp [Except.isOk, Except.toBool, hMade]
          | ok made => simp [Except.isOk, Except.toBool, hMade]

/-- A call adds all of its pieces if it returns, and otherwise neither pieces nor vectors. -/
theorem Addition.step_leads (call : Addition ν) (s : VectorStore ν) :
    call.step.Leads s fun result after =>
      (result.isOk = true → after.pieces = s.pieces ++ call.pieces) ∧
        (result.isOk = false → after.pieces = s.pieces ∧ after.vectors = s.vectors) := by
  apply (add_added call.engine call.pieces s).imp
  intro result after hAdded
  cases hAdded with
  | nothing hPieces hVectors hResult =>
      refine ⟨fun hOk => ?_, fun _ => ⟨hPieces, hVectors⟩⟩
      cases result with
      | error fault => cases hOk
      | ok _ => rw [hPieces, hResult rfl, List.append_nil]
  | all _ _ hPieces => exact ⟨fun _ => hPieces, fun hFails => by cases hFails⟩

/-- A call keeps vectors at the places of their pieces. -/
theorem Addition.step_embedded (hEngine : call.engine.MakesOneEach embeds) (h : s.Embedded embeds) :
    call.step.Leads s fun _ after => after.Embedded embeds := by
  apply (add_added call.engine call.pieces s).imp
  intro result after hAdded
  cases hAdded with
  | nothing hPieces hVectors _ =>
      rw [Embedded, hPieces, hVectors]
      exact h
  | all hRows hVectors hPieces =>
      have hNew := List.forall₂_map_left_iff.1 (hEngine.encode hRows)
      rw [Embedded, hPieces, hEngine.append hVectors]
      exact List.rel_append h hNew

/-- Each vector stays the one of the piece at its place, whatever calls are made. -/
theorem afterAdditions_embedded {calls : List (Addition ν)}
    (hEngines : ∀ call ∈ calls, call.engine.MakesOneEach embeds) (h : s.Embedded embeds) :
    (afterAdditions calls s).Embedded embeds := by
  induction calls generalizing s with
  | nil => exact h
  | cons call calls ih =>
      obtain ⟨hEngine, hRest⟩ := List.forall_mem_cons.1 hEngines
      exact ih hRest (Addition.step_embedded hEngine h)

/-- The pieces of the calls that return are kept in the order of the calls. -/
theorem pieces_afterAdditions (calls : List (Addition ν)) (s : VectorStore ν) :
    (afterAdditions calls s).pieces = s.pieces ++ (returning calls s).flatMap (·.pieces) := by
  induction calls generalizing s with
  | nil => simp [afterAdditions, returning]
  | cons call calls ih =>
      obtain ⟨hOk, hFails⟩ := call.step_leads s
      have hRest := ih (call.step.perform s).2
      rw [returning]
      split
      · next hReturns =>
          rw [hOk hReturns] at hRest
          rw [List.flatMap_cons, ← List.append_assoc]
          exact hRest
      · next hReturns =>
          rw [(hFails (Bool.not_eq_true _ ▸ hReturns)).1] at hRest
          exact hRest

/-- Whatever calls added pieces to a store, there are as many vectors as pieces, the vector at the
place of each piece embeds its content, and the pieces are those of the calls that returned, in
order. A further call returns exactly if the engine does its part, and if it fails, pieces and
vectors are as they were. -/
theorem additions_stay_embedded (embeds : Json → ν → Prop) (calls : List (Addition ν))
    (hEngines : ∀ call ∈ calls, call.engine.MakesOneEach embeds) (s : VectorStore ν)
    (hStore : s = afterAdditions calls {}) :
    s.vectors.length = s.pieces.length ∧ s.Embedded embeds ∧
    s.pieces = (returning calls {}).flatMap (·.pieces) ∧
    ∀ call : Addition ν, call.step.Leads s fun result after =>
      (result.isOk = true ↔ call.Taken s.vectors) ∧
      (result.isOk = false → after.pieces = s.pieces ∧ after.vectors = s.vectors) := by
  have hEmbedded : s.Embedded embeds := hStore ▸ afterAdditions_embedded hEngines .nil
  have hPieces : s.pieces = (returning calls {}).flatMap (·.pieces) := by
    rw [hStore, pieces_afterAdditions]
    rfl
  refine ⟨hEmbedded.length_eq.symm, hEmbedded, hPieces, fun call => ?_⟩
  exact ⟨call.step_isOk_iff s, (call.step_leads s).2⟩

/-- An engine that makes no vectors. -/
def muteEngine : Engine Json := { firstEngine with encode := fun _ => .error .placeTooLarge }

/-- An engine whose index takes no vectors. -/
def fullEngine : Engine Json := { firstEngine with append := fun _ _ => .error .placeTooLarge }

/-- A definition in a file. -/
def otherPiece : StoredCode := ⟨.str "def f(): pass", .str "b.py", .int 1, .int 1⟩

/-- Calls of which the second, the fourth and the last return. -/
def mixedCalls : List (Addition Json) :=
  [⟨muteEngine, [otherPiece]⟩, ⟨firstEngine, [onePiece]⟩, ⟨fullEngine, [onePiece, otherPiece]⟩,
    ⟨muteEngine, []⟩, ⟨firstEngine, [otherPiece, onePiece]⟩]

theorem mixedCalls_makeOneEach :
    ∀ call ∈ mixedCalls, call.engine.MakesOneEach fun text vector => vector = text := by
  have hSame : ∀ texts : List Json, List.Forall₂ (fun text vector => vector = text) texts texts :=
    fun texts => List.forall₂_same.2 fun _ _ => rfl
  have hFirst : firstEngine.MakesOneEach fun text vector => vector = text :=
    ⟨fun h => by cases h; exact hSame _, fun h => (firstEngine_exhaustive.append h).1⟩
  have hMute : muteEngine.MakesOneEach fun text vector => vector = text :=
    ⟨fun h => (by cases h), hFirst.append⟩
  have hFull : fullEngine.MakesOneEach fun text vector => vector = text :=
    ⟨hFirst.encode, fun h => (by cases h)⟩
  simp [mixedCalls, hFirst, hMute, hFull]

/-- The calls that return leave three pieces with their vectors. -/
theorem additions_stay_embedded_mixed :
    (afterAdditions mixedCalls {}).pieces = [onePiece, otherPiece, onePiece] ∧
    (afterAdditions mixedCalls {}).vectors = [onePiece, otherPiece, onePiece].map (·.content) ∧
    (afterAdditions mixedCalls {}).Embedded fun text vector => vector = text :=
  ⟨rfl, rfl, (additions_stay_embedded _ mixedCalls mixedCalls_makeOneEach _ rfl).2.1⟩

end VectorStore

end RepoAudit
