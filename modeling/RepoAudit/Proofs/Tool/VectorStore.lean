import Mathlib.Data.Fintype.Card
import RepoAudit.Proofs.Slice
import RepoAudit.Proofs.Step
import RepoAudit.Tool.VectorStore

/-!
What a query finds in a store. An engine that is asked for more places than there are vectors fills
up with `-1`, and this place counts from the end. Main statement: a query finds pieces at different
places exactly if it asks for no more than there are. If it asks for more, the last piece comes
again and again, and in an empty store that is a fault.
-/
namespace RepoAudit

variable {ν : Type} {engine : Engine ν}

/-- The answer of a search for a number of places among fewer vectors: the places that were found,
filled up with `-1`. -/
def filledUp {size : Nat} (count : Nat) (places : List (Fin size)) : List Json :=
  places.map (fun place : Fin size => .int (place : Nat)) ++
    List.replicate (count - size) (.int (-1))

/-- An engine that compares a query with all vectors of its index. It keeps the vectors in the order
in which they come and numbers them in 64 bits. A search gives different places, as many as it is
asked for or as there are, and fills up what is missing. -/
structure Engine.Exhaustive (engine : Engine ν) : Prop where
  encode {texts : List Json} {rows : List ν} (h : engine.encode texts = .ok rows) :
    rows.length = texts.length
  append {index more made : List ν} (h : engine.append index more = .ok made) :
    made = index ++ more ∧ (made.length : Int) ≤ placeBound
  search (index : List ν) (query : ν) (count : Nat) (h : 1 ≤ count) :
    ∃ places : List (Fin index.length), places.Nodup ∧ places.length = min count index.length ∧
      engine.search index [query] (.int count) = .ok (filledUp count places)

namespace VectorStore

variable {s after : VectorStore ν} {pieces : List StoredCode}

/-- What adding pieces did: nothing but to remember what was encoded, or all of it. -/
inductive Added (engine : Engine ν) (pieces : List StoredCode) (s : VectorStore ν) :
    Except Fault Unit → VectorStore ν → Prop
  | nothing {result : Except Fault Unit} {after : VectorStore ν} (hPieces : after.pieces = s.pieces)
    (hVectors : after.vectors = s.vectors) (hResult : result = .ok () → pieces = []) :
    Added engine pieces s result after
  | all {after : VectorStore ν} {rows : List ν}
    (hRows : engine.encode (pieces.map (·.content)) = .ok rows)
    (hVectors : engine.append s.vectors rows = .ok after.vectors)
    (hPieces : after.pieces = s.pieces ++ pieces) : Added engine pieces s (.ok ()) after

/-- What an addition does, for every engine. -/
theorem add_added (engine : Engine ν) (pieces : List StoredCode) (s : VectorStore ν) :
    (add engine pieces).Leads s (Added engine pieces s) := by
  cases pieces with
  | nil => exact .nothing rfl rfl fun _ => rfl
  | cons piece pieces =>
      have hSome : (!(piece :: pieces).isEmpty) = true := rfl
      rw [add, if_pos hSome, encode, bind_assoc]
      apply Step.leads_modify
      apply Step.leads_attempt
      · intro rows hRows
        apply Step.leads_get
        apply Step.leads_attempt
        · intro vectors hVectors
          exact .all hRows hVectors rfl
        · intro fault _
          exact .nothing rfl rfl nofun
      · intro fault _
        exact .nothing rfl rfl nofun

/-- Every piece has its vector, and all of them are numbered in 64 bits. -/
structure Aligned (s : VectorStore ν) : Prop where
  vectors : s.vectors.length = s.pieces.length
  bound : (s.pieces.length : Int) ≤ placeBound

/-- An engine that makes a vector for each piece keeps the store aligned. -/
theorem add_aligned (hEngine : engine.Exhaustive) (h : s.Aligned) (pieces : List StoredCode) :
    ((add engine pieces).perform s).2.Aligned := by
  have hAdded := add_added engine pieces s
  rw [Step.Leads] at hAdded
  generalize (add engine pieces).perform s = outcome at hAdded
  obtain ⟨result, after⟩ := outcome
  cases hAdded with
  | nothing hPieces hVectors _ => exact ⟨by rw [hVectors, hPieces, h.vectors], hPieces ▸ h.bound⟩
  | all hRows hVectors hPieces =>
      obtain ⟨hMade, hBound⟩ := hEngine.append hVectors
      have hLength := congrArg List.length hMade
      rw [List.length_append, hEngine.encode hRows, List.length_map, h.vectors,
        ← List.length_append, ← hPieces] at hLength
      exact ⟨hLength, hLength ▸ hBound⟩

/-- The store after calls that add pieces, some of which may have failed. -/
def ofBatches (engine : Engine ν) (batches : List (List StoredCode)) : VectorStore ν :=
  batches.foldl (fun s pieces => ((add engine pieces).perform s).2) {}

/-- Batches in turn keep the store aligned. -/
theorem ofBatches_aligned (hEngine : engine.Exhaustive) (batches : List (List StoredCode)) :
    (ofBatches engine batches).Aligned := by
  have hNone : ((0 : Nat) : Int) ≤ placeBound := by decide
  have hEmpty : ({} : VectorStore ν).Aligned := ⟨rfl, hNone⟩
  suffices hAll : ∀ s : VectorStore ν, s.Aligned →
      (batches.foldl (fun s pieces => ((add engine pieces).perform s).2) s).Aligned from
    hAll {} hEmpty
  induction batches with
  | nil => exact fun s h => h
  | cons pieces batches ih => exact fun s h => ih _ (add_aligned hEngine h pieces)

/-- The pieces at places, and for what is missing the last piece again and again. There is none in
an empty store. -/
def padded (pieces : List StoredCode) (count : Nat) (places : List (Fin pieces.length)) :
    Except Fault (List StoredCode) :=
  match pieces.getLast? with
  | some last => .ok (places.map pieces.get ++ List.replicate (count - pieces.length) last)
  | none => .error .listIndexRange

/-- The places of a search lead to pieces, and those that fill up to the last one. -/
theorem mapM_filledUp (hBound : (pieces.length : Int) ≤ placeBound) {count : Nat}
    (hCount : 1 ≤ count) (places : List (Fin pieces.length)) :
    (filledUp count places).mapM (itemAtValue pieces) = padded pieces count places := by
  have hFound : (places.map fun place : Fin pieces.length => Json.int (place : Nat)).mapM
      (itemAtValue pieces) = .ok (places.map pieces.get) := by
    rw [List.mapM_map]
    exact mapM_eq_ok_map fun place _ => itemAt_of_fin hBound place
  have hLast : itemAtValue pieces (.int (-1)) = _ := itemAt_neg_one pieces
  rw [filledUp, List.mapM_append, hFound, padded]
  cases hPieces : pieces.getLast? with
  | none =>
      have hNil : pieces = [] := List.getLast?_eq_none_iff.1 hPieces
      rw [hPieces] at hLast
      obtain ⟨more, rfl⟩ : ∃ more, count = more + 1 := ⟨count - 1, by omega⟩
      simp only [hNil, List.length_nil, Nat.sub_zero, List.replicate_succ,
        List.mapM_cons] at hLast ⊢
      rw [hLast]
      rfl
  | some last =>
      rw [hPieces] at hLast
      have hEach : ∀ place ∈ List.replicate (count - pieces.length) (Json.int (-1)),
          itemAtValue pieces place = .ok last := by
        intro place hPlace
        rw [List.eq_of_mem_replicate hPlace]
        exact hLast
      have hRest := mapM_eq_ok_map hEach
      rw [List.map_replicate] at hRest
      rw [hRest]
      rfl

/-- Without a pattern, a query finds the pieces at the places of one search, all of which it was
asked for. -/
theorem perform_query (hEngine : engine.Exhaustive) (hAligned : s.Aligned) {text pattern : Json}
    {rows : List ν} (hRows : engine.encode [text] = .ok rows) (hPattern : pattern.truthy = false)
    {count : Nat} (hCount : 1 ≤ count) :
    ∃ places : List (Fin s.pieces.length), places.Nodup ∧
      places.length = min count s.pieces.length ∧
      ((query engine text (.int count) pattern).perform s).1 = padded s.pieces count places := by
  obtain ⟨row, rfl⟩ := List.length_eq_one_iff.1 (hEngine.encode hRows)
  have hSearch := hEngine.search s.vectors row count hCount
  rw [hAligned.vectors] at hSearch
  obtain ⟨places, hNodup, hLength, hSearch⟩ := hSearch
  refine ⟨places, hNodup, hLength, ?_⟩
  have hFound := mapM_filledUp hAligned.bound hCount places
  simp only [query, encode, search, hPattern, Bool.false_eq_true, if_false, pure_bind, bind_assoc,
    Step.perform_bind, Step.perform_modify, Step.perform_attempt, Step.perform_get, hRows, hSearch,
    hFound]
  unfold padded
  cases s.pieces.getLast? with
  | none => rfl
  | some last =>
      have hAll : (places.map s.pieces.get ++
          List.replicate (count - s.pieces.length) last).length ≤ count := by
        rw [List.length_append, List.length_map, List.length_replicate, hLength]
        omega
      simp only [sliceTo_natCast, List.take_of_length_le hAll]

/-- Pieces that stand at different places of a store. -/
def StandApart (pieces found : List StoredCode) : Prop :=
  ∃ places : List (Fin pieces.length), places.Nodup ∧ found = places.map pieces.get

/-- Whatever calls added pieces to a store, a query without a pattern finds the pieces at different
places, as many as it asks for or as there are. If it asks for more than there are, it goes on with
the last piece, once for each that is missing, and it fails if the store is empty. So what it finds
stands apart, and is not more than there is, exactly if it asks for no more than there is. -/
theorem query_stands_apart_iff (hEngine : engine.Exhaustive) (batches : List (List StoredCode))
    (text pattern : Json) (rows : List ν) (hRows : engine.encode [text] = .ok rows)
    (hPattern : pattern.truthy = false) (count : Nat) (hCount : 1 ≤ count) (s : VectorStore ν)
    (hStore : s = ofBatches engine batches) :
    (∃ places : List (Fin s.pieces.length), places.Nodup ∧
      places.length = min count s.pieces.length ∧
      ((query engine text (.int count) pattern).perform s).1 = padded s.pieces count places) ∧
    ((∃ found, ((query engine text (.int count) pattern).perform s).1 = .ok found ∧
      found.length ≤ min count s.pieces.length ∧ StandApart s.pieces found) ↔
        count ≤ s.pieces.length) := by
  have hAligned : s.Aligned := hStore ▸ ofBatches_aligned hEngine batches
  have hQuery := perform_query hEngine hAligned hRows hPattern hCount
  refine ⟨hQuery, ?_⟩
  obtain ⟨places, hNodup, hLength, hResult⟩ := hQuery
  rw [hResult, padded]
  cases hLast : s.pieces.getLast? with
  | none =>
      have hEmpty : s.pieces = [] := List.getLast?_eq_none_iff.1 hLast
      have hMore : ¬count ≤ s.pieces.length := by
        rw [hEmpty, List.length_nil]
        omega
      simp [hMore]
  | some last =>
      constructor
      · rintro ⟨found, hFound, hFew, -⟩
        cases hFound
        rw [List.length_append, List.length_map, List.length_replicate, hLength] at hFew
        omega
      · intro hEnough
        have hNone : count - s.pieces.length = 0 := by omega
        have hFew : (places.map s.pieces.get).length ≤ min count s.pieces.length := by
          rw [List.length_map, hLength]
        exact ⟨places.map s.pieces.get, by simp [hNone], hFew, places, hNodup, rfl⟩

/-- An engine whose vectors are the texts, and for which the first ones are the nearest. -/
def firstEngine : Engine Json where
  encode texts := .ok texts
  append index more :=
    if ((index ++ more).length : Int) ≤ placeBound then .ok (index ++ more)
    else .error .placeTooLarge
  search index _ count := match count.int? with
    | some n => .ok (filledUp n.toNat ((List.finRange index.length).take n.toNat))
    | none => .error (.notIndex count.typeName)
  follows? := none

theorem firstEngine_exhaustive : firstEngine.Exhaustive where
  encode h := by cases h; rfl
  append {index more made} h := by
    simp only [firstEngine] at h
    split at h
    · next hBound =>
        cases h
        exact ⟨rfl, hBound⟩
    · cases h
  search index query count _ :=
    ⟨(List.finRange index.length).take count,
      (List.nodup_finRange _).sublist (List.take_sublist _ _), by simp, rfl⟩

/-- A call in a file. -/
def onePiece : StoredCode := ⟨.str "f()", .str "a.py", .int 1, .int 1⟩

/-- A query for three pieces finds the only one three times. -/
theorem query_stands_apart_iff_one :
    ((query firstEngine (.str "g()") (.int (3 : Nat)) .null).perform
      (ofBatches firstEngine [[onePiece]])).1 = .ok [onePiece, onePiece, onePiece] ∧
    ¬∃ found, ((query firstEngine (.str "g()") (.int (3 : Nat)) .null).perform
      (ofBatches firstEngine [[onePiece]])).1 = .ok found ∧
        found.length ≤ min 3 [onePiece].length ∧ StandApart [onePiece] found := by
  have hPieces : (ofBatches firstEngine [[onePiece]]).pieces = [onePiece] := rfl
  have hIff := (query_stands_apart_iff firstEngine_exhaustive [[onePiece]] (.str "g()") .null
    [.str "g()"] rfl rfl 3 (by decide) _ rfl).2
  rw [hPieces] at hIff
  refine ⟨rfl, fun hApart => ?_⟩
  exact absurd (hIff.1 hApart) (by decide)

end VectorStore

end RepoAudit
