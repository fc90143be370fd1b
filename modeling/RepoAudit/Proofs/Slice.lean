import RepoAudit.Slice

/-!
Places in lists and the parts between them. A place that does not count from the end is what it is,
and the part between two such places is told by how the list is put together.
-/
namespace RepoAudit

variable {α : Type} {items : List α}

/-- The item at a place that is in the list and fits into 64 bits. -/
theorem itemAt_of_fin (hBound : (items.length : Int) ≤ placeBound) (place : Fin items.length) :
    itemAt items place = .ok (items.get place) := by
  have hPlace := place.isLt
  have hLow : ¬((place : Int) < 0) := by omega
  have hSmall : ¬((place : Int) < -placeBound) := by
    have hPositive : (0 : Int) ≤ placeBound := by decide
    omega
  have hFits : ¬(placeBound ≤ (place : Int)) := by omega
  simp only [itemAt, if_neg hLow, hSmall, hFits, decide_false, Bool.or_self, Bool.false_eq_true,
    if_false, Int.toNat_natCast, List.getElem?_eq_getElem hPlace]
  rfl

/-- The last item is at `-1`, if there is one. -/
theorem itemAt_neg_one (items : List α) :
    itemAt items (-1) = match items.getLast? with
      | some last => .ok last
      | none => .error .listIndexRange := by
  have hFits : (decide ((-1 : Int) < -placeBound) || decide (placeBound ≤ -1)) = false := by decide
  rw [itemAt, hFits, List.getLast?_eq_getElem?]
  cases items with
  | nil => rfl
  | cons first rest =>
      have hPlace : (-1 : Int) + ((rest.length + 1 : Nat) : Int) = rest.length := by omega
      have hLow : ¬((rest.length : Int) < 0) := by omega
      have hItem := List.getElem?_eq_getElem (Nat.lt_succ_self rest.length) (l := first :: rest)
      simp only [Bool.false_eq_true, if_false, Int.reduceNeg, Int.reduceLT, if_true,
        List.length_cons, hPlace, if_neg hLow, Int.toNat_natCast, Nat.add_sub_cancel, hItem]

theorem sliceIndex_natCast (length place : Nat) : sliceIndex length place = min place length := by
  have hPlace : ¬((place : Int) < 0) := by omega
  simp [sliceIndex, hPlace]

/-- A slice up to a natural number takes so many items. -/
theorem sliceTo_natCast (items : List α) (count : Nat) :
    sliceTo items (.int count) = .ok (items.take count) := by
  have hStart : sliceIndex items.length 0 = 0 := by simp [sliceIndex]
  simp only [sliceTo, Json.int?, slice, hStart, sliceIndex_natCast, List.drop_zero, Nat.sub_zero]
  rw [← List.take_eq_take_min]

/-- The part between two places is what lies behind the first and before the second. -/
theorem slice_append {front inside back : List α} {start stop : Nat} (hStart : front.length = start)
    (hStop : front.length + inside.length = stop) :
    slice (front ++ inside ++ back) start stop = inside := by
  have hLength : (front ++ inside ++ back).length = stop + back.length := by
    simp only [List.length_append]
    omega
  have hFirst : min start (stop + back.length) = start := by omega
  have hCount : min stop (stop + back.length) - start = inside.length := by omega
  rw [slice, hLength, sliceIndex_natCast, sliceIndex_natCast, hFirst, hCount, List.append_assoc,
    List.drop_left' hStart, List.take_left]

end RepoAudit
