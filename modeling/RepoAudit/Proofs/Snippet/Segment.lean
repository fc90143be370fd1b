import Mathlib.Data.List.DropRight
import RepoAudit.Proofs.Text.Search
import RepoAudit.Snippet

/-!
Positions in a source and the segments between them. A position tells how many line feeds stand
before it, and how many bytes stand on its line before it. Main statements: the segment of a valid
span is what stands in the source between its two positions, and the segment of a span within
another is a part of the segment of that.
-/
namespace RepoAudit

open Syntax

/-- The characters behind the last line feed. -/
def lastLine (front : List Char) : List Char := front.rtakeWhile (· != '\n')

/-- How characters are cut into the lines that are complete and the start of another. -/
structure CutAtLine (front : List Char) (complete : List (List Char)) (last : List Char) :
    Prop where
  notMem : '\n' ∉ last
  lastLine_eq : lastLine front = last
  eq_append : front = complete.flatten ++ last
  length_eq : complete.length = front.count '\n'
  lines_append : ∀ back, sourceLines (front ++ back) = complete ++ sourceLines (last ++ back)

namespace Syntax

def Position.behind (front : List Char) : Position :=
  ⟨front.count '\n' + 1, (Utf8.encode (lastLine front)).length⟩

/-- Positions are ordered by their lines, and on a line by their columns. -/
instance : LE Position := ⟨fun p q => p.line < q.line ∨ p.line = q.line ∧ p.column ≤ q.column⟩

instance (p q : Position) : Decidable (p ≤ q) := inferInstanceAs (Decidable (_ ∨ _ ∧ _))

/-- A position of a source: it is on one of the lines, and not inside a character. -/
def Position.Valid (source : List Char) (p : Position) : Prop :=
  p.line ≤ (sourceLines source).length ∧ ∃ front, front <+: source ∧ p = .behind front

/-- A valid position stands behind some of the characters, on a line that exists. -/
theorem Position.valid_iff {source : List Char} {p : Position} : p.Valid source ↔
    p.line ≤ (sourceLines source).length ∧ ∃ front ∈ source.inits, p = .behind front := by
  simp only [Position.Valid, List.mem_inits]

instance (source : List Char) (p : Position) : Decidable (p.Valid source) :=
  decidable_of_iff' _ Position.valid_iff

namespace Span

/-- A stretch between two positions of a source. -/
structure Valid (source : List Char) (span : Span) : Prop where
  start : span.start.Valid source
  stop : span.stop.Valid source
  ordered : span.start ≤ span.stop

instance (source : List Char) (span : Span) : Decidable (span.Valid source) :=
  decidable_of_iff (span.start.Valid source ∧ span.stop.Valid source ∧ span.start ≤ span.stop)
    ⟨fun h => ⟨h.1, h.2.1, h.2.2⟩, fun h => ⟨h.start, h.stop, h.ordered⟩⟩

/-- A stretch that lies within another. -/
def Within (inner outer : Span) : Prop := outer.start ≤ inner.start ∧ inner.stop ≤ outer.stop

instance (inner outer : Span) : Decidable (inner.Within outer) :=
  inferInstanceAs (Decidable (_ ∧ _))

/-- What a stretch of a source holds: the characters between its positions. -/
def Holds (source : List Char) (span : Span) (content : List Char) : Prop :=
  ∃ front back, source = front ++ content ++ back ∧ span.start = .behind front ∧
    span.stop = .behind (front ++ content)

end Span

end Syntax

variable {source front back content line last : List Char}

section Bytes

theorem Utf8.encodeChar_ne_nil (c : Char) : Utf8.encodeChar c ≠ [] := by
  unfold Utf8.encodeChar
  dsimp only
  split
  · simp
  · split
    · simp
    · split <;> simp

theorem Utf8.length_encode_append (front back : List Char) :
    (Utf8.encode (front ++ back)).length =
      (Utf8.encode front).length + (Utf8.encode back).length := by
  rw [Utf8.encode, List.flatMap_append, List.length_append]
  rfl

theorem Utf8.length_encode_cons (c : Char) (rest : List Char) :
    (Utf8.encode (c :: rest)).length =
      (Utf8.encodeChar c).length + (Utf8.encode rest).length := by
  rw [Utf8.encode, List.flatMap_cons, List.length_append]
  rfl

/-- Characters take at least one byte. -/
theorem Utf8.length_encode_pos (h : front ≠ []) : 0 < (Utf8.encode front).length := by
  obtain ⟨c, rest, rfl⟩ := List.exists_cons_of_ne_nil h
  rw [Utf8.length_encode_cons]
  exact Nat.add_pos_left (List.length_pos_iff.2 (Utf8.encodeChar_ne_nil c)) _

/-- A line is cut behind the characters whose bytes are counted. -/
theorem splitBytes_append (front back : List Char) :
    splitBytes (Utf8.encode front).length (front ++ back) = (front, back) := by
  induction front with
  | nil => simp [Utf8.encode, splitBytes]
  | cons c front ih =>
      have hSome := List.length_pos_iff.2 (Utf8.encodeChar_ne_nil c)
      rw [Utf8.length_encode_cons, List.cons_append, splitBytes, Nat.add_sub_cancel_left, ih]
      omega

end Bytes

section Lines

/-- All lines but the last end with a line feed, and an empty last one does not count. -/
theorem sourceLines_eq (source : List Char) : sourceLines source =
    ((splitAll '\n' source).dropLast.map fun piece => piece ++ ['\n']) ++
      ((splitAll '\n' source).getLast?.filter fun piece => !piece.isEmpty).toList := by
  unfold sourceLines
  split
  · next hNone => exact absurd hNone (splitAll_ne_nil _ _)
  · rfl

/-- A line feed parts the lines before it from those behind it. -/
theorem sourceLines_append (front back : List Char) :
    sourceLines (front ++ '\n' :: back) =
      ((splitAll '\n' front).map fun piece => piece ++ ['\n']) ++ sourceLines back := by
  rw [sourceLines_eq, sourceLines_eq, splitAll_append,
    List.dropLast_append_of_ne_nil (splitAll_ne_nil _ _),
    List.getLast?_append_of_ne_nil _ (splitAll_ne_nil _ _), List.map_append, List.append_assoc]

/-- The first line ends with the first line feed. -/
theorem sourceLines_line (h : '\n' ∉ line) (back : List Char) :
    sourceLines (line ++ '\n' :: back) = (line ++ ['\n']) :: sourceLines back := by
  rw [sourceLines_append, splitAll_of_not_mem h]
  rfl

/-- The first line of a source starts with what stands before any line feed. -/
theorem exists_sourceLines_cons (h : '\n' ∉ front) (hSome : sourceLines (front ++ back) ≠ []) :
    ∃ more rest, sourceLines (front ++ back) = (front ++ more) :: rest := by
  by_cases hFeed : '\n' ∈ back
  · obtain ⟨more, rest, rfl, hMore⟩ := List.eq_append_cons_of_mem hFeed
    refine ⟨more ++ ['\n'], sourceLines rest, ?_⟩
    rw [← List.append_assoc, sourceLines_line (by simp [h, hMore]), List.append_assoc]
  · refine ⟨back, [], ?_⟩
    have hLine : '\n' ∉ front ++ back := by simp [h, hFeed]
    rw [sourceLines_eq, splitAll_of_not_mem hLine] at hSome ⊢
    cases hText : front ++ back with
    | nil => simp [hText] at hSome
    | cons c rest => simp

theorem lastLine_append (front : List Char) (h : '\n' ∉ back) :
    lastLine (front ++ back) = lastLine front ++ back := by
  have hAll : ∀ c ∈ back.reverse, (c != '\n') = true := by
    intro c hMember
    rw [bne_iff_ne]
    rintro rfl
    exact h (List.mem_reverse.1 hMember)
  rw [lastLine, List.rtakeWhile, List.reverse_append, List.takeWhile_append_of_pos hAll,
    List.reverse_append, List.reverse_reverse]
  rfl

theorem lastLine_append_lineFeed (front back : List Char) :
    lastLine (front ++ '\n' :: back) = lastLine back := by
  have hStops : ('\n' :: front.reverse).takeWhile (· != '\n') = [] := rfl
  have hReverse : (front ++ '\n' :: back).reverse = back.reverse ++ '\n' :: front.reverse := by simp
  rw [lastLine, List.rtakeWhile, hReverse, List.takeWhile_append, hStops, List.append_nil]
  split
  · next hAll => rw [← (List.takeWhile_prefix _).eq_of_length hAll]; rfl
  · rfl

theorem lastLine_of_not_mem (h : '\n' ∉ line) : lastLine line = line := lastLine_append [] h

theorem flatten_concat_lineFeed {pieces : List (List Char)} (h : pieces ≠ []) :
    (pieces.map fun piece => piece ++ ['\n']).flatten = joinWith ['\n'] pieces ++ ['\n'] := by
  induction pieces with
  | nil => exact absurd rfl h
  | cons piece pieces ih =>
      cases pieces with
      | nil => simp [joinWith]
      | cons next pieces =>
          rw [List.map_cons, List.flatten_cons, ih (List.cons_ne_nil _ _), joinWith,
            List.append_assoc (piece ++ _)]

/-- Any characters can be cut behind their last line feed. -/
theorem exists_cutAtLine (front : List Char) : ∃ complete last, CutAtLine front complete last := by
  cases hSplit : splitLast? '\n' front with
  | none =>
      have hLine := splitLast?_eq_none_iff.1 hSplit
      refine ⟨[], front, hLine, lastLine_of_not_mem hLine, rfl, ?_, fun back => rfl⟩
      exact (List.count_eq_zero.2 hLine).symm
  | some cut =>
      obtain ⟨before, last⟩ := cut
      obtain ⟨rfl, hLast⟩ := splitLast?_eq_some_iff.1 hSplit
      refine ⟨(splitAll '\n' before).map fun piece => piece ++ ['\n'], last, hLast, ?_, ?_, ?_, ?_⟩
      · rw [lastLine_append_lineFeed, lastLine_of_not_mem hLast]
      · rw [flatten_concat_lineFeed (splitAll_ne_nil _ _), joinWith_splitAll, List.append_assoc]
        rfl
      · rw [List.length_map, length_splitAll, List.count_append, List.count_cons_self,
          List.count_eq_zero.2 hLast]
      · intro back
        rw [List.append_assoc, List.cons_append, sourceLines_append]

end Lines

section Segments

variable {span : Span}

/-- A segment on one line. -/
theorem segment_of_line {lines : List (List Char)}
    (hCovered : (lines.drop (span.start.line - 1)).take (span.stop.line - span.start.line + 1) =
      [last ++ content ++ back])
    (hStart : span.start.column = (Utf8.encode last).length)
    (hStop : span.stop.column = (Utf8.encode (last ++ content)).length) :
    span.segment lines = content := by
  simp only [Span.segment, hCovered, hStart, hStop, List.dropLast_singleton,
    List.getLast?_singleton, splitBytes_append]

/-- A segment on several lines. -/
theorem segment_of_lines {lines middle : List (List Char)} {first tail : List Char}
    (hCovered : (lines.drop (span.start.line - 1)).take (span.stop.line - span.start.line + 1) =
      (last ++ first) :: (middle ++ [tail ++ back]))
    (hStart : span.start.column = (Utf8.encode last).length)
    (hStop : span.stop.column = (Utf8.encode tail).length) :
    span.segment lines = first ++ middle.flatten ++ tail := by
  have hFront : ((last ++ first) :: (middle ++ [tail ++ back])).dropLast =
      (last ++ first) :: middle := by
    simp [List.dropLast_cons_of_ne_nil]
  have hLast : ((last ++ first) :: (middle ++ [tail ++ back])).getLast? = some (tail ++ back) := by
    simp [List.getLast?_cons]
  simp only [Span.segment, hCovered, hStart, hStop, hFront, hLast, splitBytes_append]

/-- The segment between two positions of a source is what stands there. -/
theorem segment_between (hStart : span.start = .behind front)
    (hStop : span.stop = .behind (front ++ content))
    (hLine : span.stop.line ≤ (sourceLines (front ++ content ++ back)).length) :
    span.segment (sourceLines (front ++ content ++ back)) = content := by
  obtain ⟨complete, last, hCut⟩ := exists_cutAtLine front
  have hDrop : (sourceLines (front ++ content ++ back)).drop (span.start.line - 1) =
      sourceLines (last ++ content ++ back) := by
    rw [hStart, Position.behind, Nat.add_sub_cancel, List.append_assoc, hCut.lines_append,
      ← hCut.length_eq, List.drop_left, List.append_assoc]
  have hCount : span.stop.line - span.start.line = content.count '\n' := by
    simp only [hStart, hStop, Position.behind, List.count_append]
    omega
  have hColumn : span.start.column = (Utf8.encode last).length := by
    rw [hStart, Position.behind, hCut.lastLine_eq]
  have hLeft : content.count '\n' < (sourceLines (last ++ content ++ back)).length := by
    rw [List.append_assoc, hCut.lines_append, List.length_append, hCut.length_eq, hStop] at hLine
    simp only [Position.behind, List.count_append] at hLine
    rw [List.append_assoc]
    omega
  by_cases hFeed : '\n' ∈ content
  · obtain ⟨first, rest, rfl, hFirst⟩ := List.eq_append_cons_of_mem hFeed
    obtain ⟨middle, tail, hRest⟩ := exists_cutAtLine rest
    have hLines : sourceLines (last ++ (first ++ '\n' :: rest) ++ back) =
        (last ++ (first ++ ['\n'])) :: (middle ++ sourceLines (tail ++ back)) := by
      have hSource : last ++ (first ++ '\n' :: rest) ++ back =
          (last ++ first) ++ '\n' :: (rest ++ back) := by simp
      rw [hSource, sourceLines_line (by simp [hCut.notMem, hFirst]), hRest.lines_append,
        List.append_assoc]
    have hMiddle : (first ++ '\n' :: rest).count '\n' = middle.length + 1 := by
      rw [List.count_append, List.count_eq_zero.2 hFirst, List.count_cons_self, hRest.length_eq,
        Nat.zero_add]
    have hTail : sourceLines (tail ++ back) ≠ [] := by
      rw [hLines, hMiddle] at hLeft
      intro hNone
      simp [hNone] at hLeft
    obtain ⟨more, others, hMore⟩ := exists_sourceLines_cons hRest.notMem hTail
    have hStopColumn : span.stop.column = (Utf8.encode tail).length := by
      rw [hStop, Position.behind, ← List.append_assoc, lastLine_append_lineFeed, hRest.lastLine_eq]
    have hCovered : ((sourceLines (front ++ (first ++ '\n' :: rest) ++ back)).drop
        (span.start.line - 1)).take (span.stop.line - span.start.line + 1) =
          (last ++ (first ++ ['\n'])) :: (middle ++ [tail ++ more]) := by
      rw [hDrop, hCount, hMiddle, hLines, hMore, List.take_succ_cons, List.take_append,
        List.take_of_length_le (Nat.le_succ _), Nat.add_sub_cancel_left]
      rfl
    rw [segment_of_lines hCovered hColumn hStopColumn, List.append_assoc, ← hRest.eq_append,
      List.append_assoc, List.singleton_append]
  · rw [List.count_eq_zero.2 hFeed] at hCount hLeft
    have hHere : '\n' ∉ last ++ content := by simp [hCut.notMem, hFeed]
    obtain ⟨more, others, hMore⟩ := exists_sourceLines_cons hHere (List.ne_nil_of_length_pos hLeft)
    have hCovered : ((sourceLines (front ++ content ++ back)).drop (span.start.line - 1)).take
        (span.stop.line - span.start.line + 1) = [last ++ content ++ more] := by
      rw [hDrop, hCount, hMore]
      rfl
    refine segment_of_line hCovered hColumn ?_
    rw [hStop, Position.behind, lastLine_append _ hFeed, hCut.lastLine_eq]

end Segments

section Order

/-- Positions of a source are ordered like what stands before them. -/
theorem prefix_of_behind_le {other : List Char} (hFront : front <+: source)
    (hOther : other <+: source) (h : Position.behind front ≤ .behind other) : front <+: other := by
  rcases List.prefix_or_prefix_of_prefix hFront hOther with hPrefix | ⟨more, rfl⟩
  · exact hPrefix
  · by_cases hMore : more = []
    · rw [hMore, List.append_nil]
    · exfalso
      by_cases hFeed : '\n' ∈ more
      · have hCount := List.count_pos_iff.2 hFeed
        rcases h with hLine | ⟨hLine, -⟩ <;>
          simp only [Position.behind, List.count_append] at hLine <;> omega
      · have hBytes := Utf8.length_encode_pos hMore
        rcases h with hLine | ⟨-, hColumn⟩
        · simp only [Position.behind, List.count_append, List.count_eq_zero.2 hFeed] at hLine
          omega
        · simp only [Position.behind, lastLine_append _ hFeed, Utf8.length_encode_append] at hColumn
          omega

/-- The segment of a valid span is what stands between its positions. -/
theorem Syntax.Span.Valid.holds {span : Span} (h : span.Valid source) :
    span.Holds source (span.segment (sourceLines source)) := by
  obtain ⟨-, front, hFront, hStart⟩ := h.start
  obtain ⟨hLine, other, hOther, hStop⟩ := h.stop
  have hOrder := h.ordered
  rw [hStart, hStop] at hOrder
  obtain ⟨content, rfl⟩ := prefix_of_behind_le hFront hOther hOrder
  obtain ⟨back, rfl⟩ := hOther
  refine ⟨front, back, ?_, hStart, ?_⟩
  · rw [segment_between hStart hStop hLine]
  · rw [segment_between hStart hStop hLine, hStop]

namespace Syntax.Span

variable {span inner outer : Span} {part whole : List Char}

/-- A span goes over as many lines as its content has line feeds. -/
theorem Holds.line_add_count (h : span.Holds source content) :
    span.start.line + content.count '\n' = span.stop.line := by
  obtain ⟨front, back, -, hStart, hStop⟩ := h
  simp only [hStart, hStop, Position.behind, List.count_append]
  omega

/-- What a span within another holds is a part of what that holds. -/
theorem Holds.isInfix (hInner : inner.Holds source part) (hOuter : outer.Holds source whole)
    (h : inner.Within outer) : part <:+: whole := by
  obtain ⟨front, back, hSource, hStart, hStop⟩ := hInner
  obtain ⟨front', back', hSource', hStart', hStop'⟩ := hOuter
  obtain ⟨hBegins, hEnds⟩ := h
  rw [hStart, hStart'] at hBegins
  rw [hStop, hStop'] at hEnds
  have hWhole : front' ++ whole <+: source := ⟨back', hSource'.symm⟩
  have hPart : front ++ part <+: source := ⟨back, hSource.symm⟩
  obtain ⟨before, rfl⟩ := prefix_of_behind_le ((List.prefix_append _ _).trans hWhole)
    ((List.prefix_append _ _).trans hPart) hBegins
  have hReach := prefix_of_behind_le hPart hWhole hEnds
  rw [List.append_assoc, List.prefix_append_right_inj] at hReach
  exact (List.suffix_append before part).isInfix.trans hReach.isInfix

end Syntax.Span

end Order

end RepoAudit
