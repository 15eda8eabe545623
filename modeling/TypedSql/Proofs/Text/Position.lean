import Mathlib.Data.List.DropRight
import Mathlib.Data.List.Induction
import TypedSql.Proofs.Text
import TypedSql.Text.Position

/-!
# Positions as places

The line of a position is found among the starts of the lines, and its column is counted from there. For the
position that is reached by reading a part of a text, this leads back to the byte where the part ends, also in an
empty line and at the end of the text.
-/

namespace TypedSql.Text

def lastLine (t : Text) : Text :=
  t.rtakeWhile (· ≠ '\n')

def endPosition (t : Text) : Position :=
  ⟨1 + t.newlines, 1 + t.lastLine.length⟩

theorem lastLine_concat (t : Text) (c : Char) :
    (t ++ [c]).lastLine = if c = '\n' then [] else t.lastLine ++ [c] := by
  rw [lastLine, List.rtakeWhile_concat]
  by_cases hc : c = '\n'
  · simp [hc]
  · simp [hc, lastLine]

theorem advance_start (t : Text) : Position.start.advance t = t.endPosition := by
  induction t using List.reverseRecOn with
  | nil => rfl
  | append_singleton t c ih =>
    have hstep : Position.start.advance (t ++ [c]) = (Position.start.advance t).next c :=
      List.foldl_concat ..
    rw [hstep, ih, endPosition, endPosition, Position.next, newlines_append, lastLine_concat]
    by_cases hc : c = '\n'
    · simp [hc, newlines, Nat.add_assoc]
    · simp [hc, newlines, Nat.add_assoc]

theorem lineStarts_go_append (n : Nat) (a b : Text) :
    (lineStarts.go n (a ++ b)).drop a.newlines = lineStarts.go (n + a.bytes) b := by
  induction a generalizing n with
  | nil => rfl
  | cons c a ih =>
    rw [List.cons_append, lineStarts.go, bytes, ← Nat.add_assoc, ← ih]
    split
    · rename_i hc
      simp [newlines, hc]
    · rename_i hc
      simp [newlines, hc]

theorem exists_append_lastLine (a : Text) :
    ∃ before, a = before ++ a.lastLine ∧ before.newlines = a.newlines ∧
      (before = [] ∨ ∃ b, before = b ++ ['\n']) := by
  induction a using List.reverseRecOn with
  | nil => exact ⟨[], rfl, rfl, .inl rfl⟩
  | append_singleton a c ih =>
    rw [lastLine_concat, newlines_append]
    split
    · rename_i hc
      rw [hc]
      exact ⟨a ++ ['\n'], by simp, newlines_append .., .inr ⟨a, rfl⟩⟩
    · rename_i hc
      obtain ⟨before, ha, hcount, hends⟩ := ih
      have hnone : newlines [c] = 0 := by simp [newlines, hc]
      refine ⟨before, ?_, by rw [hcount, hnone, Nat.add_zero], hends⟩
      rw [← List.append_assoc, ← ha]

theorem lineStarts_getElem? {before : Text} (h : before = [] ∨ ∃ b, before = b ++ ['\n']) (rest : Text) :
    (lineStarts (before ++ rest))[before.newlines]? = some before.bytes := by
  obtain rfl | ⟨b, rfl⟩ := h
  · rfl
  · have hcount : (b ++ ['\n']).newlines = b.newlines + 1 := newlines_append ..
    have hstarts := lineStarts_go_append 0 b ('\n' :: rest)
    rw [Nat.zero_add, lineStarts.go] at hstarts
    rw [lineStarts, hcount, List.getElem?_cons_succ, List.append_assoc, ← List.head?_drop]
    change ((lineStarts.go 0 (b ++ '\n' :: rest)).drop b.newlines).head? = _
    rw [hstarts, bytes_append]
    rfl

theorem offset_endPosition (a b : Text) : (LineIndex.ofText (a ++ b)).offset a.endPosition = a.bytes := by
  obtain ⟨before, ha, hcount, hends⟩ := exists_append_lastLine a
  have hsplit : a ++ b = before ++ (a.lastLine ++ b) := by rw [← List.append_assoc, ← ha]
  have hbytes : a.bytes = before.bytes + a.lastLine.bytes := by rw [← bytes_append, ← ha]
  unfold LineIndex.offset LineIndex.ofText endPosition
  dsimp only
  rw [Nat.add_sub_cancel_left, Nat.add_sub_cancel_left, ← hcount, hsplit, lineStarts_getElem? hends]
  dsimp only
  rw [splitAtByte?_append]
  dsimp only
  rw [List.drop_left, List.take_left]
  split
  · rename_i hend
    rw [List.isEmpty_iff.mp hend, List.append_nil, ← ha]
  · exact hbytes.symm

end TypedSql.Text
