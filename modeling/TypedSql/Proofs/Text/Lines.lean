import Mathlib.Data.List.Basic
import TypedSql.Text.Basic

/-!
# Lines of a text

Lines that are written one below the other are read back as they are, as long as no line holds the end of a
line. An empty line at the end is not seen: the newline in front of it ends the line before.
-/

namespace TypedSql.Text

/-- A text that can stand as one line: it has no newline, and no carriage return that would belong to the
newline behind it. -/
structure IsLine (l : Text) : Prop where
  newline : '\n' ∉ l
  carriage : l.getLast? ≠ some '\r'

instance (l : Text) : Decidable (IsLine l) :=
  decidable_of_iff ('\n' ∉ l ∧ l.getLast? ≠ some '\r') ⟨fun h => ⟨h.1, h.2⟩, fun h => ⟨h.newline, h.carriage⟩⟩

theorem IsLine.tail {c : Char} {l : Text} (h : IsLine (c :: l)) : IsLine l := by
  refine ⟨fun hmem => h.newline (List.mem_cons_of_mem c hmem), fun hlast => h.carriage ?_⟩
  rw [List.getLast?_cons, hlast]
  rfl

theorem lines_newline (t : Text) : lines ('\n' :: t) = [] :: lines t := by
  rw [lines]

theorem lines_cons {c : Char} {t : Text} (hc : c ≠ '\n') (ht : c = '\r' → t.head? ≠ some '\n') :
    lines (c :: t) = (c :: (lines t).headD []) :: (lines t).tail := by
  rw [lines]
  · split <;> simp_all
  · exact hc
  · rintro u rfl rfl
    exact ht rfl rfl

theorem lines_line_append {l : Text} (h : IsLine l) (t : Text) : lines (l ++ '\n' :: t) = l :: lines t := by
  induction l with
  | nil => exact lines_newline t
  | cons c l ih =>
    have hc : c ≠ '\n' := fun hc => h.newline (hc ▸ List.mem_cons_self)
    rw [List.cons_append, lines_cons hc, ih h.tail]
    · rfl
    · rintro rfl
      cases l with
      | nil => exact absurd rfl h.carriage
      | cons d l =>
        have hd : d ≠ '\n' := fun hd => h.tail.newline (hd ▸ List.mem_cons_self)
        simpa using hd

theorem lines_of_newline {l : Text} (h : '\n' ∉ l) (hne : l ≠ []) : lines l = [l] := by
  induction l with
  | nil => exact absurd rfl hne
  | cons c l ih =>
    obtain ⟨hc, hl⟩ : c ≠ '\n' ∧ '\n' ∉ l := by simpa [eq_comm] using h
    rw [lines_cons hc]
    · cases l with
      | nil => rfl
      | cons d l => rw [ih hl (List.cons_ne_nil d l)]; rfl
    · intro _ hhead
      exact hl (List.mem_of_mem_head? hhead)

theorem newline_of_mem_lines {t l : Text} (h : l ∈ lines t) : '\n' ∉ l := by
  fun_induction lines t generalizing l with
  | case1 => cases h
  | case2 t ih | case3 t ih =>
    rcases List.mem_cons.mp h with rfl | h
    · exact List.not_mem_nil
    · exact ih h
  | case4 c t hnewline =>
    obtain rfl := List.mem_singleton.mp h
    simpa [eq_comm] using hnewline
  | case5 c t hnewline _ m ms hlines ih =>
    rw [hlines] at ih
    rcases List.mem_cons.mp h with rfl | h
    · simpa [eq_comm] using ⟨hnewline, ih List.mem_cons_self⟩
    · exact ih (List.mem_cons_of_mem m h)

theorem unlines_singleton (l : Text) : unlines [l] = l := by
  simp [unlines]

theorem unlines_cons {l : Text} {ls : List Text} (h : ls ≠ []) : unlines (l :: ls) = l ++ '\n' :: unlines ls := by
  obtain ⟨m, ls, rfl⟩ := List.exists_cons_of_ne_nil h
  simp [unlines]

theorem lines_unlines_append {ls ms : List Text} (h : ∀ l ∈ ls, IsLine l) (hms : ms ≠ []) :
    lines (unlines (ls ++ ms)) = ls ++ lines (unlines ms) := by
  induction ls with
  | nil => rfl
  | cons l ls ih =>
    obtain ⟨hl, hls⟩ := List.forall_mem_cons.mp h
    rw [List.cons_append, unlines_cons (by simp [hms]), lines_line_append hl, ih hls, List.cons_append]

theorem lines_unlines_concat_nil {ls : List Text} (h : ∀ l ∈ ls, IsLine l) : lines (unlines (ls ++ [[]])) = ls := by
  rw [lines_unlines_append h (List.cons_ne_nil _ _), unlines_singleton, lines, List.append_nil]

theorem lines_unlines {ls : List Text} (h : ∀ l ∈ ls, IsLine l) (hlast : ls.getLast? ≠ some []) :
    lines (unlines ls) = ls := by
  rcases List.eq_nil_or_concat ls with rfl | ⟨ls, l, rfl⟩
  · rfl
  · have hne : l ≠ [] := by simpa using hlast
    have hl : IsLine l := h l (by simp)
    rw [List.concat_eq_append, lines_unlines_append (fun m hm => h m (by simp [hm])) (List.cons_ne_nil _ _),
      unlines_singleton, lines_of_newline hl.newline hne]

theorem unlines_concat_nil {ls : List Text} (h : ls ≠ []) : unlines (ls ++ [[]]) = unlines ls ++ ['\n'] := by
  induction ls with
  | nil => exact absurd rfl h
  | cons l ls ih =>
    rw [List.cons_append, unlines_cons (by simp)]
    cases ls with
    | nil => simp [unlines]
    | cons m ls =>
      rw [ih (List.cons_ne_nil m ls), unlines_cons (List.cons_ne_nil m ls), List.append_assoc, List.cons_append]

end TypedSql.Text
