import Mathlib.Data.List.DropRight
import TypedSql.Proofs.Script
import TypedSql.Proofs.Text

/-!
# Chunks and runs

The semicolons of a script cut its lexemes into runs. The chunks of the script are the runs with more than
blanks and comments in them, in their order, and each of them takes the comments that stand in front of it
since the chunk before. The parts that a script is split into are the runs with their semicolons, so what
is known of the parts in front of a part is known of the runs in front of a run.
-/

namespace TypedSql.Script

open Lexer

def runs (ls : List Lexeme) : List (List Lexeme) :=
  ls.splitOnP fun l => l.token.isSemicolon

def isFilled (run : List Lexeme) : Bool :=
  run.any fun l => !l.isTrivia

/-- A run at its place in a script: it has no semicolon in it, and semicolons or the ends of the script
around it. -/
structure IsRun (before run after : List Lexeme) : Prop where
  start : ∀ l ∈ before.getLast?, l.token.isSemicolon = true
  stop : ∀ l ∈ after.head?, l.token.isSemicolon = true
  inside : ∀ l ∈ run, l.token.isSemicolon = false

structure Divided (run lead body trail : List Lexeme) : Prop where
  eq : run = lead ++ (body ++ trail)
  lead_trivia : ∀ l ∈ lead, l.isTrivia = true
  first : ∃ l ∈ body.head?, l.isTrivia = false
  last : ∃ l ∈ body.getLast?, l.isTrivia = false
  trail_trivia : ∀ l ∈ trail, l.isTrivia = true

theorem parts_ne_nil (ls : List Lexeme) : parts ls ≠ [] := by
  cases ls with
  | nil => simp [parts]
  | cons l ls =>
    rw [parts]
    split
    · simp
    · split <;> simp

theorem parts_cons_of_not_semicolon {l : Lexeme} (hl : l.token.isSemicolon = false) {ls p : List Lexeme}
    {ps : List (List Lexeme)} (h : parts ls = p :: ps) : parts (l :: ls) = (l :: p) :: ps := by
  rw [parts, if_neg (by simp [hl]), h]

theorem parts_cons_of_semicolon {l : Lexeme} (hl : l.token.isSemicolon = true) (ls : List Lexeme) :
    parts (l :: ls) = [l] :: parts ls := by
  rw [parts, if_pos hl]

theorem parts_eq_singleton {segment : List Lexeme} (h : ∀ l ∈ segment, l.token.isSemicolon = false) :
    parts segment = [segment] := by
  induction segment with
  | nil => rfl
  | cons l segment ih =>
    obtain ⟨hl, hsegment⟩ := List.forall_mem_cons.mp h
    rw [parts_cons_of_not_semicolon hl (ih hsegment)]

theorem parts_append_cons {segment : List Lexeme} (h : ∀ l ∈ segment, l.token.isSemicolon = false)
    {l : Lexeme} (hl : l.token.isSemicolon = true) (after : List Lexeme) :
    parts (segment ++ l :: after) = (segment ++ [l]) :: parts after := by
  induction segment with
  | nil => exact parts_cons_of_semicolon hl after
  | cons x segment ih =>
    obtain ⟨hx, hsegment⟩ := List.forall_mem_cons.mp h
    exact parts_cons_of_not_semicolon hx (ih hsegment)

theorem run_cons_of_not_semicolon {l : Lexeme} (hl : l.token.isSemicolon = false) (part : List Lexeme) :
    run (l :: part) = l :: run part := by
  rw [run, List.takeWhile_cons_of_pos (by simp [hl])]
  rfl

theorem run_append {segment : List Lexeme} (h : ∀ l ∈ segment, l.token.isSemicolon = false)
    {after : List Lexeme} (hafter : ∀ l ∈ after.head?, l.token.isSemicolon = true) :
    run (segment ++ after) = segment := by
  rw [run, List.takeWhile_append_of_pos fun l hl => by simp [h l hl]]
  cases after with
  | nil => simp
  | cons l after => simp [hafter l rfl]

theorem map_run_parts (ls : List Lexeme) : (parts ls).map run = runs ls := by
  induction ls with
  | nil => rfl
  | cons l ls ih =>
    rw [runs, List.splitOnP_cons_eq_if_modifyHead, ← runs, ← ih]
    cases hl : l.token.isSemicolon with
    | true =>
      rw [parts_cons_of_semicolon hl]
      simp [run, hl]
    | false =>
      obtain ⟨p, ps, hps⟩ := List.exists_cons_of_ne_nil (parts_ne_nil ls)
      rw [parts_cons_of_not_semicolon hl hps, hps]
      simp [run_cons_of_not_semicolon hl]

theorem body_eq (part : List Lexeme) :
    body part = ((run part).dropWhile Lexeme.isTrivia).rdropWhile Lexeme.isTrivia := rfl

theorem exists_run_eq (part : List Lexeme) :
    ∃ trail, run part = lead part ++ (body part ++ trail) ∧ (∀ l ∈ lead part, l.isTrivia = true) ∧
      ∀ l ∈ trail, l.isTrivia = true := by
  refine ⟨((run part).dropWhile Lexeme.isTrivia).rtakeWhile Lexeme.isTrivia, ?_,
    fun l hl => List.mem_takeWhile_imp hl, fun l hl => List.mem_rtakeWhile_imp hl⟩
  rw [body_eq, List.rdropWhile_append_rtakeWhile]
  exact List.takeWhile_append_dropWhile.symm

theorem isEmpty_body (part : List Lexeme) : (body part).isEmpty = !isFilled (run part) := by
  have hnil : body part = [] ↔ ∀ l ∈ run part, l.isTrivia = true := by
    rw [body_eq, List.rdropWhile_eq_nil_iff]
    constructor
    · intro h l hl
      rw [← List.takeWhile_append_dropWhile (p := Lexeme.isTrivia) (l := run part), List.mem_append] at hl
      rcases hl with hl | hl
      · exact List.mem_takeWhile_imp hl
      · exact h l hl
    · exact fun h l hl => h l ((List.dropWhile_sublist _).subset hl)
  rw [Bool.eq_iff_iff, List.isEmpty_iff, hnil, Bool.not_eq_true', isFilled, List.any_eq_false]
  simp

theorem divided_of_isFilled {part : List Lexeme} (h : isFilled (run part) = true) :
    ∃ trail, Divided (run part) (lead part) (body part) trail := by
  have hbody : body part ≠ [] := by
    intro hnil
    have hempty := isEmpty_body part
    rw [hnil, h] at hempty
    cases hempty
  obtain ⟨trail, hrun, hlead, htrail⟩ := exists_run_eq part
  refine ⟨trail, hrun, hlead, ?_, ?_, htrail⟩
  · have hrest : (run part).dropWhile Lexeme.isTrivia = body part ++ trail :=
      List.append_cancel_left (List.takeWhile_append_dropWhile.trans hrun)
    have hhead := List.head?_dropWhile_not Lexeme.isTrivia (run part)
    rw [hrest, List.head?_append_of_ne_nil _ hbody, List.head?_eq_some_head hbody] at hhead
    exact ⟨_, List.head?_eq_some_head hbody, hhead⟩
  · rw [List.getLast?_eq_some_getLast hbody]
    exact ⟨_, rfl, Bool.eq_false_iff.mpr (List.rdropWhile_last_not Lexeme.isTrivia _ hbody)⟩

theorem exists_parts_of_start {before : List Lexeme}
    (h : ∀ l ∈ before.getLast?, l.token.isSemicolon = true) :
    ∃ done, done.flatten = before ∧ ∀ ls, parts (before ++ ls) = done ++ parts ls := by
  induction before with
  | nil => exact ⟨[], rfl, fun ls => rfl⟩
  | cons l before ih =>
    obtain ⟨done, hflat, hdone⟩ := ih fun x hx => h x (by rw [List.getLast?_cons, hx]; rfl)
    cases hl : l.token.isSemicolon with
    | true =>
      refine ⟨[l] :: done, by rw [← hflat]; rfl, fun ls => ?_⟩
      rw [List.cons_append, parts_cons_of_semicolon hl, hdone]
      rfl
    | false =>
      have hne : before ≠ [] := by
        rintro rfl
        rw [h l rfl] at hl
        cases hl
      obtain ⟨p, ps, rfl⟩ := List.exists_cons_of_ne_nil (l := done) fun hnil => by
        rw [hnil] at hflat
        exact hne hflat.symm
      refine ⟨(l :: p) :: ps, by rw [← hflat]; rfl, fun ls => ?_⟩
      rw [List.cons_append, parts_cons_of_not_semicolon hl (hdone ls)]
      rfl

theorem exists_parts_of_run {segment after : List Lexeme}
    (hinside : ∀ l ∈ segment, l.token.isSemicolon = false)
    (hstop : ∀ l ∈ after.head?, l.token.isSemicolon = true) :
    ∃ part rest, parts (segment ++ after) = part :: rest ∧ run part = segment := by
  cases after with
  | nil =>
    have hrun := run_append hinside hstop
    rw [List.append_nil] at hrun ⊢
    exact ⟨segment, [], parts_eq_singleton hinside, hrun⟩
  | cons l after =>
    have hl := hstop l rfl
    exact ⟨segment ++ [l], parts after, parts_append_cons hinside hl after,
      run_append hinside (by simpa using hl)⟩

theorem exists_parts_of_isRun {before segment after : List Lexeme} (h : IsRun before segment after) :
    ∃ done part rest, parts (before ++ (segment ++ after)) = done ++ part :: rest ∧ run part = segment ∧
      done.flatten = before ∧ runs before = done.map run ++ [[]] := by
  obtain ⟨done, hflat, hdone⟩ := exists_parts_of_start h.start
  obtain ⟨part, rest, hpart, hrun⟩ := exists_parts_of_run h.inside h.stop
  refine ⟨done, part, rest, by rw [hdone, hpart], hrun, hflat, ?_⟩
  have hruns := map_run_parts (before ++ [])
  rw [hdone, List.map_append, List.append_nil] at hruns
  exact hruns.symm

def pendingBehind (pending : List Text) (done : List (List Lexeme)) : List Text :=
  done.foldl (fun pending part => if (body part).isEmpty then pending ++ comments (lead part) else []) pending

theorem length_chunks (location line : Nat) (pending : List Text) (ps : List (List Lexeme)) :
    (chunks location line pending ps).length = (ps.map run).countP isFilled := by
  induction ps generalizing location line pending with
  | nil => rfl
  | cons part ps ih =>
    rw [chunks, isEmpty_body, List.map_cons, List.countP_cons]
    cases isFilled (run part) <;> simp [ih]

theorem chunks_getElem? {part : List Lexeme} (hpart : isFilled (run part) = true) (location line : Nat)
    (pending : List Text) (done rest : List (List Lexeme)) :
    (chunks location line pending (done ++ part :: rest))[(done.map run).countP isFilled]? =
      some (chunk (location + (Lexeme.cover done.flatten).bytes) (line + (Lexeme.cover done.flatten).newlines)
        (pendingBehind pending done) part) := by
  induction done generalizing location line pending with
  | nil =>
    rw [List.nil_append, chunks, isEmpty_body, hpart]
    rfl
  | cons first done ih =>
    have hcover : Lexeme.cover (first :: done).flatten = Lexeme.cover first ++ Lexeme.cover done.flatten :=
      List.flatMap_append
    rw [List.cons_append, chunks, pendingBehind, List.foldl_cons, ← pendingBehind, isEmpty_body, hcover,
      Text.bytes_append, Text.newlines_append, ← Nat.add_assoc, ← Nat.add_assoc, List.map_cons]
    cases hfirst : isFilled (run first) with
    | false => simpa [hfirst] using ih _ _ _
    | true => simpa [hfirst] using ih _ _ _

theorem lead_of_not_isFilled {part : List Lexeme} (h : isFilled (run part) = false) :
    lead part = run part := by
  rw [lead, List.takeWhile_eq_self_iff]
  simpa [isFilled] using h

theorem comments_append (a b : List Lexeme) : comments (a ++ b) = comments a ++ comments b := by
  rw [comments, List.filterMap_append, List.map_append]
  rfl

theorem pendingBehind_nil (done : List (List Lexeme)) :
    pendingBehind [] done = comments ((done.map run).rtakeWhile fun r => !isFilled r).flatten := by
  induction done using List.reverseRecOn with
  | nil => rfl
  | append_singleton done part ih =>
    rw [pendingBehind] at ih
    rw [pendingBehind, List.foldl_append, ih, List.foldl_cons, List.foldl_nil, isEmpty_body, List.map_append,
      List.map_singleton, List.rtakeWhile_concat]
    cases hpart : isFilled (run part) with
    | false => simp [comments_append, lead_of_not_isFilled hpart]
    | true => simp [comments]

/-- The chunks of a script are its filled runs. The chunk of a run comes behind those of the filled runs in
front of it. It stands where the first significant lexeme of the run stands, it has the text from there
to the end of the last one, and it has the comments in front of it in the run and those of the runs before
it that are not filled, back to the filled run before. -/
theorem split_eq_runs {t : Text} {ls : List Lexeme} (h : lex t = some ls) :
    Lexeme.cover ls = t ∧
      ∃ cs, split t = .ok cs ∧ cs.length = (runs ls).countP isFilled ∧
        ∀ before segment after, ls = before ++ (segment ++ after) → IsRun before segment after →
          isFilled segment = true →
          ∃ c lead body trail, cs[(runs before).countP isFilled]? = some c ∧
            Divided segment lead body trail ∧
            c.location = (Lexeme.cover (before ++ lead)).bytes ∧
            c.line = 1 + (Lexeme.cover (before ++ lead)).newlines ∧
            c.text = Lexeme.cover body ∧
            c.comments = comments (((runs before).rtakeWhile fun r => !isFilled r).flatten ++ lead) := by
  refine ⟨(lex_eq_some_iff.mp h).2, chunks 0 1 [] (parts ls), ?_, ?_, ?_⟩
  · rw [split, h]
    rfl
  · rw [length_chunks, map_run_parts]
  · rintro before segment after rfl hrun hfilled
    obtain ⟨done, part, rest, hparts, rfl, hflat, hruns⟩ := exists_parts_of_isRun hrun
    have hcount : (runs before).countP isFilled = (done.map run).countP isFilled := by
      rw [hruns, List.countP_append]
      rfl
    have hpending : ((runs before).rtakeWhile fun r => !isFilled r).flatten =
        ((done.map run).rtakeWhile fun r => !isFilled r).flatten := by
      rw [hruns, List.rtakeWhile_concat_pos _ _ _ rfl, List.flatten_append]
      exact List.append_nil _
    obtain ⟨trail, hdivided⟩ := divided_of_isFilled hfilled
    have hget := chunks_getElem? hfilled 0 1 [] done rest
    rw [← hparts, ← hcount, hflat, pendingBehind_nil, ← hpending] at hget
    refine ⟨_, lead part, body part, trail, hget, hdivided, ?_, ?_, rfl, ?_⟩
    · rw [Lexeme.cover_append, Text.bytes_append, chunk, Nat.zero_add]
    · rw [Lexeme.cover_append, Text.newlines_append, ← Nat.add_assoc]
      rfl
    · rw [comments_append]
      rfl

theorem split_eq_runs_carried :
    let t := "SELECT 'é'; -- one\n; /* two */ SELECT 2 -- three\n;".toList
    ∃ before segment after, lex t = some (before ++ (segment ++ after)) ∧ IsRun before segment after ∧
      isFilled segment = true ∧ (runs before).countP isFilled = 1 ∧
      comments ((runs before).rtakeWhile fun r => !isFilled r).flatten = ["one".toList] ∧
      ∃ cs c lead body trail, split t = .ok cs ∧ cs[1]? = some c ∧ Divided segment lead body trail ∧
        c.location = (Lexeme.cover (before ++ lead)).bytes ∧
        c.comments = "one".toList :: comments lead := by
  intro t
  let before := (lex "SELECT 'é'; -- one\n;".toList).getD []
  let segment := (lex " /* two */ SELECT 2 -- three\n".toList).getD []
  have hlex : lex t = some (before ++ (segment ++ (lex ";".toList).getD [])) := by decide +kernel
  have hrun : IsRun before segment ((lex ";".toList).getD []) :=
    ⟨by decide +kernel, by decide +kernel, by decide +kernel⟩
  have hfilled : isFilled segment = true := by decide +kernel
  have hcount : (runs before).countP isFilled = 1 := by decide +kernel
  have hcomments : comments ((runs before).rtakeWhile fun r => !isFilled r).flatten = ["one".toList] := by
    decide +kernel
  obtain ⟨-, cs, hsplit, -, hchunks⟩ := split_eq_runs hlex
  obtain ⟨c, lead, body, trail, hget, hdivided, hlocation, -, -, hc⟩ := hchunks _ _ _ rfl hrun hfilled
  rw [comments_append, hcomments] at hc
  rw [hcount] at hget
  exact ⟨before, segment, _, hlex, hrun, hfilled, hcount, hcomments, cs, c, lead, body, trail, hsplit, hget,
    hdivided, hlocation, hc⟩

end TypedSql.Script
