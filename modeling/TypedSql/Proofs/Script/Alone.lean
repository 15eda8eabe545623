import TypedSql.Project
import TypedSql.Proofs.Script.Runs
import TypedSql.Proofs.Site.Segment

/-!
# Chunks by themselves

A chunk that is taken out of its script stays what it is. Split by itself it is one chunk again, at the
beginning of its text and without comments. Its sites are those that the whole script has there, and it is
analysed as it is in the script.
-/

namespace TypedSql.Script

open Lexer Sites

theorem not_semicolon_of_mem_body {part : List Lexeme} : ∀ l ∈ body part, l.token.isSemicolon = false := by
  intro l hl
  obtain ⟨trail, hrun, -, -⟩ := exists_run_eq part
  have hmem : l ∈ run part := by
    rw [hrun]
    simp [hl]
  simpa using List.mem_takeWhile_imp hmem

theorem lead_body_of_ne_nil {part : List Lexeme} (h : body part ≠ []) :
    lead (body part) = [] ∧ body (body part) = body part := by
  have hfilled : isFilled (run part) = true := by
    have hempty := isEmpty_body part
    rw [List.isEmpty_eq_false_iff.mpr h] at hempty
    simpa using hempty.symm
  obtain ⟨trail, hdivided⟩ := divided_of_isFilled hfilled
  obtain ⟨first, hfirst, hsignificant⟩ := hdivided.first
  obtain ⟨last, hlast, hlastSignificant⟩ := hdivided.last
  have hrun : run (body part) = body part :=
    List.takeWhile_eq_self_iff.mpr fun l hl => by simp [not_semicolon_of_mem_body l hl]
  obtain ⟨more, hmore⟩ := List.head?_eq_some_iff.mp hfirst
  constructor
  · rw [lead, hrun, hmore, List.takeWhile_cons_of_neg (by simp [hsignificant])]
  · have hdrop : (body part).dropWhile Lexeme.isTrivia = body part := by
      rw [hmore, List.dropWhile_cons_of_neg (by simp [hsignificant])]
    rw [body_eq (body part), hrun, hdrop, List.rdropWhile_eq_self_iff]
    intro hne
    rw [List.getLast?_eq_some_getLast hne, Option.mem_def, Option.some.injEq] at hlast
    rw [hlast, hlastSignificant]
    decide

theorem split_of_mem_split {t : Text} {cs : List Chunk} (h : split t = .ok cs) {c : Chunk} (hc : c ∈ cs) :
    split c.text = .ok [{ c with location := 0, line := 1, comments := [] }] := by
  obtain ⟨part, hfilled, hlex, htext, hsites⟩ := exists_body_of_mem_split h hc
  obtain ⟨hlead, hbody⟩ := lead_body_of_ne_nil hfilled
  rw [split, hlex]
  dsimp only
  rw [parts_eq_singleton not_semicolon_of_mem_body, chunks, hbody, List.isEmpty_eq_false_iff.mpr hfilled, chunk,
    hlead, hbody, ← htext, ← hsites]
  rfl

def placedSites (cs : List Chunk) : Sites :=
  { stars := cs.flatMap fun c => c.sites.stars.map (·.shift c.location)
    named := cs.flatMap fun c => c.sites.named.map (·.shift c.location)
    positional := cs.flatMap fun c => c.sites.positional.map (·.shift c.location) }

theorem placedSites_cons (c : Chunk) (cs : List Chunk) :
    placedSites (c :: cs) = (c.sites.shift c.location).append (placedSites cs) := rfl

theorem scanFrom_run {before after : List Lexeme} (hbefore : Bars (significant before))
    (hafter : Bars (significant after)) (location : Nat) (part : List Lexeme) :
    scanFrom location before (run part ++ after) =
      ((scan (body part)).shift (location + (Lexeme.cover (lead part)).bytes)).append
        (scanFrom (location + (Lexeme.cover (run part)).bytes) ((run part).reverse ++ before) after) := by
  obtain ⟨trail, hrun, hlead, htrail⟩ := exists_run_eq part
  rw [hrun]
  generalize lead part = front at hlead ⊢
  generalize body part = main
  have houter : Bars (significant (front.reverse ++ before)) :=
    .trivia_append (fun l hl => hlead l (List.mem_reverse.mp hl)) hbefore
  rw [List.append_assoc, List.append_assoc, scanFrom_of_trivia hlead,
    scanFrom_between houter (.trivia_append htrail hafter), scanFrom_of_trivia htrail]
  simp only [Lexeme.cover_append, Text.bytes_append, List.reverse_append, List.append_assoc, Nat.add_assoc]

theorem exists_segment (ls : List Lexeme) :
    (∀ l ∈ ls, l.token.isSemicolon = false) ∨
      ∃ segment l after, ls = segment ++ l :: after ∧ (∀ x ∈ segment, x.token.isSemicolon = false) ∧
        l.token.isSemicolon = true := by
  induction ls with
  | nil => exact .inl (by simp)
  | cons x ls ih =>
    cases hx : x.token.isSemicolon with
    | true => exact .inr ⟨[], x, ls, rfl, by simp, hx⟩
    | false =>
      obtain hnone | ⟨segment, l, after, rfl, hsegment, hl⟩ := ih
      · exact .inl (List.forall_mem_cons.mpr ⟨hx, hnone⟩)
      · exact .inr ⟨x :: segment, l, after, rfl, List.forall_mem_cons.mpr ⟨hx, hsegment⟩, hl⟩

theorem exists_placedSites_cons (location line : Nat) (pending : List Text) (part : List Lexeme)
    (ps : List (List Lexeme)) :
    ∃ line' pending', placedSites (chunks location line pending (part :: ps)) =
      ((scan (body part)).shift (location + (Lexeme.cover (lead part)).bytes)).append
        (placedSites (chunks (location + (Lexeme.cover part).bytes) line' pending' ps)) := by
  rw [chunks]
  split
  · rename_i hempty
    rw [List.isEmpty_iff.mp hempty]
    exact ⟨_, _, rfl⟩
  · rw [placedSites_cons]
    exact ⟨_, _, rfl⟩

theorem scanFrom_parts {before : List Lexeme} (hbefore : Bars (significant before)) (ls : List Lexeme)
    (location line : Nat) (pending : List Text) :
    scanFrom location before ls = placedSites (chunks location line pending (parts ls)) := by
  induction hlength : ls.length using Nat.strongRecOn generalizing before ls location line pending with
  | _ n ih =>
    obtain hnone | ⟨segment, l, after, rfl, hsegment, hl⟩ := exists_segment ls
    · have hrun : run (ls ++ []) = ls := run_append hnone (by simp)
      rw [List.append_nil] at hrun
      obtain ⟨line', pending', hplaced⟩ := exists_placedSites_cons location line pending ls []
      rw [parts_eq_singleton hnone, hplaced]
      have hscan := scanFrom_run hbefore (show Bars (significant []) from bars_nil) location ls
      rw [hrun, List.append_nil] at hscan
      exact hscan
    · have hrun : run (segment ++ [l]) = segment := run_append hsegment (by simpa using hl)
      obtain ⟨line', pending', hplaced⟩ :=
        exists_placedSites_cons location line pending (segment ++ [l]) (parts after)
      have hscan := scanFrom_run hbefore (bars_of_isSemicolon hl after) location (segment ++ [l])
      rw [hrun, scanFrom_of_isSemicolon hl] at hscan
      have hrest := ih after.length (by simp at hlength; omega)
        (bars_of_isSemicolon hl (segment.reverse ++ before)) after
        (location + (Lexeme.cover (segment ++ [l])).bytes) line' pending' rfl
      rw [parts_append_cons hsegment hl, hplaced, ← hrest, hscan, Lexeme.cover_append, Text.bytes_append,
        Nat.add_assoc]
      simp [Lexeme.cover]

/-- The sites of a script are those of its chunks, in their order and at their places. -/
theorem sites_eq_split (t : Text) : sites t = (split t).map placedSites := by
  unfold sites split
  split
  · rfl
  · rename_i ls hlex
    exact congrArg Except.ok (scanFrom_parts (show Bars (significant []) from bars_nil) ls 0 1 [])

theorem ofChunk_eq_of_eq {c d : Chunk} (htext : c.text = d.text) (hsites : c.sites = d.sites)
    (catalog : Catalog) (settings : Settings) :
    TypedQuery.ofChunk catalog settings c = TypedQuery.ofChunk catalog settings d := by
  unfold TypedQuery.ofChunk SourceStatement.ofChunk
  rw [htext, hsites]
  cases Statement.read d.text d.sites with
  | error e => rfl
  | ok statement =>
    simp only [ok_bind, pure_eq_ok, TypedQuery.ofStatement, htext, hsites]

/-- A statement of a script is analysed by itself as it is in the script. Its text is one chunk with the same
sites, the analysis of the text is that of the chunk, with errors placed at the beginning, and the query of
a chunk with a header is what the analysis of the text answers. -/
theorem analyse_of_mem_split {t : Text} {cs : List Chunk} (h : split t = .ok cs) {c : Chunk} (hc : c ∈ cs) :
    split c.text = .ok [{ c with location := 0, line := 1, comments := [] }] ∧
      ∀ p : Project,
        p.analyse c.text = (TypedQuery.ofChunk p.catalog p.settings c).mapError
          (fun error => { location := 0, line := 1, error }) ∧
        ∀ header, QueryHeader.parse c.comments = .ok (some header) →
          p.query? c = ((p.analyse c.text).mapError LocatedError.error).map fun query =>
            some { header, location := c.location, line := c.line, query } := by
  have hsplit := split_of_mem_split h hc
  refine ⟨hsplit, fun p => ?_⟩
  have hsingle : single c.text = .ok { c with location := 0, line := 1, comments := [] } := by
    rw [single, hsplit]
    rfl
  have hanalyse : p.analyse c.text = (TypedQuery.ofChunk p.catalog p.settings c).mapError
      (fun error => { location := 0, line := 1, error }) := by
    rw [Project.analyse, hsingle,
      ofChunk_eq_of_eq (c := c) (d := { c with location := 0, line := 1, comments := [] }) rfl rfl]
    rfl
  refine ⟨hanalyse, fun header hheader => ?_⟩
  rw [hanalyse, Project.query?, hheader]
  cases TypedQuery.ofChunk p.catalog p.settings c <;> rfl

theorem analyse_of_mem_split_second :
    let t := "SELECT ';'; -- name: Get :one\nSELECT @é ;".toList
    let header : QueryHeader := { name := "Get".toList, command := .one, comments := [] }
    ∃ cs, split t = .ok cs ∧ ∃ c ∈ cs, c.location = 30 ∧ QueryHeader.parse c.comments = .ok (some header) ∧
      c.sites.named.map NamedSite.location = [7] ∧
      split c.text = .ok [{ c with location := 0, line := 1, comments := [] }] ∧
      ∀ p : Project,
        p.analyse c.text = (TypedQuery.ofChunk p.catalog p.settings c).mapError
          (fun error => { location := 0, line := 1, error }) ∧
        p.query? c = ((p.analyse c.text).mapError LocatedError.error).map fun query =>
          some { header, location := c.location, line := c.line, query } := by
  intro t header
  let view (c : Chunk) : Nat × List Text × List Nat :=
    (c.location, c.comments, c.sites.named.map NamedSite.location)
  have hview : (split t).toOption.map (·.map view) =
      some [(0, [], []), (30, ["name: Get :one".toList], [7])] := by
    decide +kernel
  obtain ⟨cs, hcs, hview⟩ := exists_of_map_toOption hview
  have hmem : (30, ["name: Get :one".toList], [7]) ∈ cs.map view := by
    rw [hview]
    simp
  obtain ⟨c, hc, hplace⟩ := List.mem_map.mp hmem
  simp only [view, Prod.mk.injEq] at hplace
  obtain ⟨hlocation, hcomments, hnamed⟩ := hplace
  have hheader : QueryHeader.parse c.comments = .ok (some header) := by
    rw [hcomments]
    rfl
  obtain ⟨hsplit, hanalyse⟩ := analyse_of_mem_split hcs hc
  exact ⟨cs, hcs, c, hc, hlocation, hheader, hnamed, hsplit,
    fun p => ⟨(hanalyse p).1, (hanalyse p).2 header hheader⟩⟩

end TypedSql.Script
