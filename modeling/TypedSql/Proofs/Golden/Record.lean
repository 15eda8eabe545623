import TypedSql.Golden.Record
import TypedSql.Proofs.Fallible
import TypedSql.Proofs.Text.Lines
import TypedSql.Proofs.Text.Words

/-!
# Reading written records

A golden file is written as blank lines, comments and entries, each entry a directive with its lines and the
end of the file or a blank line behind it. Reading such a file gives the records of its entries with the lines
that they begin at. Outside of entries every line is passed over; an entry is one paragraph, up to the
comments in front of it.
-/

namespace TypedSql.Golden

open Text

theorem isBlankLine_iff {l : Text} : isBlankLine l = true ↔ AllBlank l := by
  rw [isBlankLine, List.isEmpty_iff, trim_eq_nil_iff]

theorem isDivider_iff {l : Text} : isDivider l = true ↔ l.trim = "----".toList := by
  rw [isDivider, beq_iff_eq]

theorem isBlankLine_of_isComment {l : Text} (h : isComment l = true) : isBlankLine l = false := by
  rw [Bool.eq_false_iff]
  intro hblank
  simp [isComment, List.isEmpty_iff.mp hblank] at h

theorem isBlankLine_of_isDivider {l : Text} (h : isDivider l = true) : isBlankLine l = false := by
  rw [Bool.eq_false_iff]
  intro hblank
  rw [isDivider_iff, List.isEmpty_iff.mp hblank] at h
  exact absurd h (by decide)

def numbered (line : Nat) : List Text → List NumberedLine
  | [] => []
  | l :: ls => (line, l) :: numbered (line + 1) ls

theorem numbered_append (line : Nat) (ls ms : List Text) :
    numbered line (ls ++ ms) = numbered line ls ++ numbered (line + ls.length) ms := by
  induction ls generalizing line with
  | nil => rfl
  | cons l ls ih =>
    rw [List.cons_append, numbered, ih, numbered, List.length_cons, List.cons_append, Nat.add_right_comm,
      Nat.add_assoc]

theorem map_snd_numbered (line : Nat) (ls : List Text) : (numbered line ls).map Prod.snd = ls := by
  induction ls generalizing line with
  | nil => rfl
  | cons l ls ih => rw [numbered, List.map_cons, ih]

theorem numberedLines_eq (t : Text) : numberedLines t = numbered 1 t.lines := by
  have hfrom : ∀ (ls : List Text) (n : Nat), (ls.zipIdx n).map (fun x => (x.2 + 1, x.1)) = numbered (n + 1) ls := by
    intro ls
    induction ls with
    | nil => exact fun n => rfl
    | cons l ls ih => exact fun n => by rw [List.zipIdx_cons, List.map_cons, ih, numbered]
  exact hfrom t.lines 0

def gather (ps : List (List NumberedLine)) : Except RecordError (List Record) :=
  return (← ps.mapM Record.ofParagraph).filterMap id

def recordsOf (ls : List NumberedLine) : Except RecordError (List Record) :=
  gather (paragraphs ls)

theorem parse_eq (t : Text) : Record.parse t = recordsOf (numbered 1 t.lines) := by
  rw [Record.parse, numberedLines_eq, recordsOf, gather]

theorem gather_cons (p : List NumberedLine) (ps : List (List NumberedLine)) :
    gather (p :: ps) = do
      let r ← Record.ofParagraph p
      let rs ← gather ps
      return r.toList ++ rs := by
  rw [gather, List.mapM_cons, gather]
  cases Record.ofParagraph p with
  | error e => rfl
  | ok r =>
    cases ps.mapM Record.ofParagraph with
    | error e => rfl
    | ok rs => cases r <;> rfl

theorem paragraphs_ne_nil (ls : List NumberedLine) : paragraphs ls ≠ [] := by
  fun_cases paragraphs ls <;> simp

theorem paragraphs_cons {l : NumberedLine} (h : isBlankLine l.2 = false) {ls : List NumberedLine}
    {p : List NumberedLine} {ps : List (List NumberedLine)} (hls : paragraphs ls = p :: ps) :
    paragraphs (l :: ls) = (l :: p) :: ps := by
  rw [paragraphs, if_neg (by simp [h]), hls]

theorem recordsOf_blank {l : NumberedLine} (h : isBlankLine l.2 = true) (ls : List NumberedLine) :
    recordsOf (l :: ls) = recordsOf ls := by
  rw [recordsOf, recordsOf, paragraphs, if_pos h, gather_cons]
  change (gather (paragraphs ls) >>= fun rs => pure ([] ++ rs)) = _
  cases gather (paragraphs ls) <;> rfl

theorem ofParagraph_comment {l : NumberedLine} (h : isComment l.2 = true) (p : List NumberedLine) :
    Record.ofParagraph (l :: p) = Record.ofParagraph p := by
  have hdrop : (l :: p).dropWhile (isComment ·.2) = p.dropWhile (isComment ·.2) := by
    simp [h]
  rw [Record.ofParagraph, hdrop, Record.ofParagraph]

theorem recordsOf_comment {l : NumberedLine} (h : isComment l.2 = true) (ls : List NumberedLine) :
    recordsOf (l :: ls) = recordsOf ls := by
  obtain ⟨p, ps, hls⟩ := List.exists_cons_of_ne_nil (paragraphs_ne_nil ls)
  rw [recordsOf, recordsOf, paragraphs_cons (isBlankLine_of_isComment h) hls, hls, gather_cons, gather_cons,
    ofParagraph_comment h]

theorem paragraphs_concat {l : NumberedLine} (h : isBlankLine l.2 = true) (ls : List NumberedLine) :
    paragraphs (ls ++ [l]) = paragraphs ls ++ [[]] := by
  induction ls with
  | nil => simp [paragraphs, h]
  | cons m ls ih =>
    by_cases hm : isBlankLine m.2 = true
    · simp [paragraphs, hm, ih]
    · obtain ⟨p, ps, hls⟩ := List.exists_cons_of_ne_nil (paragraphs_ne_nil ls)
      rw [Bool.not_eq_true] at hm
      rw [hls] at ih
      rw [List.cons_append, paragraphs_cons hm ih, paragraphs_cons hm hls]
      rfl

theorem recordsOf_concat {l : NumberedLine} (h : isBlankLine l.2 = true) (ls : List NumberedLine) :
    recordsOf (ls ++ [l]) = recordsOf ls := by
  rw [recordsOf, recordsOf, paragraphs_concat h]
  induction paragraphs ls with
  | nil => rfl
  | cons p ps ih => rw [List.cons_append, gather_cons, ih, gather_cons]

theorem paragraphs_append {p rest : List NumberedLine} (hp : ∀ l ∈ p, isBlankLine l.2 = false)
    (hrest : ∀ l, rest.head? = some l → isBlankLine l.2 = true) :
    ∃ ps, paragraphs (p ++ rest) = p :: ps ∧ gather ps = recordsOf rest := by
  induction p with
  | nil =>
    cases rest with
    | nil => exact ⟨[], rfl, rfl⟩
    | cons l rest =>
      have hl := hrest l rfl
      exact ⟨paragraphs rest, by rw [List.nil_append, paragraphs, if_pos hl], (recordsOf_blank hl rest).symm⟩
  | cons l p ih =>
    obtain ⟨hl, hp⟩ := List.forall_mem_cons.mp hp
    obtain ⟨ps, hps, hgather⟩ := ih hp
    exact ⟨ps, paragraphs_cons hl hps, hgather⟩

theorem recordsOf_paragraph {p rest : List NumberedLine} (hp : ∀ l ∈ p, isBlankLine l.2 = false)
    (hrest : ∀ l, rest.head? = some l → isBlankLine l.2 = true) {r : Record} {rs : List Record}
    (hr : Record.ofParagraph p = .ok (some r)) (hrs : recordsOf rest = .ok rs) :
    recordsOf (p ++ rest) = .ok (r :: rs) := by
  obtain ⟨ps, hps, hgather⟩ := paragraphs_append hp hrest
  rw [recordsOf, hps, gather_cons, hr, hgather, hrs]
  rfl

inductive Entry where
  | schema (sql : List Text) (error : Option Text)
  | query (sql expected : List Text) (error : Option Text)
  deriving Repr, DecidableEq

namespace Entry

def keyword : Entry → Text
  | .schema .. => "schema".toList
  | .query .. => "query".toList

def error : Entry → Option Text
  | .schema _ error => error
  | .query _ _ error => error

def sql : Entry → List Text
  | .schema sql _ => sql
  | .query sql _ _ => sql

def expected : Entry → List Text
  | .schema .. => []
  | .query _ expected _ => expected

def directive (e : Entry) : Text :=
  match e.error with
  | none => e.keyword
  | some code => e.keyword ++ " error ".toList ++ code

def body : Entry → List Text
  | .schema sql _ => sql
  | .query sql expected _ => sql ++ "----".toList :: expected

def lines (e : Entry) : List Text :=
  e.directive :: e.body

def record (line : Nat) : Entry → Record
  | .schema sql error => .schema line (unlines sql) error
  | .query sql expected error => .query line (unlines sql) expected error

end Entry

structure IsBodyLine (l : Text) : Prop where
  isLine : IsLine l
  not_blank : ¬ AllBlank l
  not_divider : l.trim ≠ "----".toList

instance (l : Text) : Decidable (IsBodyLine l) :=
  decidable_of_iff (IsLine l ∧ ¬ AllBlank l ∧ l.trim ≠ "----".toList)
    ⟨fun h => ⟨h.1, h.2.1, h.2.2⟩, fun h => ⟨h.isLine, h.not_blank, h.not_divider⟩⟩

/-- An entry that can be written: its lines are lines, those that it expects do not end with blanks, and the
error that it expects is one word. -/
structure Entry.Valid (e : Entry) : Prop where
  sql : ∀ l ∈ e.sql, IsBodyLine l
  expected : ∀ l ∈ e.expected, IsBodyLine l ∧ EndsSolid l
  error : ∀ code, e.error = some code → IsWord code

instance (e : Entry) : Decidable e.Valid :=
  decidable_of_iff ((∀ l ∈ e.sql, IsBodyLine l) ∧ (∀ l ∈ e.expected, IsBodyLine l ∧ EndsSolid l) ∧
      ∀ code ∈ e.error.toList, IsWord code)
    ⟨fun h => ⟨h.1, h.2.1, fun code hcode => h.2.2 code (Option.mem_toList.mpr hcode)⟩,
      fun h => ⟨h.sql, h.expected, fun code hcode => h.error code (Option.mem_toList.mp hcode)⟩⟩

theorem IsBodyLine.isBlankLine {l : Text} (h : IsBodyLine l) : isBlankLine l = false := by
  rw [Bool.eq_false_iff, ne_eq, isBlankLine_iff]
  exact h.not_blank

theorem IsBodyLine.isDivider {l : Text} (h : IsBodyLine l) : isDivider l = false := by
  rw [Bool.eq_false_iff, ne_eq, isDivider_iff]
  exact h.not_divider

namespace Entry

variable {e : Entry}

theorem isWord_keyword (e : Entry) : IsWord e.keyword := by
  have hschema : IsWord "schema".toList := by decide
  have hquery : IsWord "query".toList := by decide
  cases e with
  | schema => exact hschema
  | query => exact hquery

def errorWords (e : Entry) : List Text :=
  match e.error with
  | none => []
  | some code => ["error".toList, code]

theorem words_directive (h : e.Valid) : e.directive.words = e.keyword :: e.errorWords := by
  unfold directive errorWords
  split
  · exact words_of_isWord e.isWord_keyword
  · rename_i code hcode
    have hspace : AllBlank [' '] := by decide
    have herror : IsWord "error".toList := by decide
    have hparts : e.keyword ++ " error ".toList ++ code =
        e.keyword ++ ([' '] ++ ("error".toList ++ ([' '] ++ code))) := by
      simp
    rw [hparts, words_word_append e.isWord_keyword (atWordEnd_append hspace (by simp) _),
      words_blank_append hspace, words_word_append herror (atWordEnd_append hspace (by simp) _),
      words_blank_append hspace, words_of_isWord (h.error code hcode)]

theorem expectedError_errorWords (e : Entry) (line : Text) : expectedError line e.errorWords = .ok e.error := by
  unfold errorWords
  split
  · rename_i hnone
    rw [hnone]
    rfl
  · rename_i code hcode
    rw [hcode]
    rfl

theorem isDivider_divider : isDivider "----".toList = true := by
  decide

theorem not_isDivider_of_mem_sql (h : e.Valid) : ∀ l ∈ e.sql, (!isDivider l) = true := by
  intro l hl
  rw [(h.sql l hl).isDivider]
  rfl

theorem statementLines_body (h : e.Valid) : statementLines e.body = e.sql := by
  cases e with
  | schema sql error => exact List.takeWhile_eq_self_iff.mpr (not_isDivider_of_mem_sql h)
  | query sql expected error =>
    have hsql : ∀ l ∈ sql, (!isDivider l) = true := not_isDivider_of_mem_sql h
    rw [statementLines, body, List.takeWhile_append_of_pos hsql, List.takeWhile_cons_of_neg, List.append_nil]
    · rfl
    · rw [isDivider_divider]
      decide

theorem expectedLines_body {sql expected : List Text} {error : Option Text} (h : (query sql expected error).Valid) :
    expectedLines (query sql expected error).body = expected := by
  have hsql : ∀ l ∈ sql, (!isDivider l) = true := not_isDivider_of_mem_sql h
  have hkept : ∀ l ∈ expected, (!isDivider l) = true := by
    intro l hl
    rw [(h.expected l hl).1.isDivider]
    rfl
  have htrimmed : expected.map trimEnd = expected :=
    (List.map_congr_left fun l hl => trimEnd_of_endsSolid (h.expected l hl).2).trans (List.map_id expected)
  rw [expectedLines, body, List.dropWhile_append_of_pos hsql, List.dropWhile_cons_of_neg, List.filter_cons_of_neg,
    List.filter_eq_self.mpr hkept, htrimmed]
  · rw [isDivider_divider]
    decide
  · rw [isDivider_divider]
    decide

theorem ofLines_record (h : e.Valid) (line : Nat) : Record.ofLines line e.directive e.body = .ok (e.record line) := by
  rw [Record.ofLines, words_directive h]
  simp only [List.tail_cons, List.headD_cons, expectedError_errorWords, ok_bind, statementLines_body h]
  cases e with
  | schema sql error => rfl
  | query sql expected error =>
    rw [expectedLines_body h]
    rfl

theorem directive_cons (e : Entry) : ∃ c t, e.directive = c :: t ∧ isBlank c = false ∧ c ≠ '#' := by
  have hkeyword : ∃ c t, e.keyword = c :: t ∧ isBlank c = false ∧ c ≠ '#' := by
    cases e with
    | schema => exact ⟨'s', "chema".toList, rfl, by decide, by decide⟩
    | query => exact ⟨'q', "uery".toList, rfl, by decide, by decide⟩
  obtain ⟨c, t, heq, hc⟩ := hkeyword
  unfold directive
  split
  · exact ⟨c, t, heq, hc⟩
  · exact ⟨c, _, by rw [heq]; rfl, hc⟩

theorem isComment_directive (e : Entry) : isComment e.directive = false := by
  obtain ⟨c, t, heq, hc, hne⟩ := e.directive_cons
  simp [isComment, heq, trim_cons hc, hne]

theorem isBlankLine_directive (e : Entry) : isBlankLine e.directive = false := by
  obtain ⟨c, t, heq, hc, -⟩ := e.directive_cons
  simp [isBlankLine, heq, trim_cons hc]

theorem ofParagraph_lines (h : e.Valid) (line : Nat) :
    Record.ofParagraph (numbered line e.lines) = .ok (some (e.record line)) := by
  have hdrop : (numbered line e.lines).dropWhile (isComment ·.2) =
      (line, e.directive) :: numbered (line + 1) e.body := by
    simp [lines, numbered, e.isComment_directive]
  rw [Record.ofParagraph, hdrop]
  simp only [map_snd_numbered, ofLines_record h, pure_eq_ok]

theorem forall_lines {P : Text → Prop} (hdirective : P e.directive) (hdivider : P "----".toList)
    (hsql : ∀ l ∈ e.sql, P l) (hexpected : ∀ l ∈ e.expected, P l) : ∀ l ∈ e.lines, P l := by
  refine List.forall_mem_cons.mpr ⟨hdirective, ?_⟩
  cases e with
  | schema sql error => exact hsql
  | query sql expected error =>
    exact List.forall_mem_append.mpr ⟨hsql, List.forall_mem_cons.mpr ⟨hdivider, hexpected⟩⟩

theorem isBlankLine_of_mem_lines (h : e.Valid) : ∀ l ∈ e.lines, isBlankLine l = false :=
  forall_lines e.isBlankLine_directive (isBlankLine_of_isDivider isDivider_divider)
    (fun l hl => (h.sql l hl).isBlankLine) fun l hl => (h.expected l hl).1.isBlankLine

end Entry

def IsGap (gap : List Text) : Prop :=
  ∀ l ∈ gap, IsLine l ∧ (AllBlank l ∨ l.trim.head? = some '#')

instance (gap : List Text) : Decidable (IsGap gap) :=
  List.decidableBAll (fun l => IsLine l ∧ (AllBlank l ∨ l.trim.head? = some '#')) gap

structure File where
  lead : List Text
  entries : List (Entry × List Text)
  deriving Repr, DecidableEq

/-- Only the last entry may have nothing behind it; a blank line ends any other. -/
def Separated : List (Entry × List Text) → Prop
  | [] => True
  | p :: ps => ((p.2 = [] ∧ ps = []) ∨ ∃ l gap, p.2 = l :: gap ∧ AllBlank l) ∧ Separated ps

def entryLines (entries : List (Entry × List Text)) : List Text :=
  entries.flatMap fun p => p.1.lines ++ p.2

def recordsFrom (line : Nat) : List (Entry × List Text) → List Record
  | [] => []
  | p :: ps => p.1.record line :: recordsFrom (line + (p.1.lines.length + p.2.length)) ps

namespace File

def lines (f : File) : List Text :=
  f.lead ++ entryLines f.entries

def records (f : File) : List Record :=
  recordsFrom (1 + f.lead.length) f.entries

structure Valid (f : File) : Prop where
  lead : IsGap f.lead
  entries : ∀ p ∈ f.entries, p.1.Valid ∧ IsGap p.2
  separated : Separated f.entries

end File

theorem recordsOf_gap {gap : List Text} (h : IsGap gap) (line : Nat) (ls : List Text) :
    recordsOf (numbered line (gap ++ ls)) = recordsOf (numbered (line + gap.length) ls) := by
  induction gap generalizing line with
  | nil => rfl
  | cons l gap ih =>
    obtain ⟨⟨-, hl⟩, hgap⟩ := List.forall_mem_cons.mp h
    have hrest := ih hgap (line + 1)
    rw [List.cons_append, numbered, List.length_cons, Nat.add_comm gap.length, ← Nat.add_assoc, ← hrest]
    rcases hl with hblank | hcomment
    · exact recordsOf_blank (isBlankLine_iff.mpr hblank) _
    · exact recordsOf_comment (by simp [isComment, hcomment]) _

theorem recordsOf_entries {entries : List (Entry × List Text)} (h : ∀ p ∈ entries, p.1.Valid ∧ IsGap p.2)
    (hseparated : Separated entries) (line : Nat) :
    recordsOf (numbered line (entryLines entries)) = .ok (recordsFrom line entries) := by
  induction entries generalizing line with
  | nil => rfl
  | cons p ps ih =>
    obtain ⟨⟨hvalid, hgap⟩, hps⟩ := List.forall_mem_cons.mp h
    obtain ⟨hbehind, hseparated⟩ := hseparated
    have hlines : entryLines (p :: ps) = p.1.lines ++ (p.2 ++ entryLines ps) := by
      simp [entryLines]
    rw [hlines, numbered_append]
    refine recordsOf_paragraph (fun l hl => ?_) ?_ (Entry.ofParagraph_lines hvalid line) ?_
    · have hmem := List.mem_map_of_mem (f := Prod.snd) hl
      rw [map_snd_numbered] at hmem
      exact Entry.isBlankLine_of_mem_lines hvalid _ hmem
    · rcases hbehind with ⟨hnil, rfl⟩ | ⟨l, gap, hcons, hblank⟩
      · simp [hnil, entryLines, numbered]
      · rw [hcons]
        rintro _ ⟨⟩
        exact isBlankLine_iff.mpr hblank
    · rw [recordsOf_gap hgap, Nat.add_assoc]
      exact ih hps hseparated _

theorem recordsOf_file {f : File} (h : f.Valid) : recordsOf (numbered 1 f.lines) = .ok f.records := by
  rw [File.lines, recordsOf_gap h.lead, recordsOf_entries h.entries h.separated, File.records]

theorem parse_unlines {ls : List Text} (h : ∀ l ∈ ls, IsLine l) :
    Record.parse (unlines ls) = recordsOf (numbered 1 ls) := by
  rw [parse_eq]
  by_cases hlast : ls.getLast? = some []
  · obtain ⟨init, rfl⟩ := List.getLast?_eq_some_iff.mp hlast
    rw [lines_unlines_concat_nil fun l hl => h l (List.mem_append_left _ hl), numbered_append]
    exact (recordsOf_concat (isBlankLine_iff.mpr allBlank_nil) _).symm
  · rw [lines_unlines h hlast]

theorem parse_unlines_newline {ls : List Text} (h : ∀ l ∈ ls, IsLine l) :
    Record.parse (unlines ls ++ ['\n']) = recordsOf (numbered 1 ls) := by
  by_cases hnil : ls = []
  · subst hnil
    rfl
  · rw [parse_eq, ← unlines_concat_nil hnil, lines_unlines_concat_nil h]

theorem isLine_of_endsSolid {l : Text} (h : '\n' ∉ l) (hlast : EndsSolid l) : IsLine l := by
  refine ⟨h, fun hcarriage => ?_⟩
  have := hlast '\r' hcarriage
  exact absurd this (by decide)

theorem newline_of_solid {t : Text} (h : Solid t) : '\n' ∉ t := by
  intro hmem
  exact absurd (h '\n' hmem) (by decide)

theorem Entry.isLine_directive {e : Entry} (h : e.Valid) : IsLine e.directive := by
  have hkeyword := newline_of_solid e.isWord_keyword.solid
  unfold directive
  split
  · exact isLine_of_endsSolid hkeyword (e.isWord_keyword.endsSolid_append [])
  · rename_i code hcode
    have hword := h.error code hcode
    have hspace : '\n' ∉ " error ".toList := by decide
    refine isLine_of_endsSolid ?_ (hword.endsSolid_append _)
    simp only [List.mem_append, not_or]
    exact ⟨⟨hkeyword, hspace⟩, newline_of_solid hword.solid⟩

theorem Entry.isLine_of_mem_lines {e : Entry} (h : e.Valid) : ∀ l ∈ e.lines, IsLine l := by
  have hdivider : IsLine "----".toList := by decide
  exact forall_lines (isLine_directive h) hdivider (fun l hl => (h.sql l hl).isLine)
    fun l hl => (h.expected l hl).1.isLine

theorem File.isLine_of_mem_lines {f : File} (h : f.Valid) : ∀ l ∈ f.lines, IsLine l := by
  refine List.forall_mem_append.mpr ⟨fun l hl => (h.lead l hl).1, fun l hl => ?_⟩
  obtain ⟨p, hp, hl⟩ := List.mem_flatMap.mp hl
  obtain ⟨hvalid, hgap⟩ := h.entries p hp
  rcases List.mem_append.mp hl with hl | hl
  · exact Entry.isLine_of_mem_lines hvalid l hl
  · exact (hgap l hl).1

/-- Reading a file gives back the records that were written, with the lines of their directives, whether or
not a newline ends the last line. -/
theorem Record.parse_file (f : File) (h : f.Valid) :
    Record.parse (unlines f.lines) = .ok f.records ∧ Record.parse (unlines f.lines ++ ['\n']) = .ok f.records := by
  have hlines := File.isLine_of_mem_lines h
  exact ⟨(parse_unlines hlines).trans (recordsOf_file h), (parse_unlines_newline hlines).trans (recordsOf_file h)⟩

def sampleFile : File where
  lead := ["# cities".toList, [], "  # a comment".toList]
  entries :=
    [(.schema ["DROP TABLE city".toList] (some "relation_does_not_exist".toList), [" ".toList, "#".toList]),
    (.query ["SELECT 1".toList, "# query  ".toList] ["sql SELECT 1".toList, "schema".toList] none, [])]

theorem Record.parse_file_sample :
    sampleFile.Valid ∧
      Record.parse (unlines sampleFile.lines) =
        .ok [.schema 4 "DROP TABLE city".toList (some "relation_does_not_exist".toList),
          .query 8 "SELECT 1\n# query  ".toList ["sql SELECT 1".toList, "schema".toList] none] := by
  have hvalid : sampleFile.Valid :=
    ⟨by decide, by decide, Or.inr ⟨_, _, rfl, by decide⟩, Or.inl ⟨rfl, rfl⟩, trivial⟩
  exact ⟨hvalid, (Record.parse_file sampleFile hvalid).1.trans (by decide)⟩

end TypedSql.Golden
