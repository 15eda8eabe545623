import TypedSql.Golden.Run
import TypedSql.Proofs.Golden.Record

/-!
# Running recorded analyses

An analysis is recorded by writing the statement and, below a divider, the lines that show the analysis. The
file is read line by line, so a record passes exactly where each shown line is one line of the file: a
statement of several lines is shown as one line with newlines in it, and is never matched.
-/

namespace TypedSql.Golden

open Text

def recorded (sql : List Text) (q : TypedQuery) : Text :=
  unlines ("query".toList :: (sql ++ "----".toList :: q.render))

/-- A line that is read as it is where an analysis is expected. -/
structure IsShownLine (l : Text) : Prop where
  not_blank : ¬ AllBlank l
  endsSolid : EndsSolid l
  not_divider : l.trim ≠ "----".toList

instance (l : Text) : Decidable (IsShownLine l) :=
  decidable_of_iff (¬ AllBlank l ∧ EndsSolid l ∧ l.trim ≠ "----".toList)
    ⟨fun h => ⟨h.1, h.2.1, h.2.2⟩, fun h => ⟨h.not_blank, h.endsSolid, h.not_divider⟩⟩

def recordedEntry (sql : List Text) (q : TypedQuery) : Entry :=
  .query sql (unlines q.render).lines none

section

variable {sql : List Text} {q : TypedQuery}

theorem valid_recordedEntry (hsql : ∀ l ∈ sql, IsBodyLine l)
    (hshown : ∀ l ∈ (unlines q.render).lines, IsShownLine l) : (recordedEntry sql q).Valid := by
  refine ⟨hsql, fun l hl => ?_, by simp [recordedEntry, Entry.error]⟩
  have hline := hshown l hl
  have hone := isLine_of_endsSolid (newline_of_mem_lines hl) hline.endsSolid
  exact ⟨⟨hone, hline.not_blank, hline.not_divider⟩, hline.endsSolid⟩

theorem render_ne_nil (q : TypedQuery) : q.render ≠ [] := by
  simp [TypedQuery.render]

theorem nil_not_mem_render (q : TypedQuery) : [] ∉ q.render := by
  simp [TypedQuery.render]

theorem lines_recorded (hsql : ∀ l ∈ sql, IsBodyLine l) : (recorded sql q).lines = (recordedEntry sql q).lines := by
  have hkeyword : IsLine "query".toList := by decide
  have hdivider : IsLine "----".toList := by decide
  have hsplit : "query".toList :: (sql ++ "----".toList :: q.render) =
      "query".toList :: (sql ++ ["----".toList]) ++ q.render := by
    rw [List.cons_append, List.append_assoc, List.singleton_append]
  rw [recorded, hsplit, lines_unlines_append ?_ (render_ne_nil q)]
  · rw [List.cons_append, List.append_assoc, List.singleton_append]
    rfl
  · refine List.forall_mem_cons.mpr ⟨hkeyword, List.forall_mem_append.mpr ⟨fun l hl => (hsql l hl).isLine, ?_⟩⟩
    exact List.forall_mem_singleton.mpr hdivider

theorem parse_recorded (hsql : ∀ l ∈ sql, IsBodyLine l)
    (hshown : ∀ l ∈ (unlines q.render).lines, IsShownLine l) :
    Record.parse (recorded sql q) = .ok [.query 1 (unlines sql) (unlines q.render).lines none] := by
  let f : File := { lead := [], entries := [(recordedEntry sql q, [])] }
  have hf : f.Valid := by
    refine ⟨by simp [f, IsGap], ?_, Or.inl ⟨rfl, rfl⟩, trivial⟩
    simpa [f, IsGap] using valid_recordedEntry hsql hshown
  have hlines : f.lines = (recordedEntry sql q).lines := by
    simp [f, File.lines, entryLines]
  rw [parse_eq, lines_recorded hsql, ← hlines, recordsOf_file hf]
  rfl

theorem lines_render_iff (hshown : ∀ l ∈ (unlines q.render).lines, IsShownLine l) :
    q.render = (unlines q.render).lines ↔ ∀ l ∈ q.render, IsLine l := by
  constructor
  · intro h l hl
    rw [h] at hl
    exact isLine_of_endsSolid (newline_of_mem_lines hl) (hshown l hl).endsSolid
  · intro h
    exact (lines_unlines h fun hlast => nil_not_mem_render q (List.mem_of_getLast? hlast)).symm

/-- A recorded analysis is one record, which passes if and only if every line that shows the analysis is one
line of the file. Running it changes nothing. -/
theorem run_recorded_iff (p : Project) (hsql : ∀ l ∈ sql, IsBodyLine l) (hq : p.analyse (unlines sql) = .ok q)
    (hshown : ∀ l ∈ (unlines q.render).lines, IsShownLine l) :
    ∃ result, run p (recorded sql q) = (.ok result, p) ∧ result.report.total = 1 ∧
      (result.report = { passed := 1, failed := 0 } ↔ ∀ l ∈ q.render, IsLine l) := by
  rw [run, parse_recorded hsql hshown, ← lines_render_iff hshown]
  simp only [runRecords, Record.run, hq, checkQuery]
  by_cases h : q.render = (unlines q.render).lines
  · rw [if_pos h]
    exact ⟨_, rfl, rfl, iff_of_true rfl h⟩
  · rw [if_neg h]
    exact ⟨_, rfl, rfl, iff_of_false (by simp [Result.push]) h⟩

end

theorem run_recorded_iff_line :
    let p := Project.initial {}
    let sql := ["SELECT 1::int AS a".toList]
    ∃ q result, (∀ l ∈ sql, IsBodyLine l) ∧ p.analyse (unlines sql) = .ok q ∧
      (∀ l ∈ (unlines q.render).lines, IsShownLine l) ∧ run p (recorded sql q) = (.ok result, p) ∧
      result.report = { passed := 1, failed := 0 } := by
  intro p sql
  have hsql : ∀ l ∈ sql, IsBodyLine l := by decide
  have hrender : (p.analyse (unlines sql)).toOption.map TypedQuery.render =
      some ["sql SELECT 1::int AS a".toList, "column a int not null".toList] := by
    decide +kernel
  obtain ⟨q, hq, hrender⟩ := exists_of_map_toOption hrender
  have hshown : ∀ l ∈ (unlines q.render).lines, IsShownLine l := by
    rw [hrender]
    decide
  obtain ⟨result, hrun, -, hiff⟩ := run_recorded_iff p hsql hq hshown
  refine ⟨q, result, hsql, hq, hshown, hrun, hiff.mpr ?_⟩
  rw [hrender]
  decide

/-- A statement of two lines fails as it was recorded. -/
theorem run_recorded_two_lines :
    let p := Project.initial {}
    let sql := ["SELECT 1::int".toList, "AS a".toList]
    ∃ q, (∀ l ∈ sql, IsBodyLine l) ∧ p.analyse (unlines sql) = .ok q ∧
      (∀ l ∈ (unlines q.render).lines, IsShownLine l) ∧
      (run p (recorded sql q)).1.toOption.map Result.report = some { passed := 0, failed := 1 } := by
  intro p sql
  have hrender : (p.analyse (unlines sql)).toOption.map TypedQuery.render =
      some ["sql SELECT 1::int\nAS a".toList, "column a int not null".toList] := by
    decide +kernel
  obtain ⟨q, hq, hrender⟩ := exists_of_map_toOption hrender
  refine ⟨q, by decide, hq, ?_, ?_⟩
  · rw [hrender]
    decide
  · rw [recorded, hrender]
    decide +kernel

end TypedSql.Golden
