import TypedSql.Proofs.Catalog.AlterTable
import TypedSql.Proofs.Catalog.Footprint

/-!
# What outcomes tell

A statement whose outcome is that it was ignored has left the catalog as it was. Of the commands that alter
a table, those that are not supported have no effect: without them the statement leads to the same catalog
or fails with the same error, and its outcome tells which commands they were.
-/

namespace TypedSql

namespace TableChange

def isSupported (change : TableChange) : Bool :=
  change.ignored?.isNone

theorem replay_of_not_supported {change : TableChange} (h : change.isSupported = false)
    (n : QualifiedName) : change.replay n = pure n := by
  cases change with
  | unsupported kind => rfl
  | _ => cases h

theorem foldlM_replay_filter (changes : List TableChange) (n : QualifiedName) :
    (changes.filter isSupported).foldlM replay n = changes.foldlM replay n := by
  induction changes generalizing n with
  | nil => rfl
  | cons change changes ih =>
    cases h : change.isSupported with
    | true => simp only [List.filter_cons_of_pos h, List.foldlM_cons, ih]
    | false =>
      rw [List.filter_cons_of_neg (by simp [h]), List.foldlM_cons, replay_of_not_supported h, pure_bind, ih]

def ignoredKinds (changes : List TableChange) : List String :=
  changes.filterMap ignored?

theorem length_ignoredKinds (changes : List TableChange) :
    (ignoredKinds changes).length + (changes.filter isSupported).length = changes.length := by
  induction changes with
  | nil => rfl
  | cons change changes ih =>
    unfold ignoredKinds at ih ⊢
    cases h : change.ignored? with
    | none =>
      rw [List.filterMap_cons_none h, List.filter_cons_of_pos (by simp [isSupported, h])]
      simp only [List.length_cons]
      omega
    | some kind =>
      rw [List.filterMap_cons_some h, List.filter_cons_of_neg (by simp [isSupported, h])]
      simp only [List.length_cons]
      omega

end TableChange

namespace Outcome

/-- How commands without an error are reported, by the kinds of those that are not supported and by those
that are. -/
inductive Reports (kinds : List String) (done : List TableChange) : Outcome → Prop
  | applied (hkinds : kinds = []) : Reports kinds done .applied
  | ignored (hkinds : kinds ≠ []) (hdone : done = []) :
    Reports kinds done (.ignored ("unsupported ALTER TABLE sub-commands: " ++ ", ".intercalate kinds))
  | incomplete (hkinds : kinds ≠ []) (hdone : done ≠ []) : Reports kinds done (.incomplete kinds)

theorem reports_ofChanges (changes : List TableChange) :
    Reports (TableChange.ignoredKinds changes) (changes.filter TableChange.isSupported)
      (ofChanges changes) := by
  have hlength := TableChange.length_ignoredKinds changes
  unfold TableChange.ignoredKinds at hlength ⊢
  unfold ofChanges
  dsimp only
  split
  · rename_i hnone
    exact .applied (List.isEmpty_iff.mp hnone)
  · rename_i hsome
    have hkinds : changes.filterMap TableChange.ignored? ≠ [] := fun h => hsome (List.isEmpty_iff.mpr h)
    split
    · exact .ignored hkinds (List.eq_nil_of_length_eq_zero (by omega))
    · refine .incomplete hkinds fun hdone => ?_
      rw [hdone, List.length_nil] at hlength
      omega

end Outcome

namespace Change

variable {α : Type}

/-- A change that has left the catalog as it was wherever its outcome is that it was ignored. -/
def Honest (m : Change Outcome) : Prop :=
  ∀ c reason, (m.apply c).1 = .ok (.ignored reason) → (m.apply c).2 = c

theorem honest_pure (o : Outcome) : Honest (pure o) :=
  fun _ _ _ => rfl

theorem honest_throw (e : Error) : Honest (throw e) :=
  fun _ _ _ => rfl

theorem honest_get_bind {f : Catalog → Change Outcome} (hf : ∀ c, Honest (f c)) : Honest (get >>= f) :=
  fun c reason h => hf c c reason h

theorem honest_answer (m : Change α) {o : Outcome} (ho : ∀ reason, o ≠ .ignored reason) :
    Honest (m >>= fun _ => pure o) := by
  intro c reason h
  rw [apply_bind_pure] at h
  cases hm : (m.apply c).1 with
  | error e =>
    rw [hm] at h
    cases h
  | ok a =>
    rw [hm] at h
    exact absurd (Except.ok.inj h) (ho reason)

theorem honest_applied (m : Change α) : Honest (m >>= fun _ => pure .applied) :=
  honest_answer m fun _ h => by cases h

end Change

namespace Definition

theorem honest_changes (changes : List TableChange) (n : QualifiedName) :
    Change.Honest (changes.foldlM TableChange.replay n >>= fun _ => pure (Outcome.ofChanges changes)) := by
  have hreports := Outcome.reports_ofChanges changes
  generalize Outcome.ofChanges changes = o at hreports
  cases hreports with
  | applied => exact Change.honest_applied _
  | ignored hkinds hdone =>
    rw [← TableChange.foldlM_replay_filter, hdone, List.foldlM_nil, pure_bind]
    exact Change.honest_pure _
  | incomplete => exact Change.honest_answer _ fun _ h => by cases h

theorem honest_replay (d : Definition QualifiedName) : Change.Honest d.replay := by
  cases d with
  | createTable n ifNotExists columns =>
    refine Change.honest_get_bind fun c => ?_
    split
    · exact Change.honest_pure _
    · exact Change.honest_applied _
  | alterTable table ifExists changes =>
    refine Change.honest_get_bind fun c => ?_
    dsimp only
    split
    · exact honest_changes changes _
    · split
      · exact Change.honest_pure _
      · exact Change.honest_throw _
  | createSchema name ifNotExists =>
    refine Change.honest_get_bind fun c => ?_
    split
    · exact Change.honest_pure _
    · exact Change.honest_applied _
  | createFunction n parameters returns replace =>
    exact Change.honest_get_bind fun c => Change.honest_applied _
  | _ => exact Change.honest_applied _

end Definition

theorem Statement.honest_replay (s : Statement) : Change.Honest s.replay := by
  cases s with
  | define d => exact Definition.honest_replay d
  | _ => exact Change.honest_pure _

namespace Catalog

/-- Altering a table that is there does what it does without the commands that are not supported. Only the
outcome is another one. -/
theorem apply_replayChanges_filter {c : Catalog} {table : QualifiedName} {t : Table}
    (ht : c.table table = .ok t) (ifExists : Bool) (changes : List TableChange) :
    let rest := (Definition.replayChanges table ifExists (changes.filter TableChange.isSupported)).apply c
    (Definition.replayChanges table ifExists changes).apply c =
      (rest.1.map fun _ => Outcome.ofChanges changes, rest.2) := by
  intro rest
  simp only [rest, apply_replayChanges_of_table ht, TableChange.foldlM_replay_filter, Change.apply_bind_pure]
  cases ((changes.foldlM TableChange.replay (c.qualify table)).apply c).1 <;> rfl

/-- A statement that is reported as ignored leaves the catalog as it was. Altering a table that is there
leads to the same catalog, and fails with the same error, without the commands that are not supported. The
outcome is that all was done if there are none of these, that the statement was ignored if there are no
others, and else their kinds in order. -/
theorem replay_outcome (c : Catalog) :
    (∀ (s : Statement) (reason : String),
      (s.replay.apply c).1 = .ok (.ignored reason) → (s.replay.apply c).2 = c) ∧
    ∀ (table : QualifiedName) (ifExists : Bool) (changes : List TableChange),
      (∃ t, c.table table = .ok t) →
      let alter (changes : List TableChange) :=
        (Statement.define (.alterTable table ifExists changes)).replay.apply c
      let supported := changes.filter TableChange.isSupported
      (alter changes).2 = (alter supported).2 ∧
        (∀ e, (alter changes).1 = .error e ↔ (alter supported).1 = .error e) ∧
        ∀ o, (alter changes).1 = .ok o →
          Outcome.Reports (TableChange.ignoredKinds changes) supported o := by
  refine ⟨fun s reason => s.honest_replay c reason, fun table ifExists changes htable => ?_⟩
  intro alter supported
  obtain ⟨t, ht⟩ := htable
  have halter : alter changes =
      ((alter supported).1.map fun _ => Outcome.ofChanges changes, (alter supported).2) :=
    apply_replayChanges_filter ht ifExists changes
  have hreports := Outcome.reports_ofChanges changes
  rw [halter]
  cases (alter supported).1 with
  | error e =>
    refine ⟨rfl, fun e' => Iff.rfl, fun o ho => ?_⟩
    cases ho
  | ok o' =>
    refine ⟨rfl, fun e => ?_, fun o ho => ?_⟩
    · constructor <;> intro h <;> cases h
    obtain rfl : Outcome.ofChanges changes = o := Except.ok.inj ho
    exact hreports

theorem replay_outcome_incomplete :
    let c := (initial {}).run [.createTable (.ofName "orders") []]
    let total : TableChange := .addColumn { name := "total", type := .ofName "int4" } false
    let alter (changes : List TableChange) :=
      (Statement.define (.alterTable (.ofName "orders") false changes)).replay.apply c
    let altered := alter [.unsupported "OWNER TO", total, .unsupported "ADD CONSTRAINT"]
    altered.1 = .ok (.incomplete ["OWNER TO", "ADD CONSTRAINT"]) ∧ altered.2 = (alter [total]).2 ∧
      altered.2 ≠ c ∧ ((Statement.define (.createSchema "public" false)).replay.apply c).2 = c := by
  intro c total alter altered
  have htable : ∃ t, c.table (.ofName "orders") = .ok t := exists_of_isOk (by decide +kernel)
  obtain ⟨hignored, halter⟩ := replay_outcome c
  obtain ⟨hsame, -, hreports⟩ :=
    halter _ false [.unsupported "OWNER TO", total, .unsupported "ADD CONSTRAINT"] htable
  obtain ⟨o, ho⟩ : ∃ o, altered.1 = .ok o := exists_of_isOk (by decide +kernel)
  refine ⟨?_, hsame, by decide +kernel, hignored _ "schema \"public\" already exists" (by decide +kernel)⟩
  cases hreports o ho with
  | applied hkinds => cases hkinds
  | ignored _ hdone => cases hdone
  | incomplete => exact ho

end Catalog

end TypedSql
