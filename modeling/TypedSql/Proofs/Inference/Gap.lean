import TypedSql.Proofs.Inference.Lookups

/-!
# Gaps among the numbers of parameters

A statement whose parameters cannot be numbered from one fails with a number. The parameters are sorted when
they are checked, so the number that is told is the first one that is missing. A parameter with the number zero
takes the place of the first one, and then the number one is told even where it is there.
-/

namespace TypedSql

namespace Find

variable {α β : Type}

/-- A walk that fails, wherever it begins, only for what names mean. -/
def FailsByName (m : Find α) : Prop :=
  ∀ s, Avoids Error.isPositional (m.run s)

theorem FailsByName.of_looks {m : Find α}
    (h : ∀ c ctes, ∃ refs ctes', Looks c ctes m refs ctes') : FailsByName m := by
  intro s
  obtain ⟨refs, ctes', hlooks⟩ := h s.scope.catalog s.scope.ctes.keys
  exact hlooks.avoids s s.scope.within_keys

theorem failsByName_pure (a : α) : FailsByName (pure a) :=
  fun _ => avoids_ok _

theorem FailsByName.bind {m : Find α} {k : α → Find β} (hm : FailsByName m)
    (hk : ∀ a, FailsByName (k a)) : FailsByName (m >>= k) := by
  intro s
  rw [StateT.run_bind]
  exact (hm s).bind fun p _ => hk p.1 p.2

theorem failsByName_get_bind {k : Finding → Find α} (hk : ∀ s, FailsByName (k s)) :
    FailsByName (get >>= k) :=
  fun s => hk s s

theorem failsByName_lift_bind {x : Except Error α} {k : α → Find β} (hx : Avoids Error.isPositional x)
    (hk : ∀ a, FailsByName (k a)) : FailsByName (liftM x >>= k) := by
  cases x with
  | error e => exact fun _ => avoids_error (hx e rfl)
  | ok a => exact hk a

theorem FailsByName.withLevel {m : Find Unit} (h : FailsByName m) (tables : List SourceTable) :
    FailsByName (withLevel tables m) :=
  FailsByName.bind (fun _ => avoids_ok _) fun _ => h.bind fun _ _ => avoids_ok _

theorem failsByName_forM {γ : Type} {f : γ → Find Unit} (h : ∀ a, FailsByName (f a)) (l : List γ) :
    FailsByName (l.forM f) := by
  induction l with
  | nil => exact failsByName_pure ()
  | cons a l ih => exact (h a).bind fun _ => ih

theorem failsByName_expr (e : Expr) : FailsByName (expr e) :=
  .of_looks fun c ctes => ⟨_, _, expr_looks c ctes e⟩

theorem failsByName_option (e : Option Expr) : FailsByName (option e) :=
  .of_looks fun c ctes => ⟨_, _, option_looks c ctes e⟩

theorem failsByName_query (targets : Option (List TypedColumn)) (q : Query) :
    FailsByName (query targets q) :=
  .of_looks fun c ctes => ⟨_, _, query_looks c ctes targets q⟩

theorem failsByName_returning (ts : List Target) : FailsByName (returning ts) :=
  .of_looks fun c ctes => ⟨_, _, targetRow_looks c ctes none 0 ts⟩

theorem failsByName_source : (item : FromItem) → FailsByName (source item)
  | .join _ left right condition => (failsByName_source left).bind fun _ =>
    (failsByName_source right).bind fun _ => failsByName_option condition
  | .range _ | .subquery .. | .other _ => failsByName_pure ()

theorem failsByName_sources (items : List FromItem) : FailsByName (sources items) := by
  induction items with
  | nil => exact failsByName_pure ()
  | cons item items ih => exact (failsByName_source item).bind fun _ => ih

theorem failsByName_assignment (t : SourceTable) (a : Assignment) : FailsByName (assignment t a) := by
  unfold assignment
  split
  · exact failsByName_lift_bind (avoids_targetColumn t a.column) fun _ _ => avoids_ok _
  · exact failsByName_expr a.value

theorem failsByName_statement (s : Statement) : FailsByName (statement s) := by
  cases s with
  | select q => exact failsByName_query none q
  | insert i =>
    refine failsByName_get_bind fun s => failsByName_lift_bind (Scope.avoids_table _) fun t =>
      failsByName_lift_bind (avoids_insertColumns t i.columns) fun columns => ?_
    have hrest := ((failsByName_forM (failsByName_assignment t) i.onConflict).bind fun _ =>
      (failsByName_option i.conflictSelection).bind fun _ => failsByName_returning i.returning).withLevel [t]
    split
    · exact (failsByName_query (some columns) _).bind fun _ => hrest
    · exact hrest
  | update u =>
    refine failsByName_get_bind fun s => failsByName_lift_bind (Scope.avoids_table _) fun t =>
      failsByName_lift_bind (Scope.avoids_targetTables _ _) fun level => ?_
    exact ((failsByName_forM (failsByName_assignment t) u.assignments).bind fun _ =>
      (failsByName_sources u.sources).bind fun _ => (failsByName_option u.selection).bind fun _ =>
      failsByName_returning u.returning).withLevel level
  | delete d =>
    refine failsByName_get_bind fun s => failsByName_lift_bind (Scope.avoids_targetTables _ _) fun level => ?_
    exact ((failsByName_sources d.sources).bind fun _ => (failsByName_option d.selection).bind fun _ =>
      failsByName_returning d.returning).withLevel level
  | truncate _ => exact failsByName_pure ()
  | define _ | noOp _ | other _ => exact fun _ => avoids_error rfl

end Find

namespace TypedParam

theorem ofOccurrences_gap {found : List TypedParam} {k : Nat}
    (h : ofOccurrences found = .error (.parameterTypeUnknown k)) :
    1 ≤ k ∧ (∀ n, 1 ≤ n → n < k → n ∈ found.map number) ∧ (0 ∈ found.map number → k = 1) ∧
      (0 ∉ found.map number → k ∉ found.map number ∧ ∃ n ∈ found.map number, k < n) := by
  obtain h | ⟨_, _, ⟨⟩⟩ := bind_eq_error.mp h
  obtain ⟨before, p, after, hps, hbefore, hp, hk⟩ := checkDense_error h
  obtain rfl := Error.parameterTypeUnknown.inj hk
  have hsorted := sortByNumber_sorted (nodup_settled found)
  have hmem (n : Nat) : n ∈ found.map number ↔
      n ∈ List.range' 1 before.length ∨ n = p.number ∨ n ∈ after.map number := by
    rw [← mem_numbers_settled, ← ((sortByNumber_perm _).map number).mem_iff, hps, List.map_append,
      List.map_cons, hbefore, List.mem_append, List.mem_cons]
  rw [hps, List.map_append, List.map_cons, hbefore, List.pairwise_append, List.pairwise_cons] at hsorted
  obtain ⟨-, ⟨hafter, -⟩, hcross⟩ := hsorted
  simp only [hmem, List.mem_range'_1]
  -- the check stops behind the gap, or at a zero, which is the first of the sorted numbers
  obtain ⟨hempty, hzero⟩ | hbehind : before.length = 0 ∧ p.number = 0 ∨ 1 + before.length < p.number := by
    rcases Nat.eq_zero_or_pos before.length with hempty | hpos
    · omega
    · have hlast := hcross before.length (by rw [List.mem_range'_1]; omega) p.number List.mem_cons_self
      omega
  · refine ⟨by omega, fun n _ _ => by omega, fun _ => by omega, fun hnot => ?_⟩
    exact absurd (.inr (.inl hzero.symm)) hnot
  · have hlarge : ∀ n, n = p.number ∨ n ∈ after.map number → 1 + before.length < n := by
      rintro n (rfl | hn)
      · exact hbehind
      · exact Nat.lt_trans hbehind (hafter n hn)
    refine ⟨by omega, fun n _ _ => .inl (by omega), ?_, fun _ => ⟨?_, p.number, .inr (.inl rfl), hbehind⟩⟩
    · rintro (hrange | htail)
      · omega
      · exact absurd (hlarge 0 htail) (Nat.not_lt_zero _)
    · rintro (hrange | htail)
      · omega
      · exact absurd (hlarge _ htail) (Nat.lt_irrefl _)

end TypedParam

def Statement.numbers (s : Statement) : List Nat :=
  s.exprs.filterMap Expr.param?

namespace Scope

/-- A number that is told for a gap comes behind numbers that are all there. It is itself missing, unless there
are parameters with the numbers zero and one. -/
theorem params_gap {scope : Scope} {s : Statement} {set : ParamSet} {k : Nat}
    (h : scope.params s set = .error (.parameterTypeUnknown k)) :
    1 ≤ k ∧ (∀ n, 1 ≤ n → n < k → n ∈ s.numbers) ∧
      (k ∈ s.numbers ↔ 0 ∈ s.numbers ∧ 1 ∈ s.numbers) ∧
      (0 ∈ s.numbers → k = 1) ∧ (0 ∉ s.numbers → ∃ n ∈ s.numbers, k < n) := by
  rcases bind_eq_error.mp h with h | ⟨⟨_, end_⟩, hrun, h⟩
  · cases Find.failsByName_statement s _ _ h
  obtain h | ⟨_, _, ⟨⟩⟩ := bind_eq_error.mp h
  obtain ⟨hk, hbelow, hzero, hgap⟩ := TypedParam.ofOccurrences_gap h
  rw [Find.found_numbers hrun] at hbelow hzero hgap
  refine ⟨hk, hbelow, ⟨fun hin => ?_, fun ⟨hzeroIn, honeIn⟩ => ?_⟩, hzero, fun hnot => (hgap hnot).2⟩
  · have hzeroIn : 0 ∈ s.numbers := by
      by_contra hnot
      exact (hgap hnot).1 hin
    exact ⟨hzeroIn, hzero hzeroIn ▸ hin⟩
  · rw [hzero hzeroIn]
    exact honeIn

theorem params_gap_between :
    let scope := Scope.insertCte { catalog := .initial {} } "c" [] [.ofType "a" (.ofName "int")]
    let s : Statement := .delete
      { relation := ⟨.ofName "c", none⟩
        sources := []
        selection := some (.inList (.column ["a"]) [.param 3 none, .param 1 none] false)
        returning := [] }
    scope.params s {} = .error (.parameterTypeUnknown 2) ∧ 1 ∈ s.numbers ∧ 2 ∉ s.numbers ∧
      ∃ n ∈ s.numbers, 2 < n := by
  intro scope s
  have herror : scope.params s {} = .error (.parameterTypeUnknown 2) := by
    rw [params, TypedParam.ofOccurrences_eq_insertionSort]
    rfl
  have hzero : 0 ∉ s.numbers := by decide
  obtain ⟨-, hbelow, hiff, -, habove⟩ := params_gap herror
  exact ⟨herror, hbelow 1 (by decide) (by decide), fun hin => hzero (hiff.mp hin).1, habove hzero⟩

/-- The number that is told is there. -/
theorem params_gap_beside_zero :
    let s : Statement := .select
      ⟨[], .select ⟨false, [⟨.param 0 none, none⟩, ⟨.param 1 none, none⟩], [], none, [], none⟩, [], none, none⟩
    Scope.params { catalog := .initial {} } s {} = .error (.parameterTypeUnknown 1) ∧ 1 ∈ s.numbers := by
  refine ⟨?_, by decide⟩
  rw [params, TypedParam.ofOccurrences_eq_insertionSort]
  rfl

end Scope

end TypedSql
