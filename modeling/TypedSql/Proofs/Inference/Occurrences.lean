import TypedSql.Proofs.Inference.Settled
import TypedSql.Proofs.Scope.Joins

/-!
# Occurrences of parameters

The walk that types parameters takes short cuts: a parameter that is compared, assigned, cast or passed
is recorded where the walk stands, and the sources of a select are not entered at all. Nevertheless it
records one occurrence for each parameter that `Statement.exprs` lists, in that order, and the
parameters of a statement are numbered from one without a gap.
-/

namespace TypedSql

namespace Expr

theorem param?_eq_some {e : Expr} {n : Nat} :
    e.param? = some n ↔ ∃ location, e = .param n location := by
  cases e <;> simp [param?]

theorem column?_eq_some {e : Expr} {path : List String} :
    e.column? = some path ↔ e = .column path := by
  cases e <;> simp [column?]

theorem placeholder?_eq_some {e : Expr} {n : Nat} {type : Option TypeName}
    (h : e.placeholder? = some (n, type)) :
    ∃ location, e = .param n location ∨ ∃ t, e = .cast (.param n location) t := by
  cases e with
  | param m location =>
    simp only [placeholder?, Option.some.injEq, Prod.mk.injEq] at h
    exact ⟨location, .inl (by rw [h.1])⟩
  | cast e t =>
    obtain ⟨m, hm, heq⟩ := Option.map_eq_some_iff.mp h
    obtain ⟨location, rfl⟩ := param?_eq_some.mp hm
    cases heq
    exact ⟨location, .inr ⟨t, rfl⟩⟩
  | _ => cases h

end Expr

def FromItem.plain : FromItem → Bool
  | .range _ => true
  | .join _ left right _ => left.plain && right.plain
  | .subquery .. => false
  | .other _ => false

namespace Scope

theorem plain_of_itemTables {scope : Scope} {item : FromItem} {ts : List SourceTable}
    (h : scope.itemTables item = .ok ts) : item.plain = true :=
  match item with
  | .range _ => rfl
  | .join _ left right _ => by
    obtain ⟨ls, hl, h⟩ := bind_eq_ok.mp h
    obtain ⟨rs, hr, _⟩ := bind_eq_ok.mp h
    rw [FromItem.plain, plain_of_itemTables hl, plain_of_itemTables hr]
    rfl
  | .subquery .. => by cases h
  | .other _ => by cases h

theorem plain_of_tables {scope : Scope} {items : List FromItem} {ts : List SourceTable}
    (h : scope.tables items = .ok ts) : ∀ item ∈ items, item.plain = true := by
  rw [tables_eq] at h
  obtain ⟨tss, hmap, -⟩ := bind_eq_ok.mp h
  clear h
  induction items generalizing tss with
  | nil => simp
  | cons item items ih =>
    rw [List.mapM_cons] at hmap
    obtain ⟨ts, hitem, hmap⟩ := bind_eq_ok.mp hmap
    obtain ⟨tss, hitems, _⟩ := bind_eq_ok.mp hmap
    exact List.forall_mem_cons.mpr ⟨plain_of_itemTables hitem, ih tss hitems⟩

theorem plain_of_targetTables {scope : Scope} {target : RangeVar} {items : List FromItem}
    {ts : List SourceTable} (h : scope.targetTables target items = .ok ts) :
    ∀ item ∈ items, item.plain = true := by
  obtain ⟨t, _, h⟩ := bind_eq_ok.mp h
  obtain ⟨us, htables, _⟩ := bind_eq_ok.mp h
  exact plain_of_tables htables

end Scope

namespace Finding

def Adds (s s' : Finding) (es : List Expr) : Prop :=
  ∃ new, s'.found = s.found ++ new ∧ new.map TypedParam.number = es.filterMap Expr.param?

theorem adds_nil {s s' : Finding} (h : s'.found = s.found) : s.Adds s' [] :=
  ⟨[], by rw [h, List.append_nil], rfl⟩

theorem Adds.append {s t s' : Finding} {es fs : List Expr} (h : s.Adds t es) (h' : t.Adds s' fs) :
    s.Adds s' (es ++ fs) := by
  obtain ⟨new, hfound, hnew⟩ := h
  obtain ⟨new', hfound', hnew'⟩ := h'
  refine ⟨new ++ new', by rw [hfound', hfound, List.append_assoc], ?_⟩
  rw [List.map_append, hnew, hnew', List.filterMap_append]

theorem Adds.of_numbers {s s' : Finding} {es fs : List Expr} (h : s.Adds s' es)
    (heq : es.filterMap Expr.param? = fs.filterMap Expr.param?) : s.Adds s' fs := by
  obtain ⟨new, hfound, hnew⟩ := h
  exact ⟨new, hfound, hnew.trans heq⟩

end Finding

namespace Find

variable {α β : Type}

/-- Where a walk succeeds, it has recorded the parameters among the expressions, in their order, and the
scope is what it was. -/
def Records (m : Find α) (es : List Expr) : Prop :=
  ∀ s a s', m.run s = .ok (a, s') →
    s'.scope = s.scope ∧ s.Adds s' es

theorem run_bind_eq_ok {m : Find α} {k : α → Find β} {s s' : Finding} {b : β} :
    (m >>= k).run s = .ok (b, s') ↔ ∃ a t, m.run s = .ok (a, t) ∧ (k a).run t = .ok (b, s') := by
  rw [StateT.run_bind, bind_eq_ok, Prod.exists]

theorem run_lift_bind_eq_ok {x : Except Error α} {k : α → Find β} {s s' : Finding} {b : β} :
    (liftM x >>= k : Find β).run s = .ok (b, s') ↔ ∃ a, x = .ok a ∧ (k a).run s = .ok (b, s') := by
  cases x with
  | error e =>
    constructor
    · rintro ⟨⟩
    · rintro ⟨_, ⟨⟩, _⟩
  | ok a =>
    constructor
    · exact fun h => ⟨a, rfl, h⟩
    · rintro ⟨_, ⟨⟩, h⟩
      exact h

theorem Records.of_numbers {m : Find α} {es fs : List Expr} (h : Records m es)
    (heq : es.filterMap Expr.param? = fs.filterMap Expr.param?) : Records m fs :=
  fun s a s' hrun => ⟨(h s a s' hrun).1, (h s a s' hrun).2.of_numbers heq⟩

theorem Records.cons {m : Find α} {es : List Expr} (h : Records m es) {e : Expr}
    (he : e.param? = none) : Records m (e :: es) :=
  h.of_numbers (List.filterMap_cons_none he).symm

theorem records_pure (a : α) : Records (pure a) [] := by
  rintro s _ _ ⟨⟩
  exact ⟨rfl, Finding.adds_nil rfl⟩

theorem records_throw (e : Error) (es : List Expr) : Records (throw e : Find α) es := by
  rintro s _ _ ⟨⟩

theorem records_record (n : Nat) (c : TypedColumn) (location : Option Nat) :
    Records (record n c) [.param n location] := by
  rintro s _ _ ⟨⟩
  exact ⟨rfl, [⟨n, c⟩], rfl, rfl⟩

theorem Records.seq {m : Find α} {k : α → Find β} {es fs : List Expr} (hm : Records m es)
    (hk : ∀ a, Records (k a) fs) : Records (m >>= k) (es ++ fs) := by
  intro s b s' h
  obtain ⟨a, t, hrun, h⟩ := run_bind_eq_ok.mp h
  obtain ⟨hscope, hadds⟩ := hm s a t hrun
  obtain ⟨hscope', hadds'⟩ := hk a t b s' h
  exact ⟨hscope'.trans hscope, hadds.append hadds'⟩

theorem records_get_bind {k : Finding → Find α} {es : List Expr} (hk : ∀ s, Records (k s) es) :
    Records (get >>= k) es :=
  fun s b s' h => hk s s b s' h

theorem records_lift_bind {x : Except Error α} {k : α → Find β} {es : List Expr}
    (hk : ∀ a, x = .ok a → Records (k a) es) : Records (liftM x >>= k) es := by
  intro s b s' h
  obtain ⟨a, hx, h⟩ := run_lift_bind_eq_ok.mp h
  exact hk a hx s b s' h

theorem records_column_bind {path : List String} {k : TypedColumn → Find α} {es : List Expr}
    (hk : ∀ c, Records (k c) es) : Records (column path >>= k) es := by
  intro s b s' h
  have h : (liftM (lookup path s.levels) >>= k : Find α).run s = .ok (b, s') := h
  obtain ⟨c, _, h⟩ := run_lift_bind_eq_ok.mp h
  exact hk c s b s' h

theorem run_tables_bind_eq_ok {items : List FromItem} {k : List SourceTable → Find α} {s s' : Finding}
    {b : α} : (tables items >>= k).run s = .ok (b, s') ↔
      ∃ level, s.scope.tables items = .ok level ∧ (k level).run s = .ok (b, s') :=
  run_lift_bind_eq_ok (x := s.scope.tables items)

theorem records_tables_bind {items : List FromItem} {k : List SourceTable → Find α} {es : List Expr}
    (hk : ∀ level, (∀ item ∈ items, item.plain = true) → Records (k level) es) :
    Records (tables items >>= k) es := by
  intro s b s' h
  obtain ⟨level, htables, h⟩ := run_tables_bind_eq_ok.mp h
  exact hk level (Scope.plain_of_tables htables) s b s' h

theorem records_level_bind (main : Body) {k : List SourceTable → Find α} {es : List Expr}
    (hk : ∀ level, Records (k level) es) :
    Records (match main.leftmost? with
      | some s => tables s.sources >>= k
      | none => pure [] >>= k) es := by
  split
  · exact records_tables_bind fun level _ => hk level
  · exact hk []

theorem Records.withLevel {m : Find Unit} {es : List Expr} (h : Records m es)
    (tables : List SourceTable) : Records (withLevel tables m) es := by
  intro s u s' hrun
  obtain ⟨_, _, ⟨⟩, hlevel⟩ := run_bind_eq_ok.mp hrun
  obtain ⟨_, t, hm, ⟨⟩⟩ := run_bind_eq_ok.mp hlevel
  exact h { s with levels := tables :: s.levels } _ t hm

theorem keepScope_eq_ok {m : Find Unit} {s s' : Finding} {u : Unit} :
    (keepScope m).run s = .ok (u, s') ↔
      ∃ t, m.run s = .ok ((), t) ∧ s' = { t with scope := s.scope } := by
  change (m >>= fun _ => modify _ : Find Unit).run s = _ ↔ _
  rw [run_bind_eq_ok]
  constructor
  · rintro ⟨_, t, hm, ⟨⟩⟩
    exact ⟨t, hm, rfl⟩
  · rintro ⟨t, hm, rfl⟩
    exact ⟨(), t, hm, rfl⟩

theorem Records.paramOr {walk : Find Unit} {e : Expr} (h : Records walk (Visit.expr e))
    (c : TypedColumn) : Records (paramOr c e walk) (Visit.expr e) := by
  unfold Find.paramOr
  split
  · rename_i n hn
    obtain ⟨location, rfl⟩ := Expr.param?_eq_some.mp hn
    exact records_record n c location
  · exact h

theorem Records.itemOr {walk : Find Unit} {e : Expr} (h : Records walk (Visit.expr e))
    (targets : Option (List TypedColumn)) (i : Nat) :
    Records (itemOr targets i e walk) (Visit.expr e) := by
  unfold Find.itemOr
  split
  · rename_i columns n hn
    obtain ⟨location, rfl⟩ := Expr.param?_eq_some.mp hn
    split
    · exact records_record n _ location
    · exact records_throw _ _
  · exact h

-- The induction follows the walk. Only a select needs more than its parts: its sources are read as
-- tables before the walk goes on, so they hold no further query.
mutual

theorem expr_records : (e : Expr) → Records (expr e) (Visit.expr e)
  | .param n location => records_record n (.untyped "") location
  | .column _ => (records_pure ()).cons rfl
  | .star _ => (records_pure ()).cons rfl
  | .named _ _ => (records_pure ()).cons rfl
  | .literal _ => (records_pure ()).cons rfl
  | .binary left op right => by
    refine Records.cons ?_ rfl
    rw [expr]
    have hboth := (expr_records left).seq fun _ => expr_records right
    split
    · exact ((expr_records left).paramOr text).seq fun _ => (expr_records right).paramOr text
    · split
      · exact hboth
      · split
        · rename_i n _ hn hpath
          obtain ⟨location, rfl⟩ := Expr.param?_eq_some.mp hn
          obtain rfl := Expr.column?_eq_some.mp hpath
          refine records_column_bind fun c => ?_
          exact (records_record n c location).of_numbers rfl
        · rename_i path n hpath hn _
          obtain ⟨location, rfl⟩ := Expr.param?_eq_some.mp hn
          obtain rfl := Expr.column?_eq_some.mp hpath
          refine records_column_bind fun c => ?_
          exact (records_record n c location).of_numbers rfl
        · exact hboth
  | .unary _ e => (expr_records e).cons rfl
  | .call c args => (records_get_bind fun s =>
      arguments_records c (s.scope.catalog.resolve c).toOption 0 args).cons rfl
  | .cast e type => ((expr_records e).paramOr (.ofType "" type)).cons rfl
  | .between e _ low high => by
    refine Records.cons ?_ rfl
    rw [expr]
    split
    · rename_i path hpath
      obtain rfl := Expr.column?_eq_some.mp hpath
      refine records_column_bind fun c => ?_
      exact (((expr_records low).paramOr _).seq fun _ => (expr_records high).paramOr _).of_numbers rfl
    · exact ((expr_records e).seq fun _ => (expr_records low).seq fun _ =>
        expr_records high).of_numbers (by rw [List.append_assoc])
  | .inList e items _ => by
    refine Records.cons ?_ rfl
    rw [expr]
    split
    · rename_i path hpath
      obtain rfl := Expr.column?_eq_some.mp hpath
      refine records_column_bind fun c => ?_
      exact (members_records c items).of_numbers rfl
    · exact (expr_records e).seq fun _ => exprs_records items
  | .inQuery e q _ => (records_get_bind fun s =>
      ((expr_records e).paramOr (firstColumn s.scope q)).seq fun _ => query_records none q).cons rfl
  | .exist q _ => (query_records none q).cons rfl
  | .subquery q => (query_records none q).cons rfl
  | .choose operand conditions results otherwise => by
    have h := (option_records operand).seq fun _ => (exprs_records conditions).seq fun _ =>
      (exprs_records results).seq fun _ => option_records otherwise
    exact (h.of_numbers (by simp only [List.append_assoc])).cons rfl
  | .isNull e _ => (expr_records e).cons rfl
  | .array items => (exprs_records items).cons rfl
  | .other _ params => (exprs_records params).cons rfl

theorem exprs_records : (es : List Expr) → Records (exprs es) (Visit.exprs es)
  | [] => records_pure ()
  | e :: es => (expr_records e).seq fun _ => exprs_records es

theorem members_records (c : TypedColumn) : (es : List Expr) → Records (members c es) (Visit.exprs es)
  | [] => records_pure ()
  | e :: es => ((expr_records e).paramOr c).seq fun _ => members_records c es

theorem option_records : (e : Option Expr) → Records (option e) (Visit.option e)
  | none => records_pure ()
  | some e => expr_records e

theorem arguments_records (c : Call) (callee : Option Function) (i : Nat) :
    (es : List Expr) → Records (arguments c callee i es) (Visit.exprs es)
  | [] => records_pure ()
  | e :: es => by
    rw [arguments]
    have hes := arguments_records c callee (i + 1) es
    split
    · rename_i n cast hn
      obtain ⟨location, rfl | ⟨type, rfl⟩⟩ := Expr.placeholder?_eq_some hn
      · exact (records_record n _ location).seq fun _ => hes
      · exact ((records_record n _ location).cons rfl).seq fun _ => hes
    · exact (expr_records e).seq fun _ => hes

theorem query_records (targets : Option (List TypedColumn)) :
    (q : Query) → Records (query targets q) (Visit.query q)
  | ⟨named, main, orderBy, limit, offset⟩ => by
    intro s u s' h
    obtain ⟨t, hwalk, rfl⟩ := keepScope_eq_ok.mp h
    obtain ⟨_, t', hctes, hmain⟩ := run_bind_eq_ok.mp hwalk
    have hrest (level : List SourceTable) := ((exprs_records orderBy).withLevel level).seq fun _ =>
      (bound_records "limit" limit).seq fun _ => bound_records "offset" offset
    have hquery := (body_records targets main).seq fun _ => records_level_bind main hrest
    refine ⟨rfl, ((ctes_records named s _ t' hctes).2.append (hquery _ _ _ hmain).2).of_numbers ?_⟩
    simp only [Visit.query, List.append_assoc]

theorem ctes_records : (cs : List Cte) → ∀ s u s', (ctes cs).run s = .ok (u, s') →
    s.scope.addCtes cs = .ok s'.scope ∧ s.Adds s' (Visit.ctes cs)
  | [], s, _, _, h => by
    cases h
    exact ⟨rfl, Finding.adds_nil rfl⟩
  | c :: cs, s, u, s', h => by
    obtain ⟨_, t, hc, h⟩ := run_bind_eq_ok.mp h
    obtain ⟨hscope, hadds⟩ := cte_records c s _ t hc
    obtain ⟨hscope', hadds'⟩ := ctes_records cs t u s' h
    exact ⟨bind_eq_ok.mpr ⟨t.scope, hscope, hscope'⟩, hadds.append hadds'⟩

theorem cte_records : (c : Cte) → ∀ s u s', (cte c).run s = .ok (u, s') →
    s.scope.addCte c = .ok s'.scope ∧ s.Adds s' (Visit.cte c)
  | ⟨name, names, q⟩, s, u, s', h => by
    obtain ⟨_, t, hq, h⟩ := run_bind_eq_ok.mp h
    obtain ⟨hscope, hadds⟩ := query_records none q s _ t hq
    have h : (liftM (t.scope.columns q) >>= fun columns =>
        set { t with scope := t.scope.insertCte name names columns } : Find Unit).run t
          = .ok (u, s') := h
    obtain ⟨columns, hcolumns, ⟨⟩⟩ := run_lift_bind_eq_ok.mp h
    rw [hscope] at hcolumns ⊢
    exact ⟨bind_eq_ok.mpr ⟨columns, hcolumns, rfl⟩, hadds⟩

theorem bound_records (name : String) : (e : Option Expr) → Records (bound name e) (Visit.option e)
  | none => records_pure ()
  | some e => (expr_records e).paramOr _

theorem body_records (targets : Option (List TypedColumn)) :
    (b : Body) → Records (body targets b) (Visit.body b)
  | .select s => select_records targets s
  | .setOp _ left right => (body_records targets left).seq fun _ => body_records targets right
  | .values rs => rows_records targets rs
  | .query q => query_records targets q

theorem rows_records (targets : Option (List TypedColumn)) :
    (rs : List (List Expr)) → Records (rows targets rs) (Visit.rows rs)
  | [] => records_pure ()
  | r :: rs => (row_records targets 0 r).seq fun _ => rows_records targets rs

theorem row_records (targets : Option (List TypedColumn)) (i : Nat) :
    (es : List Expr) → Records (row targets i es) (Visit.exprs es)
  | [] => records_pure ()
  | e :: es => ((expr_records e).itemOr targets i).seq fun _ => row_records targets (i + 1) es

theorem select_records (targets : Option (List TypedColumn)) :
    (s : Select) → Records (select targets s) (Visit.select s)
  | ⟨_, items, from_, selection, groupBy, having⟩ => by
    refine records_tables_bind fun level hplain => ?_
    have h := (targetRow_records targets 0 items).seq fun _ => (sources_records from_ hplain).seq
      fun _ => (option_records selection).seq fun _ => (exprs_records groupBy).seq
      fun _ => option_records having
    refine Records.withLevel (h.of_numbers ?_) level
    simp only [Visit.select, List.append_assoc]

theorem targetRow_records (targets : Option (List TypedColumn)) (i : Nat) :
    (ts : List Target) → Records (targetRow targets i ts) (Visit.targets ts)
  | [] => records_pure ()
  | t :: ts => (target_records targets i t).seq fun _ => targetRow_records targets (i + 1) ts

theorem target_records (targets : Option (List TypedColumn)) (i : Nat) :
    (t : Target) → Records (target targets i t) (Visit.target t)
  | ⟨value, _⟩ => (expr_records value).itemOr targets i

theorem sources_records : (items : List FromItem) → (∀ item ∈ items, item.plain = true) →
    Records (sources items) (Visit.sources items)
  | [], _ => records_pure ()
  | item :: items, h =>
    have ⟨hitem, hitems⟩ := List.forall_mem_cons.mp h
    (source_records item hitem).seq fun _ => sources_records items hitems

theorem source_records : (item : FromItem) → item.plain = true → Records (source item) (Visit.source item)
  | .range _, _ => records_pure ()
  | .join _ left right condition, h => by
    have ⟨hleft, hright⟩ := Bool.and_eq_true_iff.mp h
    exact ((source_records left hleft).seq fun _ => (source_records right hright).seq fun _ =>
      option_records condition).of_numbers (by simp only [Visit.source, List.append_assoc])
  | .subquery .., h => by cases h
  | .other _, h => by cases h

end

theorem records_forM {γ : Type} {f : γ → Find Unit} {g : γ → List Expr}
    (h : ∀ a, Records (f a) (g a)) (l : List γ) : Records (l.forM f) (l.flatMap g) := by
  induction l with
  | nil => exact records_pure ()
  | cons a l ih => exact (h a).seq fun _ => ih

theorem assignment_records (t : SourceTable) (a : Assignment) :
    Records (assignment t a) (Visit.expr a.value) := by
  unfold assignment
  split
  · rename_i n hn
    obtain ⟨location, hvalue⟩ := Expr.param?_eq_some.mp hn
    rw [hvalue]
    exact records_lift_bind fun c _ => records_record n c location
  · exact expr_records a.value

theorem returning_records (ts : List Target) : Records (returning ts) (Visit.targets ts) :=
  targetRow_records none 0 ts

theorem insert_records (i : Insert) : Records (insert i) (Statement.insert i).exprs := by
  refine records_get_bind fun s => records_lift_bind fun t _ => records_lift_bind fun columns _ => ?_
  have hrest := (((records_forM (assignment_records t) i.onConflict).seq fun _ =>
    (option_records i.conflictSelection).seq fun _ => returning_records i.returning).withLevel [t])
  simp only [Statement.exprs, List.append_assoc]
  split
  · rename_i q hq
    rw [hq]
    exact (query_records (some columns) q).seq fun _ => hrest
  · rename_i hnone
    cases hsource : i.source with
    | none => exact hrest
    | some q => exact absurd hsource (hnone q)

theorem update_records (u : Update) : Records (update u) (Statement.update u).exprs := by
  refine records_get_bind fun s => records_lift_bind fun t _ => records_lift_bind fun level hlevel => ?_
  have hplain := Scope.plain_of_targetTables hlevel
  refine Records.withLevel (Records.of_numbers ((records_forM (assignment_records t) u.assignments).seq
    fun _ => (sources_records u.sources hplain).seq fun _ => (option_records u.selection).seq
    fun _ => returning_records u.returning) ?_) level
  simp only [Statement.exprs, Visit.assignments, List.append_assoc]

theorem delete_records (d : Delete) : Records (delete d) (Statement.delete d).exprs := by
  refine records_get_bind fun s => records_lift_bind fun level hlevel => ?_
  have hplain := Scope.plain_of_targetTables hlevel
  refine Records.withLevel (Records.of_numbers ((sources_records d.sources hplain).seq
    fun _ => (option_records d.selection).seq fun _ => returning_records d.returning) ?_) level
  simp only [Statement.exprs, List.append_assoc]

theorem statement_records (s : Statement) : Records (statement s) s.exprs := by
  cases s with
  | select q => exact query_records none q
  | insert i => exact insert_records i
  | update u => exact update_records u
  | delete d => exact delete_records d
  | truncate _ => exact records_pure ()
  | define _ => exact records_throw _ _
  | noOp _ => exact records_throw _ _
  | other _ => exact records_throw _ _

theorem found_numbers {scope : Scope} {s : Statement} {u : Unit} {end_ : Finding}
    (h : (statement s).run { scope } = .ok (u, end_)) :
    end_.found.map TypedParam.number = s.exprs.filterMap Expr.param? := by
  obtain ⟨-, new, hnew, hnumbers⟩ := statement_records s _ _ _ h
  rw [hnew]
  exact hnumbers

end Find

@[simp] theorem TypedParam.nameIn_number (set : ParamSet) (p : TypedParam) : (p.nameIn set).number = p.number := by
  unfold TypedParam.nameIn
  split <;> rfl

namespace Scope

theorem params_numbers {scope : Scope} {s : Statement} {set : ParamSet} {ps : List TypedParam}
    (h : scope.params s set = .ok ps) :
    ps.map TypedParam.number = List.range' 1 ps.length ∧
      ∀ n, n ∈ ps.map TypedParam.number ↔ n ∈ s.exprs.filterMap Expr.param? := by
  obtain ⟨⟨_, end_⟩, hrun, h⟩ := bind_eq_ok.mp h
  obtain ⟨qs, hqs, h⟩ := bind_eq_ok.mp h
  obtain rfl := pure_eq_ok_iff.mp h
  obtain ⟨hdense, hmem⟩ := TypedParam.ofOccurrences_numbers hqs
  have hmap : (qs.map (·.nameIn set)).map TypedParam.number = qs.map TypedParam.number := by simp
  rw [hmap, List.length_map, ← Find.found_numbers hrun]
  exact ⟨hdense, hmem⟩

/-- The parameters of a statement are numbered from one by their places in the list, and these are the
numbers of the parameters in the tree. -/
theorem params_dense_and_complete {scope : Scope} {s : Statement} {set : ParamSet}
    {ps : List TypedParam} (h : scope.params s set = .ok ps) :
    (∀ i (hi : i < ps.length), ps[i].number = i + 1) ∧
      ∀ n, 1 ≤ n ∧ n ≤ ps.length ↔ ∃ location, Expr.param n location ∈ s.exprs := by
  obtain ⟨hdense, hmem⟩ := params_numbers h
  constructor
  · intro i hi
    have hget := congrArg (·[i]?) hdense
    simpa [hi, Nat.add_comm] using hget
  · intro n
    have hrange : n ∈ ps.map TypedParam.number ↔ 1 ≤ n ∧ n ≤ ps.length := by
      rw [hdense, List.mem_range'_1]
      omega
    rw [← hrange, hmem, List.mem_filterMap]
    constructor
    · rintro ⟨e, he, hn⟩
      obtain ⟨location, rfl⟩ := Expr.param?_eq_some.mp hn
      exact ⟨location, he⟩
    · rintro ⟨location, he⟩
      exact ⟨_, he, rfl⟩

def nestedParams : Statement :=
  let inner : Query :=
    ⟨[], .select ⟨false, [⟨.cast (.param 2 none) (.ofName "int"), some "a"⟩], [], none, [], none⟩, [],
      none, none⟩
  let sources : FromItem := .join .inner (.range ⟨.ofName "c", none⟩) (.range ⟨.ofName "c", some "d"⟩)
    (some (.binary (.column ["c", "a"]) .eq (.param 1 none)))
  let selection := Expr.inList (.column ["d", "a"]) [.param 2 none, .other "row" [.param 4 none]] false
  .select ⟨[⟨"c", [], inner⟩],
    .select ⟨false, [⟨.column ["d", "a"], none⟩], [sources], some selection, [], none⟩, [],
    some (.param 3 none), none⟩

theorem params_dense_and_complete_nested :
    ∃ ps, Scope.params { catalog := .initial {} } nestedParams {} = .ok ps ∧ ps.length = 4 ∧
      (∀ i (hi : i < ps.length), ps[i].number = i + 1) ∧
      ∀ n, 1 ≤ n ∧ n ≤ ps.length ↔ ∃ location, Expr.param n location ∈ nestedParams.exprs := by
  have hok : Scope.params { catalog := .initial {} } nestedParams {} = .ok
      [⟨1, { name := "a", dataType := "int", notNull := true, table := some (.ofName "c") }⟩,
        ⟨2, .ofType "" (.ofName "int")⟩, ⟨3, { name := "limit", dataType := "integer", notNull := true }⟩,
        ⟨4, .untyped ""⟩] := by
    rw [params, TypedParam.ofOccurrences_eq_insertionSort]
    rfl
  exact ⟨_, hok, rfl, params_dense_and_complete hok⟩

end Scope

end TypedSql
