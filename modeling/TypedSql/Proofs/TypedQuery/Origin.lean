import TypedSql.Proofs.Inference.Occurrences
import TypedSql.Proofs.Scope.Origin
import TypedSql.Proofs.TypedQuery.Steps

/-!
# Origins of the columns and parameters of a query

A parameter is recorded as a copy of the column that it is compared with, assigned to or inserted into. The
walk that finds parameters keeps all columns that it can reach genuine: those of the tables around a place,
those of the named queries in scope and those recorded so far. What is made of the records, and the result
columns of the statement, are genuine then as well.
-/

namespace TypedSql

variable {c : Catalog}

structure Finding.Genuine (c : Catalog) (s : Finding) : Prop where
  scope : s.scope.Genuine c
  levels : ∀ level ∈ s.levels, SourceTable.AllGenuine c level
  found : ∀ p ∈ s.found, p.column.Genuine c

namespace Find

variable {α β : Type}

def Keeps (c : Catalog) (m : Find α) : Prop :=
  ∀ s a s', s.Genuine c → m.run s = .ok (a, s') → s'.Genuine c

theorem keeps_pure (a : α) : Keeps c (pure a : Find α) := by
  rintro s _ _ hs ⟨⟩
  exact hs

theorem keeps_throw (e : Error) : Keeps c (throw e : Find α) := by
  rintro s _ _ _ ⟨⟩

theorem keeps_record (n : Nat) {column : TypedColumn} (h : column.Genuine c) : Keeps c (record n column) := by
  rintro s _ _ hs ⟨⟩
  exact { hs with found := List.forall_mem_append.mpr ⟨hs.found, List.forall_mem_singleton.mpr h⟩ }

theorem Keeps.seq {m : Find α} {k : α → Find β} (hm : Keeps c m) (hk : ∀ a, Keeps c (k a)) :
    Keeps c (m >>= k) := by
  intro s b s' hs h
  obtain ⟨a, t, hrun, h⟩ := run_bind_eq_ok.mp h
  exact hk a t b s' (hm s a t hs hrun) h

theorem keeps_get_bind {k : Finding → Find α} (hk : ∀ s, s.Genuine c → Keeps c (k s)) :
    Keeps c (get >>= k) :=
  fun s b s' hs h => hk s hs s b s' hs h

theorem keeps_lift_bind {P : α → Prop} {x : Except Error α} {k : α → Find β} (hx : Yields P x)
    (hk : ∀ a, P a → Keeps c (k a)) : Keeps c (liftM x >>= k) := by
  intro s b s' hs h
  obtain ⟨a, ha, h⟩ := run_lift_bind_eq_ok.mp h
  exact hk a (hx a ha) s b s' hs h

theorem genuine_lookup (path : List String) (levels : List (List SourceTable))
    (hlevels : ∀ level ∈ levels, SourceTable.AllGenuine c level) :
    Yields (TypedColumn.Genuine c) (lookup path levels) := by
  induction levels with
  | nil => exact yields_error _
  | cons level levels ih =>
    obtain ⟨hlevel, hlevels⟩ := List.forall_mem_cons.mp hlevels
    rw [lookup]
    refine (genuine_findColumn hlevel path).bind fun found hfound => ?_
    cases found with
    | none => exact ih hlevels
    | some found => exact yields_ok (hfound found rfl)

theorem keeps_column_bind {path : List String} {k : TypedColumn → Find α}
    (hk : ∀ column, column.Genuine c → Keeps c (k column)) : Keeps c (column path >>= k) :=
  fun s b s' hs h => keeps_lift_bind (genuine_lookup path s.levels hs.levels) hk s b s' hs h

theorem keeps_tables_bind {items : List FromItem} {k : List SourceTable → Find α}
    (hk : ∀ level, SourceTable.AllGenuine c level → Keeps c (k level)) : Keeps c (tables items >>= k) :=
  fun s b s' hs h => keeps_lift_bind (hs.scope.tables items) hk s b s' hs h

theorem keeps_level_bind (main : Body) {k : List SourceTable → Find α}
    (hk : ∀ level, SourceTable.AllGenuine c level → Keeps c (k level)) :
    Keeps c (match main.leftmost? with
      | some s => tables s.sources >>= k
      | none => pure [] >>= k) := by
  split
  · exact keeps_tables_bind hk
  · exact hk [] (List.forall_mem_nil _)

theorem Keeps.withLevel {m : Find Unit} (h : Keeps c m) {level : List SourceTable}
    (hlevel : SourceTable.AllGenuine c level) : Keeps c (withLevel level m) := by
  intro s u s' hs hrun
  obtain ⟨_, _, ⟨⟩, hrun⟩ := run_bind_eq_ok.mp hrun
  obtain ⟨_, t, hm, ⟨⟩⟩ := run_bind_eq_ok.mp hrun
  have hinner : Finding.Genuine c { s with levels := level :: s.levels } :=
    ⟨hs.scope, List.forall_mem_cons.mpr ⟨hlevel, hs.levels⟩, hs.found⟩
  have ht := h _ _ t hinner hm
  exact { ht with levels := fun level hmem => ht.levels level (List.mem_of_mem_tail hmem) }

theorem Keeps.keepScope {m : Find Unit} (h : Keeps c m) : Keeps c (keepScope m) := by
  intro s u s' hs hrun
  obtain ⟨t, hm, rfl⟩ := keepScope_eq_ok.mp hrun
  exact { h s _ t hs hm with scope := hs.scope }

theorem Keeps.paramOr {walk : Find Unit} (h : Keeps c walk) {column : TypedColumn} (hcolumn : column.Genuine c)
    (e : Expr) : Keeps c (paramOr column e walk) := by
  unfold Find.paramOr
  split
  · exact keeps_record _ hcolumn
  · exact h

def Targets (c : Catalog) (targets : Option (List TypedColumn)) : Prop :=
  ∀ columns ∈ targets, TypedColumn.AllGenuine c columns

theorem targets_none : Targets c none := by
  rintro _ ⟨⟩

theorem Keeps.itemOr {walk : Find Unit} (h : Keeps c walk) {targets : Option (List TypedColumn)}
    (htargets : Targets c targets) (i : Nat) (e : Expr) : Keeps c (itemOr targets i e walk) := by
  unfold Find.itemOr
  split
  · rename_i columns n _
    split
    · rename_i column hcolumn
      exact keeps_record n (htargets columns rfl column (List.mem_of_getElem? hcolumn))
    · exact keeps_throw _
  · exact h

theorem genuine_argument (call : Call) (callee : Option Function) (i : Nat) (cast : Option TypeName) :
    (argument call callee i cast).Genuine c := by
  unfold argument
  dsimp only
  split <;> exact TypedColumn.genuine_of_none rfl rfl

theorem genuine_firstColumn {scope : Scope} (h : scope.Genuine c) (q : Query) :
    (firstColumn scope q).Genuine c := by
  unfold firstColumn
  split
  · rename_i column columns hcolumns
    exact h.columns q _ hcolumns column List.mem_cons_self
  · exact TypedColumn.genuine_of_none rfl rfl

-- A column is recorded only where it was looked up in the levels, or where it is a target, so the
-- induction carries along that the targets are genuine. Only a named query changes the scope.
mutual

theorem expr_keeps : (e : Expr) → Keeps c (expr e)
  | .param n _ => keeps_record n (TypedColumn.genuine_of_none rfl rfl)
  | .column _ => keeps_pure ()
  | .star _ => keeps_pure ()
  | .named _ _ => keeps_pure ()
  | .literal _ => keeps_pure ()
  | .binary left op right => by
    rw [expr]
    have hboth := (expr_keeps left).seq fun _ => expr_keeps right
    have htext : text.Genuine c := TypedColumn.genuine_of_none rfl rfl
    split
    · exact ((expr_keeps left).paramOr htext left).seq fun _ => (expr_keeps right).paramOr htext right
    · split
      · exact hboth
      · split
        · exact keeps_column_bind fun column hcolumn => keeps_record _ hcolumn
        · exact keeps_column_bind fun column hcolumn => keeps_record _ hcolumn
        · exact hboth
  | .unary _ e => expr_keeps e
  | .call call args => keeps_get_bind fun s _ =>
      arguments_keeps call (s.scope.catalog.resolve call).toOption 0 args
  | .cast e type => (expr_keeps e).paramOr (TypedColumn.genuine_of_none rfl rfl) e
  | .between e _ low high => by
    rw [expr]
    split
    · refine keeps_column_bind fun column hcolumn => ?_
      exact ((expr_keeps low).paramOr (hcolumn.rename _) low).seq fun _ =>
        (expr_keeps high).paramOr (hcolumn.rename _) high
    · exact (expr_keeps e).seq fun _ => (expr_keeps low).seq fun _ => expr_keeps high
  | .inList e items _ => by
    rw [expr]
    split
    · exact keeps_column_bind fun column hcolumn => members_keeps hcolumn items
    · exact (expr_keeps e).seq fun _ => exprs_keeps items
  | .inQuery e q _ => keeps_get_bind fun s hs =>
      ((expr_keeps e).paramOr (genuine_firstColumn hs.scope q) e).seq fun _ => query_keeps targets_none q
  | .exist q _ => query_keeps targets_none q
  | .subquery q => query_keeps targets_none q
  | .choose operand conditions results otherwise => (option_keeps operand).seq fun _ =>
      (exprs_keeps conditions).seq fun _ => (exprs_keeps results).seq fun _ => option_keeps otherwise
  | .isNull e _ => expr_keeps e
  | .array items => exprs_keeps items
  | .other _ params => exprs_keeps params

theorem exprs_keeps : (es : List Expr) → Keeps c (exprs es)
  | [] => keeps_pure ()
  | e :: es => (expr_keeps e).seq fun _ => exprs_keeps es

theorem members_keeps {column : TypedColumn} (hcolumn : column.Genuine c) :
    (es : List Expr) → Keeps c (members column es)
  | [] => keeps_pure ()
  | e :: es => ((expr_keeps e).paramOr hcolumn e).seq fun _ => members_keeps hcolumn es

theorem option_keeps : (e : Option Expr) → Keeps c (option e)
  | none => keeps_pure ()
  | some e => expr_keeps e

theorem arguments_keeps (call : Call) (callee : Option Function) (i : Nat) :
    (es : List Expr) → Keeps c (arguments call callee i es)
  | [] => keeps_pure ()
  | e :: es => by
    rw [arguments]
    have hes := arguments_keeps call callee (i + 1) es
    split
    · exact (keeps_record _ (genuine_argument call callee i _)).seq fun _ => hes
    · exact (expr_keeps e).seq fun _ => hes

theorem query_keeps {targets : Option (List TypedColumn)} (htargets : Targets c targets) :
    (q : Query) → Keeps c (query targets q)
  | ⟨named, main, orderBy, limit, offset⟩ => by
    rw [query]
    refine Keeps.keepScope ((ctes_keeps named).seq fun _ => (body_keeps htargets main).seq fun _ => ?_)
    refine keeps_level_bind main fun level hlevel => ?_
    exact ((exprs_keeps orderBy).withLevel hlevel).seq fun _ =>
      (bound_keeps "limit" limit).seq fun _ => bound_keeps "offset" offset

theorem ctes_keeps : (cs : List Cte) → Keeps c (ctes cs)
  | [] => keeps_pure ()
  | cte :: cs => (cte_keeps cte).seq fun _ => ctes_keeps cs

theorem cte_keeps : (cte : Cte) → Keeps c (Find.cte cte)
  | ⟨name, names, q⟩ => by
    refine (query_keeps targets_none q).seq fun _ => keeps_get_bind fun s hs => ?_
    refine keeps_lift_bind (hs.scope.columns q) fun columns hcolumns => ?_
    rintro _ _ _ - ⟨⟩
    exact { hs with scope := hs.scope.insertCte name names hcolumns }

theorem bound_keeps (name : String) : (e : Option Expr) → Keeps c (bound name e)
  | none => keeps_pure ()
  | some e => (expr_keeps e).paramOr (TypedColumn.genuine_of_none rfl rfl) e

theorem body_keeps {targets : Option (List TypedColumn)} (htargets : Targets c targets) :
    (b : Body) → Keeps c (body targets b)
  | .select s => select_keeps htargets s
  | .setOp _ left right => (body_keeps htargets left).seq fun _ => body_keeps htargets right
  | .values rs => rows_keeps htargets rs
  | .query q => query_keeps htargets q

theorem rows_keeps {targets : Option (List TypedColumn)} (htargets : Targets c targets) :
    (rs : List (List Expr)) → Keeps c (rows targets rs)
  | [] => keeps_pure ()
  | r :: rs => (row_keeps htargets 0 r).seq fun _ => rows_keeps htargets rs

theorem row_keeps {targets : Option (List TypedColumn)} (htargets : Targets c targets) (i : Nat) :
    (es : List Expr) → Keeps c (row targets i es)
  | [] => keeps_pure ()
  | e :: es => ((expr_keeps e).itemOr htargets i e).seq fun _ => row_keeps htargets (i + 1) es

theorem select_keeps {targets : Option (List TypedColumn)} (htargets : Targets c targets) :
    (s : Select) → Keeps c (select targets s)
  | ⟨_, items, from_, selection, groupBy, having⟩ => by
    refine keeps_tables_bind fun level hlevel => ?_
    refine Keeps.withLevel ?_ hlevel
    exact (targetRow_keeps htargets 0 items).seq fun _ => (sources_keeps from_).seq fun _ =>
      (option_keeps selection).seq fun _ => (exprs_keeps groupBy).seq fun _ => option_keeps having

theorem targetRow_keeps {targets : Option (List TypedColumn)} (htargets : Targets c targets) (i : Nat) :
    (ts : List Target) → Keeps c (targetRow targets i ts)
  | [] => keeps_pure ()
  | t :: ts => (target_keeps htargets i t).seq fun _ => targetRow_keeps htargets (i + 1) ts

theorem target_keeps {targets : Option (List TypedColumn)} (htargets : Targets c targets) (i : Nat) :
    (t : Target) → Keeps c (target targets i t)
  | ⟨value, _⟩ => (expr_keeps value).itemOr htargets i value

theorem sources_keeps : (items : List FromItem) → Keeps c (sources items)
  | [] => keeps_pure ()
  | item :: items => (source_keeps item).seq fun _ => sources_keeps items

theorem source_keeps : (item : FromItem) → Keeps c (source item)
  | .range _ => keeps_pure ()
  | .join _ left right condition => (source_keeps left).seq fun _ => (source_keeps right).seq
      fun _ => option_keeps condition
  | .subquery .. => keeps_pure ()
  | .other _ => keeps_pure ()

end

theorem keeps_forM {γ : Type} {f : γ → Find Unit} (h : ∀ a, Keeps c (f a)) (l : List γ) :
    Keeps c (l.forM f) := by
  induction l with
  | nil => exact keeps_pure ()
  | cons a l ih => exact (h a).seq fun _ => ih

theorem assignment_keeps {t : SourceTable} (ht : t.Genuine c) (a : Assignment) : Keeps c (assignment t a) := by
  unfold assignment
  split
  · exact keeps_lift_bind (ht.targetColumn a.column) fun column hcolumn => keeps_record _ hcolumn
  · exact expr_keeps a.value

theorem returning_keeps (ts : List Target) : Keeps c (returning ts) :=
  targetRow_keeps targets_none 0 ts

theorem genuine_insertColumns {t : SourceTable} (ht : t.Genuine c) (names : List String) :
    Yields (TypedColumn.AllGenuine c) (insertColumns t names) := by
  unfold insertColumns
  split
  · exact yields_ok ht.columns
  · exact yields_mapM fun name _ => ht.targetColumn name

theorem insert_keeps (i : Insert) : Keeps c (insert i) := by
  refine keeps_get_bind fun s hs => keeps_lift_bind (hs.scope.table i.relation) fun t ht => ?_
  refine keeps_lift_bind (genuine_insertColumns ht i.columns) fun columns hcolumns => ?_
  have hlevel : SourceTable.AllGenuine c [t] := List.forall_mem_singleton.mpr ht
  have hrest := (((keeps_forM (assignment_keeps ht) i.onConflict).seq fun _ =>
    (option_keeps i.conflictSelection).seq fun _ => returning_keeps i.returning).withLevel hlevel)
  split
  · rename_i q _
    refine (query_keeps ?_ q).seq fun _ => hrest
    rintro _ ⟨⟩
    exact hcolumns
  · exact hrest

theorem update_keeps (u : Update) : Keeps c (update u) := by
  refine keeps_get_bind fun s hs => keeps_lift_bind (hs.scope.table u.relation) fun t ht => ?_
  refine keeps_lift_bind (hs.scope.targetTables u.relation u.sources) fun level hlevel => ?_
  exact ((keeps_forM (assignment_keeps ht) u.assignments).seq fun _ => (sources_keeps u.sources).seq
    fun _ => (option_keeps u.selection).seq fun _ => returning_keeps u.returning).withLevel hlevel

theorem delete_keeps (d : Delete) : Keeps c (delete d) := by
  refine keeps_get_bind fun s hs => ?_
  refine keeps_lift_bind (hs.scope.targetTables d.relation d.sources) fun level hlevel => ?_
  exact ((sources_keeps d.sources).seq fun _ => (option_keeps d.selection).seq fun _ =>
    returning_keeps d.returning).withLevel hlevel

theorem statement_keeps (s : Statement) : Keeps c (statement s) := by
  cases s with
  | select q => exact query_keeps targets_none q
  | insert i => exact insert_keeps i
  | update u => exact update_keeps u
  | delete d => exact delete_keeps d
  | truncate => exact keeps_pure ()
  | define | noOp | other => exact keeps_throw _

end Find

namespace TypedParam

theorem mem_of_mem_ofOccurrences {p : TypedParam} {found ps : List TypedParam}
    (h : ofOccurrences found = .ok ps) (hp : p ∈ ps) : p ∈ found := by
  have hpreferred := (mem_ofOccurrences_iff h).mp hp
  rcases Option.or_eq_some_iff.mp hpreferred with hfirst | ⟨-, hfirst⟩
  · exact List.mem_of_find?_eq_some hfirst
  · exact List.mem_of_find?_eq_some hfirst

theorem genuine_nameIn (set : ParamSet) {p : TypedParam} (h : p.column.Genuine c) :
    (p.nameIn set).column.Genuine c := by
  unfold nameIn
  split
  · exact h
  · exact ⟨h.table, h.embed⟩

end TypedParam

theorem Scope.Genuine.params {scope : Scope} (h : scope.Genuine c) (s : Statement) (set : ParamSet) :
    Yields (fun ps => ∀ p ∈ ps, p.column.Genuine c) (scope.params s set) := by
  intro ps hps p hp
  obtain ⟨⟨_, end_⟩, hrun, hps⟩ := bind_eq_ok.mp hps
  obtain ⟨settled, hsettled, hps⟩ := bind_eq_ok.mp hps
  obtain rfl := pure_eq_ok_iff.mp hps
  obtain ⟨q, hq, rfl⟩ := List.mem_map.mp hp
  have hstart : Finding.Genuine c { scope } :=
    ⟨h, fun _ hmem => absurd hmem List.not_mem_nil, fun _ hmem => absurd hmem List.not_mem_nil⟩
  have hend := Find.statement_keeps s _ _ _ hstart hrun
  exact TypedParam.genuine_nameIn set (hend.found q (TypedParam.mem_of_mem_ofOccurrences hsettled hq))

namespace TypedQuery

/-- In every catalog that operations lead to, the references of result columns and of parameters into a
schema are right. -/
theorem genuine_of_ofStatement (start : Settings) (ops : List Operation) (settings : Settings)
    {s : SourceStatement} {q : TypedQuery}
    (h : ofStatement ((Catalog.initial start).run ops) settings s = .ok q) :
    (∀ column ∈ q.columns, column.Genuine ((Catalog.initial start).run ops)) ∧
      ∀ p ∈ q.params, p.column.Genuine ((Catalog.initial start).run ops) := by
  have hc := Catalog.run_wellFormed (Catalog.initial_wellFormed start) ops
  have hscope := Scope.genuine_of_catalog hc
  have hsteps := steps_of_ok h
  exact ⟨hscope.statementColumns _ _ hsteps.columns, hscope.params _ _ _ hsteps.params⟩

theorem genuine_of_ofStatement_embed :
    let ops : List Operation :=
      [.createTable (.ofName "old") [{ name := "a", type := .ofName "text" }], .renameTable (.ofName "old") "t"]
    let c := (Catalog.initial {}).run ops
    let t := QualifiedName.ofSchema "public" "t"
    ∃ s q, Script.parseOne
        "WITH x AS (SELECT a FROM t) SELECT sqlc.embed(t), x.a FROM t JOIN x ON t.a = $1".toList = .ok s ∧
      ofStatement c {} s = .ok q ∧
      q.columns.map (fun k => (k.table, k.embed)) = [(some t, some t), (some (.ofName "x"), none)] ∧
      q.params.map (·.column.table) = [some t] ∧
      (∀ column ∈ q.columns, column.Genuine c) ∧ ∀ p ∈ q.params, p.column.Genuine c := by
  intro ops c t
  let text := "WITH x AS (SELECT a FROM t) SELECT sqlc.embed(t), x.a FROM t JOIN x ON t.a = $1".toList
  have hread : (Script.parseOne text >>= ofStatement c {}).toOption.map
      (fun q => (q.columns.map fun k => (k.table, k.embed), q.params.map (·.column.table))) =
      some ([(some t, some t), (some (.ofName "x"), none)], [some t]) := by
    decide +kernel
  obtain ⟨q, hq, hmap⟩ := exists_of_map_toOption hread
  obtain ⟨s, hs, hq⟩ := bind_eq_ok.mp hq
  obtain ⟨hcolumns, hparams⟩ := Prod.mk.inj hmap
  exact ⟨s, q, hs, hq, hcolumns, hparams, genuine_of_ofStatement {} ops {} hq⟩

end TypedQuery

end TypedSql
