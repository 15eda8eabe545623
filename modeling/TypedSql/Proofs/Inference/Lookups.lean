import TypedSql.Proofs.Inference.Occurrences
import TypedSql.Proofs.Scope

/-!
# Tables that the walk for parameters looks up

The walk looks up every table that a statement refers to, at the place of the reference, and the tables of
left-most selects once more. So where it succeeds all of them are there, and what it answers depends on the
catalog only by these tables and by the functions that are called.
-/

namespace TypedSql

def Finding.rebase (c : Catalog) (s : Finding) : Finding :=
  { s with scope := s.scope.rebase c }

namespace Find

variable {α β : Type}

/-- What a walk does with the tables `refs` that it looks up, over a catalog and from a place where some
named queries are in scope to a place where others are. -/
structure Looks (c : Catalog) (ctes : List String) (m : Find α) (refs : List Reference)
    (ctes' : List String) : Prop where
  resolves : ∀ s a s', s.scope.Within c ctes → m.run s = .ok (a, s') →
    s'.scope.Within c ctes' ∧ ∀ r ∈ refs, r.Resolves c
  avoids : ∀ s, s.scope.Within c ctes → Avoids Error.isPositional (m.run s)
  rebase : ∀ s c', s.scope.Within c ctes → c.AgreesOn refs c' →
    m.run (s.rebase c') = Prod.map id (Finding.rebase c') <$> m.run s

section Rules

variable {c : Catalog} {ctes ctes' ctes'' : List String} {refs refs' : List Reference}

theorem looks_pure (a : α) (h : ∀ r ∈ refs, r.Resolves c) : Looks c ctes (pure a) refs ctes := by
  refine ⟨?_, fun _ _ => avoids_ok _, fun _ _ _ _ => rfl⟩
  rintro s _ _ hs ⟨⟩
  exact ⟨hs, h⟩

theorem looks_throw {e : Error} (he : e.isPositional = false) :
    Looks c ctes (throw e : Find α) refs ctes' := by
  refine ⟨?_, fun _ _ => avoids_error he, fun _ _ _ _ => rfl⟩
  rintro s _ _ _ ⟨⟩

theorem looks_record (n : Nat) (column : TypedColumn) : Looks c ctes (record n column) [] ctes := by
  refine ⟨?_, fun _ _ => avoids_ok _, fun _ _ _ _ => rfl⟩
  rintro s _ _ hs ⟨⟩
  exact ⟨hs, nofun⟩

theorem Looks.bind {m : Find α} {k : α → Find β} (hm : Looks c ctes m refs ctes')
    (hk : ∀ a, Looks c ctes' (k a) refs' ctes'') : Looks c ctes (m >>= k) (refs ++ refs') ctes'' := by
  constructor
  · intro s b s' hs h
    obtain ⟨a, t, hrun, h⟩ := run_bind_eq_ok.mp h
    obtain ⟨ht, hrefs⟩ := hm.resolves s a t hs hrun
    obtain ⟨hs', hrefs'⟩ := (hk a).resolves t b s' ht h
    refine ⟨hs', fun r hr => ?_⟩
    rcases List.mem_append.mp hr with hr | hr
    · exact hrefs r hr
    · exact hrefs' r hr
  · intro s hs
    rw [StateT.run_bind]
    refine (hm.avoids s hs).bind fun ⟨a, t⟩ hrun => ?_
    exact (hk a).avoids t (hm.resolves s a t hs hrun).1
  · intro s c' hs h
    rw [StateT.run_bind, StateT.run_bind, hm.rebase s c' hs (h.mono (List.subset_append_left _ _))]
    cases hrun : m.run s with
    | error e => rfl
    | ok p =>
      obtain ⟨a, t⟩ := p
      have ht := (hm.resolves s a t hs hrun).1
      exact (hk a).rebase t c' ht (h.mono (List.subset_append_right _ _))

theorem Looks.bind_again {m : Find α} {k : α → Find β} (hm : Looks c ctes m refs ctes')
    (hk : (∀ r ∈ refs, r.Resolves c) → ∀ a, Looks c ctes' (k a) refs ctes'') :
    Looks c ctes (m >>= k) refs ctes'' := by
  constructor
  · intro s b s' hs h
    obtain ⟨a, t, hrun, h⟩ := run_bind_eq_ok.mp h
    obtain ⟨ht, hrefs⟩ := hm.resolves s a t hs hrun
    exact (hk hrefs a).resolves t b s' ht h
  · intro s hs
    rw [StateT.run_bind]
    refine (hm.avoids s hs).bind fun ⟨a, t⟩ hrun => ?_
    obtain ⟨ht, hrefs⟩ := hm.resolves s a t hs hrun
    exact (hk hrefs a).avoids t ht
  · intro s c' hs h
    rw [StateT.run_bind, StateT.run_bind, hm.rebase s c' hs h]
    cases hrun : m.run s with
    | error e => rfl
    | ok p =>
      obtain ⟨a, t⟩ := p
      obtain ⟨ht, hrefs⟩ := hm.resolves s a t hs hrun
      exact (hk hrefs a).rebase t c' ht h

theorem looks_get_bind {k : Finding → Find α}
    (hk : ∀ s, s.scope.Within c ctes → Looks c ctes (k s) refs ctes')
    (hsame : ∀ s c', s.scope.Within c ctes → c.AgreesOn refs c' → k (s.rebase c') = k s) :
    Looks c ctes (get >>= k) refs ctes' := by
  refine ⟨fun s a s' hs => (hk s hs).resolves s a s' hs, fun s hs => (hk s hs).avoids s hs, ?_⟩
  intro s c' hs h
  change (k (s.rebase c')).run (s.rebase c') = _ <$> (k s).run s
  rw [hsame s c' hs h]
  exact (hk s hs).rebase s c' hs h

theorem looks_lift_bind {x : Except Error α} {k : α → Find β} (hx : Avoids Error.isPositional x)
    (hk : ∀ a, x = .ok a → Looks c ctes (k a) refs ctes') : Looks c ctes (liftM x >>= k) refs ctes' := by
  cases x with
  | error e => exact looks_throw (hx e rfl)
  | ok a => exact hk a rfl

theorem avoids_lookup (path : List String) (levels : List (List SourceTable)) :
    Avoids Error.isPositional (lookup path levels) := by
  induction levels with
  | nil => exact avoids_error rfl
  | cons tables levels ih =>
    refine (avoids_findColumn tables path).bind fun found _ => ?_
    cases found with
    | none => exact ih
    | some found => exact avoids_ok _

theorem looks_column_bind {path : List String} {k : TypedColumn → Find α}
    (hk : ∀ column, Looks c ctes (k column) refs ctes') : Looks c ctes (column path >>= k) refs ctes' := by
  refine looks_get_bind (k := fun s => liftM (lookup path s.levels) >>= k) (fun s _ => ?_) fun _ _ _ _ => rfl
  exact looks_lift_bind (avoids_lookup path s.levels) fun column _ => hk column

theorem looks_tables_bind {items : List FromItem} {k : List SourceTable → Find α} (again : Bool)
    (hsub : (items.flatMap FromItem.relations).map ({ relation := ·, ctes, again }) ⊆ refs)
    (hk : ∀ level, (∀ item ∈ items, item.plain = true) →
      (∀ relation ∈ items.flatMap FromItem.relations, Reference.Resolves c { relation, ctes, again }) →
      Looks c ctes (k level) refs ctes') : Looks c ctes (tables items >>= k) refs ctes' := by
  refine looks_get_bind (k := fun s => liftM (s.scope.tables items) >>= k) (fun s hs => ?_) ?_
  · exact looks_lift_bind (Scope.avoids_tables items) fun level hlevel =>
      hk level (Scope.plain_of_tables hlevel) (Scope.tables_resolves hs hlevel again)
  · intro s c' hs h
    exact congrArg (liftM · >>= k) (Scope.tables_rebase again hs (h.mono hsub))

theorem looks_level_bind (main : Body) {k : List SourceTable → Find α}
    (hk : ∀ level, Looks c ctes (k level) refs ctes') :
    Looks c ctes (match main.leftmost? with
      | some s => tables s.sources >>= k
      | none => pure [] >>= k) (Refer.again ctes main.frontRelations ++ refs) ctes' := by
  unfold Body.frontRelations
  cases main.leftmost? with
  | none => exact hk []
  | some s =>
    refine looks_tables_bind true (List.subset_append_left _ _) fun level _ hres => ?_
    refine (looks_pure () fun r hr => ?_).bind (k := fun _ => k level) fun _ => hk level
    obtain ⟨relation, hrelation, rfl⟩ := List.mem_map.mp hr
    exact hres relation hrelation

theorem Looks.withLevel {m : Find Unit} (h : Looks c ctes m refs ctes') (tables : List SourceTable) :
    Looks c ctes (withLevel tables m) refs ctes' := by
  have hpush : Looks c ctes (modify fun s => { s with levels := tables :: s.levels } : Find Unit) [] ctes :=
    ⟨by rintro s _ _ hs ⟨⟩; exact ⟨hs, nofun⟩, fun _ _ => avoids_ok _, fun _ _ _ _ => rfl⟩
  have hpop : Looks c ctes' (modify fun s => { s with levels := s.levels.tail } : Find Unit) [] ctes' :=
    ⟨by rintro s _ _ hs ⟨⟩; exact ⟨hs, nofun⟩, fun _ _ => avoids_ok _, fun _ _ _ _ => rfl⟩
  have hall := hpush.bind fun _ => h.bind fun _ => hpop
  rwa [List.nil_append, List.append_nil] at hall

theorem Looks.keepScope {m : Find Unit} (h : Looks c ctes m refs ctes') :
    Looks c ctes (keepScope m) refs ctes := by
  constructor
  · intro s u s' hs hrun
    obtain ⟨t, ht, rfl⟩ := keepScope_eq_ok.mp hrun
    exact ⟨hs, (h.resolves s () t hs ht).2⟩
  · intro s hs
    exact (h.avoids s hs).bind fun _ _ => avoids_ok _
  · intro s c' hs hagree
    change (m.run (s.rebase c') >>= fun p => pure ((), { p.2 with scope := (s.rebase c').scope })) =
      Prod.map id (Finding.rebase c') <$> (m.run s >>= fun p => pure ((), { p.2 with scope := s.scope }))
    rw [h.rebase s c' hs hagree]
    cases m.run s <;> rfl

theorem looks_insertCte {name : String} {names : List String} {q : Query}
    (h : ∀ r ∈ Refer.query ctes q, r.Resolves c) :
    Looks c ctes (do
      let s ← get
      set { s with scope := s.scope.insertCte name names (← s.scope.columns q) } : Find Unit)
      (Refer.query ctes q) (ctes ++ [name]) := by
  have hrun : ∀ s : Finding, (do
      let s ← get
      set { s with scope := s.scope.insertCte name names (← s.scope.columns q) } : Find Unit).run s =
      (fun columns => ((), { s with scope := s.scope.insertCte name names columns })) <$>
        s.scope.columns q := by
    intro s
    change (liftM (s.scope.columns q) >>= fun columns =>
      set { s with scope := s.scope.insertCte name names columns } : Find Unit).run s = _
    cases s.scope.columns q <;> rfl
  constructor
  · intro s u s' hs hok
    rw [hrun] at hok
    cases hcolumns : s.scope.columns q with
    | error e =>
      rw [hcolumns] at hok
      cases hok
    | ok columns =>
      rw [hcolumns] at hok
      cases hok
      exact ⟨hs.insertCte name names columns, h⟩
  · intro s _
    rw [hrun]
    exact (Scope.avoids_columns s.scope q).map _
  · intro s c' hs hagree
    have hcolumns : (s.rebase c').scope.columns q = s.scope.columns q := Scope.columns_rebase q hs hagree
    rw [hrun, hrun, hcolumns]
    cases s.scope.columns q <;> rfl

theorem Looks.paramOr {walk : Find Unit} {e : Expr} (h : Looks c ctes walk (Refer.expr ctes e) ctes)
    (column : TypedColumn) : Looks c ctes (paramOr column e walk) (Refer.expr ctes e) ctes := by
  unfold Find.paramOr
  split
  · rename_i n hn
    obtain ⟨location, rfl⟩ := Expr.param?_eq_some.mp hn
    exact looks_record n column
  · exact h

theorem Looks.itemOr {walk : Find Unit} {e : Expr} (h : Looks c ctes walk (Refer.expr ctes e) ctes)
    (targets : Option (List TypedColumn)) (i : Nat) :
    Looks c ctes (itemOr targets i e walk) (Refer.expr ctes e) ctes := by
  unfold Find.itemOr
  split
  · rename_i columns n hn
    obtain ⟨location, rfl⟩ := Expr.param?_eq_some.mp hn
    split
    · exact looks_record n _
    · exact looks_throw rfl
  · exact h

end Rules

-- The induction follows the walk. Sources are entered only where they were read as tables, so all
-- that they refer to outside of their conditions is there.
mutual

theorem expr_looks (c : Catalog) (ctes : List String) :
    (e : Expr) → Looks c ctes (expr e) (Refer.expr ctes e) ctes
  | .param n _ => looks_record n (.untyped "")
  | .column _ | .star _ | .named _ _ | .literal _ => looks_pure () nofun
  | .binary left op right => by
    rw [expr]
    have hboth := (expr_looks c ctes left).bind fun _ => expr_looks c ctes right
    split
    · exact ((expr_looks c ctes left).paramOr text).bind fun _ => (expr_looks c ctes right).paramOr text
    · split
      · exact hboth
      · split
        · rename_i n _ hn hpath
          obtain ⟨location, rfl⟩ := Expr.param?_eq_some.mp hn
          obtain rfl := Expr.column?_eq_some.mp hpath
          exact looks_column_bind fun column => looks_record n column
        · rename_i path n hpath hn _
          obtain ⟨location, rfl⟩ := Expr.param?_eq_some.mp hn
          obtain rfl := Expr.column?_eq_some.mp hpath
          exact looks_column_bind fun column => looks_record n column
        · exact hboth
  | .unary _ e => expr_looks c ctes e
  | .call call args => by
    refine looks_get_bind (fun s _ => arguments_looks c ctes call _ 0 args) fun s c' hs h => ?_
    have hresolve : (s.rebase c').scope.catalog.resolve call = s.scope.catalog.resolve call :=
      (h.resolve call).trans (by rw [hs.catalog])
    rw [hresolve]
  | .cast e type => (expr_looks c ctes e).paramOr (.ofType "" type)
  | .between e _ low high => by
    rw [expr]
    split
    · rename_i path hpath
      obtain rfl := Expr.column?_eq_some.mp hpath
      exact looks_column_bind fun column =>
        ((expr_looks c ctes low).paramOr _).bind fun _ => (expr_looks c ctes high).paramOr _
    · have h := (expr_looks c ctes e).bind fun _ => (expr_looks c ctes low).bind fun _ =>
        expr_looks c ctes high
      rwa [← List.append_assoc] at h
  | .inList e items _ => by
    rw [expr]
    split
    · rename_i path hpath
      obtain rfl := Expr.column?_eq_some.mp hpath
      exact looks_column_bind fun column => members_looks c ctes column items
    · exact (expr_looks c ctes e).bind fun _ => exprs_looks c ctes items
  | .inQuery e q _ => by
    refine looks_get_bind (fun s _ => ((expr_looks c ctes e).paramOr _).bind fun _ =>
      query_looks c ctes none q) fun s c' hs h => ?_
    have hcolumns : (s.rebase c').scope.columns q = s.scope.columns q :=
      Scope.columns_rebase q hs (h.mono (List.subset_append_right _ _))
    rw [firstColumn, firstColumn, hcolumns]
  | .exist q _ => query_looks c ctes none q
  | .subquery q => query_looks c ctes none q
  | .choose operand conditions results otherwise => by
    have h := (option_looks c ctes operand).bind fun _ => (exprs_looks c ctes conditions).bind fun _ =>
      (exprs_looks c ctes results).bind fun _ => option_looks c ctes otherwise
    rwa [← List.append_assoc, ← List.append_assoc] at h
  | .isNull e _ => expr_looks c ctes e
  | .array items => exprs_looks c ctes items
  | .other _ params => exprs_looks c ctes params

theorem exprs_looks (c : Catalog) (ctes : List String) :
    (es : List Expr) → Looks c ctes (exprs es) (Refer.exprs ctes es) ctes
  | [] => looks_pure () nofun
  | e :: es => (expr_looks c ctes e).bind fun _ => exprs_looks c ctes es

theorem members_looks (c : Catalog) (ctes : List String) (column : TypedColumn) :
    (es : List Expr) → Looks c ctes (members column es) (Refer.exprs ctes es) ctes
  | [] => looks_pure () nofun
  | e :: es => ((expr_looks c ctes e).paramOr column).bind fun _ => members_looks c ctes column es

theorem option_looks (c : Catalog) (ctes : List String) :
    (e : Option Expr) → Looks c ctes (option e) (Refer.option ctes e) ctes
  | none => looks_pure () nofun
  | some e => expr_looks c ctes e

theorem arguments_looks (c : Catalog) (ctes : List String) (call : Call) (callee : Option Function)
    (i : Nat) : (es : List Expr) → Looks c ctes (arguments call callee i es) (Refer.exprs ctes es) ctes
  | [] => looks_pure () nofun
  | e :: es => by
    rw [arguments]
    have hes := arguments_looks c ctes call callee (i + 1) es
    split
    · rename_i n cast hn
      obtain ⟨location, rfl | ⟨type, rfl⟩⟩ := Expr.placeholder?_eq_some hn
      · exact (looks_record n _).bind fun _ => hes
      · exact (looks_record n _).bind fun _ => hes
    · exact (expr_looks c ctes e).bind fun _ => hes

theorem query_looks (c : Catalog) (ctes : List String) (targets : Option (List TypedColumn)) :
    (q : Query) → Looks c ctes (query targets q) (Refer.query ctes q) ctes
  | ⟨named, main, orderBy, limit, offset⟩ => by
    have hrest (level : List SourceTable) :=
      ((exprs_looks c (ctes ++ named.map Cte.name) orderBy).withLevel level).bind fun _ =>
        (bound_looks c _ "limit" limit).bind fun _ => bound_looks c _ "offset" offset
    have h := (ctes_looks c ctes named).bind fun _ => (body_looks c _ targets main).bind fun _ =>
      looks_level_bind main hrest
    simp only [← List.append_assoc] at h
    exact h.keepScope

theorem ctes_looks (c : Catalog) (ctes : List String) : (cs : List Cte) →
    Looks c ctes (Find.ctes cs) (Refer.cteList ctes cs) (ctes ++ cs.map Cte.name)
  | [] => by
    rw [List.map_nil, List.append_nil]
    exact looks_pure () nofun
  | cte :: cs => by
    obtain ⟨name, names, q⟩ := cte
    have h := (cte_looks c ctes ⟨name, names, q⟩).bind fun _ => ctes_looks c (ctes ++ [name]) cs
    rwa [List.append_assoc, List.singleton_append] at h

theorem cte_looks (c : Catalog) (ctes : List String) : (cte : Cte) →
    Looks c ctes (Find.cte cte) (Refer.query ctes cte.query) (ctes ++ [cte.name])
  | ⟨_, _, q⟩ => (query_looks c ctes none q).bind_again fun h _ => looks_insertCte h

theorem bound_looks (c : Catalog) (ctes : List String) (name : String) :
    (e : Option Expr) → Looks c ctes (bound name e) (Refer.option ctes e) ctes
  | none => looks_pure () nofun
  | some e => (expr_looks c ctes e).paramOr _

theorem body_looks (c : Catalog) (ctes : List String) (targets : Option (List TypedColumn)) :
    (b : Body) → Looks c ctes (body targets b) (Refer.body ctes b) ctes
  | .select s => select_looks c ctes targets s
  | .setOp _ left right => (body_looks c ctes targets left).bind fun _ => body_looks c ctes targets right
  | .values rs => rows_looks c ctes targets rs
  | .query q => query_looks c ctes targets q

theorem rows_looks (c : Catalog) (ctes : List String) (targets : Option (List TypedColumn)) :
    (rs : List (List Expr)) → Looks c ctes (rows targets rs) (Refer.rows ctes rs) ctes
  | [] => looks_pure () nofun
  | r :: rs => (row_looks c ctes targets 0 r).bind fun _ => rows_looks c ctes targets rs

theorem row_looks (c : Catalog) (ctes : List String) (targets : Option (List TypedColumn)) (i : Nat) :
    (es : List Expr) → Looks c ctes (row targets i es) (Refer.exprs ctes es) ctes
  | [] => looks_pure () nofun
  | e :: es => ((expr_looks c ctes e).itemOr targets i).bind fun _ => row_looks c ctes targets (i + 1) es

theorem select_looks (c : Catalog) (ctes : List String) (targets : Option (List TypedColumn)) :
    (s : Select) → Looks c ctes (select targets s) (Refer.select ctes s) ctes
  | ⟨_, items, from_, selection, groupBy, having⟩ => by
    have hsub : (from_.flatMap FromItem.relations).map ({ relation := ·, ctes }) ⊆
        Refer.sources ctes from_ := by
      rintro r hr
      obtain ⟨relation, hrelation, rfl⟩ := List.mem_map.mp hr
      exact Refer.mem_sources hrelation
    refine looks_tables_bind false (fun r hr => ?_) fun level hplain hres => ?_
    · simp [Refer.select, hsub hr]
    · have h := (targetRow_looks c ctes targets 0 items).bind fun _ =>
        (sources_looks c ctes from_ hplain hres).bind fun _ => (option_looks c ctes selection).bind fun _ =>
        (exprs_looks c ctes groupBy).bind fun _ => option_looks c ctes having
      simp only [← List.append_assoc] at h
      exact h.withLevel level

theorem targetRow_looks (c : Catalog) (ctes : List String) (targets : Option (List TypedColumn))
    (i : Nat) : (ts : List Target) → Looks c ctes (targetRow targets i ts) (Refer.targets ctes ts) ctes
  | [] => looks_pure () nofun
  | t :: ts => by
    obtain ⟨value, name⟩ := t
    exact ((expr_looks c ctes value).itemOr targets i).bind fun _ =>
      targetRow_looks c ctes targets (i + 1) ts

theorem sources_looks (c : Catalog) (ctes : List String) : (items : List FromItem) →
    (∀ item ∈ items, item.plain = true) →
    (∀ relation ∈ items.flatMap FromItem.relations, Reference.Resolves c { relation, ctes }) →
    Looks c ctes (sources items) (Refer.sources ctes items) ctes
  | [], _, _ => looks_pure () nofun
  | item :: items, hplain, hres => by
    obtain ⟨hitem, hitems⟩ := List.forall_mem_cons.mp hplain
    rw [List.flatMap_cons] at hres
    exact (source_looks c ctes item hitem fun relation h => hres relation (List.mem_append_left _ h)).bind
      fun _ => sources_looks c ctes items hitems fun relation h => hres relation (List.mem_append_right _ h)

theorem source_looks (c : Catalog) (ctes : List String) : (item : FromItem) → item.plain = true →
    (∀ relation ∈ item.relations, Reference.Resolves c { relation, ctes }) →
    Looks c ctes (source item) (Refer.source ctes item) ctes
  | .range r, _, hres => looks_pure () fun x hx => by
    rw [List.mem_singleton.mp hx]
    exact hres r.relation (List.mem_singleton_self _)
  | .join _ left right condition, hplain, hres => by
    obtain ⟨hleft, hright⟩ := Bool.and_eq_true_iff.mp hplain
    have h := (source_looks c ctes left hleft fun relation h => hres relation (List.mem_append_left _ h)).bind
      fun _ => (source_looks c ctes right hright fun relation h =>
        hres relation (List.mem_append_right _ h)).bind fun _ => option_looks c ctes condition
    rwa [← List.append_assoc] at h
  | .subquery .., hplain, _ => by cases hplain
  | .other _, hplain, _ => by cases hplain

end

theorem looks_forM {γ : Type} {c : Catalog} {ctes : List String} {f : γ → Find Unit}
    {g : γ → List Reference} (h : ∀ a, Looks c ctes (f a) (g a) ctes) (l : List γ) :
    Looks c ctes (l.forM f) (l.flatMap g) ctes := by
  induction l with
  | nil => exact looks_pure () nofun
  | cons a l ih => exact (h a).bind fun _ => ih

theorem avoids_targetColumn (t : SourceTable) (name : String) :
    Avoids Error.isPositional (t.targetColumn name) := by
  unfold SourceTable.targetColumn
  split
  · exact avoids_ok _
  · exact avoids_error rfl

theorem avoids_insertColumns (t : SourceTable) (names : List String) :
    Avoids Error.isPositional (insertColumns t names) := by
  unfold insertColumns
  split
  · exact avoids_ok _
  · exact avoids_mapM fun name _ => avoids_targetColumn t name

theorem assignment_looks (c : Catalog) (t : SourceTable) (a : Assignment) :
    Looks c [] (assignment t a) (Refer.expr [] a.value) [] := by
  unfold assignment
  split
  · rename_i n hn
    obtain ⟨location, hvalue⟩ := Expr.param?_eq_some.mp hn
    rw [hvalue]
    exact looks_lift_bind (avoids_targetColumn t a.column) fun column _ => looks_record n column
  · exact expr_looks c [] a.value

theorem assignments_looks (c : Catalog) (t : SourceTable) (as : List Assignment) :
    Looks c [] (as.forM (assignment t)) (Refer.assignments as) [] :=
  looks_forM (assignment_looks c t) as

theorem returning_looks (c : Catalog) (ts : List Target) :
    Looks c [] (returning ts) (Refer.targets [] ts) [] :=
  targetRow_looks c [] none 0 ts

theorem target_looks {c : Catalog} {target : RangeVar} {ctes : List String}
    (h : Reference.Resolves c { relation := target.relation, ctes }) :
    Looks c ctes (pure () : Find Unit) (Refer.relations ctes [target.relation]) ctes :=
  looks_pure () fun r hr => by
    rw [List.mem_singleton.mp hr]
    exact h

theorem insert_looks (c : Catalog) (i : Insert) :
    Looks c [] (insert i) (Refer.statement (.insert i)) [] := by
  refine looks_get_bind (fun s hs => looks_lift_bind (Scope.avoids_table _) fun t ht => ?_)
    fun s c' hs h => ?_
  · have hres := Scope.table_resolves hs ht false
    have htarget := target_looks hres
    refine looks_lift_bind (avoids_insertColumns t i.columns) fun columns _ => ?_
    have hrest := (((assignments_looks c t i.onConflict).bind fun _ =>
      (option_looks c [] i.conflictSelection).bind fun _ => returning_looks c i.returning).withLevel [t])
    simp only [Refer.statement, List.append_assoc]
    split
    · rename_i q hq
      rw [hq]
      exact htarget.bind fun _ => (query_looks c [] (some columns) q).bind fun _ => hrest
    · rename_i hnone
      cases hsource : i.source with
      | none => exact htarget.bind fun _ => hrest
      | some q => exact absurd hsource (hnone q)
  · have htable : (s.rebase c').scope.table i.relation = s.scope.table i.relation :=
      Scope.table_rebase false hs (h.mono (Refer.insert_tables i))
    rw [htable]

theorem update_looks (c : Catalog) (u : Update) :
    Looks c [] (update u) (Refer.statement (.update u)) [] := by
  refine looks_get_bind (fun s hs => looks_lift_bind (Scope.avoids_table _) fun t _ =>
    looks_lift_bind (Scope.avoids_targetTables _ _) fun level hlevel => ?_) fun s c' hs h => ?_
  · obtain ⟨htarget, hsources⟩ := List.forall_mem_cons.mp (Scope.targetTables_resolves hs hlevel)
    have hall := (target_looks htarget).bind fun _ => (assignments_looks c t u.assignments).bind fun _ =>
      (sources_looks c [] u.sources (Scope.plain_of_targetTables hlevel) hsources).bind fun _ =>
      (option_looks c [] u.selection).bind fun _ => returning_looks c u.returning
    simp only [← List.append_assoc] at hall
    exact hall.withLevel level
  · have htables : (s.rebase c').scope.targetTables u.relation u.sources =
        s.scope.targetTables u.relation u.sources :=
      Scope.targetTables_rebase hs (h.mono (Refer.update_tables u))
    have htable : (s.rebase c').scope.table u.relation = s.scope.table u.relation :=
      Scope.table_rebase false hs (h.mono fun r hr => Refer.update_tables u (by
        rw [List.mem_singleton.mp hr]
        exact List.mem_cons_self))
    dsimp only
    rw [htable, htables]

theorem delete_looks (c : Catalog) (d : Delete) :
    Looks c [] (delete d) (Refer.statement (.delete d)) [] := by
  refine looks_get_bind (fun s hs => looks_lift_bind (Scope.avoids_targetTables _ _)
    fun level hlevel => ?_) fun s c' hs h => ?_
  · obtain ⟨htarget, hsources⟩ := List.forall_mem_cons.mp (Scope.targetTables_resolves hs hlevel)
    have hall := (target_looks htarget).bind fun _ =>
      (sources_looks c [] d.sources (Scope.plain_of_targetTables hlevel) hsources).bind fun _ =>
      (option_looks c [] d.selection).bind fun _ => returning_looks c d.returning
    simp only [← List.append_assoc] at hall
    exact hall.withLevel level
  · have htables : (s.rebase c').scope.targetTables d.relation d.sources =
        s.scope.targetTables d.relation d.sources :=
      Scope.targetTables_rebase hs (h.mono (Refer.delete_tables d))
    rw [htables]

theorem statement_looks (c : Catalog) (s : Statement) : Looks c [] (statement s) s.lookups [] := by
  cases s with
  | select q => exact query_looks c [] none q
  | insert i => exact insert_looks c i
  | update u => exact update_looks c u
  | delete d => exact delete_looks c d
  | truncate _ => exact looks_pure () nofun
  | define _ | noOp _ | other _ => exact looks_throw rfl

end Find

theorem TypedParam.consistent_checkDense (ps : List TypedParam) (next : Nat) :
    Consistent (checkDense next ps) := by
  induction ps generalizing next with
  | nil => exact consistent_ok ()
  | cons p ps ih =>
    unfold checkDense
    split
    · exact ih (next + 1)
    · exact consistent_error rfl

namespace Scope

variable {c c' : Catalog} {s : Statement} {set : ParamSet}

theorem params_resolves {ps : List TypedParam} (h : params { catalog := c } s set = .ok ps) :
    ∀ r ∈ s.lookups, r.Resolves c := by
  obtain ⟨⟨⟨⟩, end_⟩, hrun, -⟩ := bind_eq_ok.mp h
  exact ((Find.statement_looks c s).resolves _ _ _ (within_nil c) hrun).2

theorem consistent_params (c : Catalog) (s : Statement) (set : ParamSet) :
    Consistent (params { catalog := c } s set) := by
  refine ((Find.statement_looks c s).avoids _ (within_nil c)).consistent.bind fun p _ => ?_
  refine Avoids.bind ?_ fun _ _ => consistent_ok _
  exact (TypedParam.consistent_checkDense _ 1).bind fun _ _ => consistent_ok _

theorem params_rebase (h : c.AgreesOn s.lookups c') :
    params { catalog := c' } s set = params { catalog := c } s set := by
  have hrebase := (Find.statement_looks c s).rebase { scope := { catalog := c } } c' (within_nil c) h
  change ((Find.statement s).run (Finding.rebase c' { scope := { catalog := c } }) >>= _) = _
  rw [hrebase]
  unfold params
  cases (Find.statement s).run { scope := { catalog := c } } <;> rfl

end Scope

end TypedSql
