import TypedSql.Proofs.Inference.Occurrences

/-!
# What a walk leaves behind

The walk that types parameters changes its state as it goes: named queries come into scope, and the tables of a
query are a level of their own while its parts are walked. Behind each part the scope and the levels are what they
were in front of it, and what was recorded before plays no part at all. So the parts of a statement are walked
side by side as if each of them were alone.
-/

namespace TypedSql

namespace Find

variable {α : Type} {m n : Find Unit} {scope : Scope} {levels : List (List SourceTable)}

/-- What a walk answers from a scope and some levels, whatever was recorded before: it fails, or ends in a scope
and in the same levels with some more occurrences behind those before. -/
def Ends (m : Find Unit) (scope : Scope) (levels : List (List SourceTable))
    (r : Except Error (Scope × List TypedParam)) : Prop :=
  ∀ found, m.run ⟨scope, levels, found⟩ = r.map fun x => ((), ⟨x.1, levels, found ++ x.2⟩)

def Extends (m : Find Unit) : Prop :=
  ∀ scope levels, ∃ r, Ends m scope levels r

def Framed (m : Find Unit) : Prop :=
  ∀ scope levels, ∃ r : Except Error (List TypedParam), Ends m scope levels (r.map fun new => (scope, new))

theorem Ends.seq_error {e : Error} (h : Ends m scope levels (.error e)) :
    Ends (m >>= fun _ => n) scope levels (.error e) := by
  intro found
  rw [StateT.run_bind, h found]
  rfl

theorem Ends.seq {x : Scope × List TypedParam} {r : Except Error (Scope × List TypedParam)}
    (hm : Ends m scope levels (.ok x)) (hn : Ends n x.1 levels r) :
    Ends (m >>= fun _ => n) scope levels (r.map fun y => (y.1, x.2 ++ y.2)) := by
  intro found
  rw [StateT.run_bind, hm found]
  refine (hn (found ++ x.2)).trans ?_
  cases r with
  | error e => rfl
  | ok y =>
    change Except.ok ((), (⟨y.1, levels, found ++ x.2 ++ y.2⟩ : Finding)) = _
    rw [List.append_assoc]
    rfl

theorem Framed.extends (h : Framed m) : Extends m := by
  intro scope levels
  obtain ⟨r, hr⟩ := h scope levels
  exact ⟨_, hr⟩

theorem Extends.seq (hm : Extends m) (hn : Extends n) : Extends (m >>= fun _ => n) := by
  intro scope levels
  obtain ⟨r, hr⟩ := hm scope levels
  cases r with
  | error e => exact ⟨_, hr.seq_error⟩
  | ok x =>
    obtain ⟨r, hr'⟩ := hn x.1 levels
    exact ⟨_, hr.seq hr'⟩

theorem Framed.seq (hm : Framed m) (hn : Framed n) : Framed (m >>= fun _ => n) := by
  intro scope levels
  obtain ⟨r, hr⟩ := hm scope levels
  cases r with
  | error e => exact ⟨.error e, hr.seq_error⟩
  | ok new =>
    obtain ⟨r, hr'⟩ := hn scope levels
    refine ⟨r.map (new ++ ·), ?_⟩
    cases r with
    | error e => exact hr.seq hr'
    | ok new' => exact hr.seq hr'

theorem framed_pure : Framed (pure ()) := by
  refine fun scope levels => ⟨.ok [], fun found => ?_⟩
  change Except.ok ((), (⟨scope, levels, found⟩ : Finding)) = Except.ok ((), ⟨scope, levels, found ++ []⟩)
  rw [List.append_nil]

theorem framed_throw (e : Error) : Framed (throw e) :=
  fun _ _ => ⟨.error e, fun _ => rfl⟩

theorem framed_record (number : Nat) (c : TypedColumn) : Framed (record number c) :=
  fun _ _ => ⟨.ok [⟨number, c⟩], fun _ => rfl⟩

theorem framed_get_bind {k : Finding → Find Unit}
    (hk : ∀ scope levels, ∃ m, Framed m ∧ ∀ found, k ⟨scope, levels, found⟩ = m) : Framed (get >>= k) := by
  intro scope levels
  obtain ⟨m, hm, hsame⟩ := hk scope levels
  obtain ⟨r, hr⟩ := hm scope levels
  refine ⟨r, fun found => ?_⟩
  change (k ⟨scope, levels, found⟩).run ⟨scope, levels, found⟩ = _
  rw [hsame found, hr found]

theorem framed_lift_bind {x : Except Error α} {k : α → Find Unit} (hk : ∀ a, Framed (k a)) :
    Framed (liftM x >>= k) := by
  cases x with
  | error e => exact framed_throw e
  | ok a => exact hk a

theorem framed_column_bind {path : List String} {k : TypedColumn → Find Unit} (hk : ∀ c, Framed (k c)) :
    Framed (column path >>= k) :=
  framed_get_bind (k := fun s => liftM (lookup path s.levels) >>= k) fun _ levels =>
    ⟨liftM (lookup path levels) >>= k, framed_lift_bind hk, fun _ => rfl⟩

theorem framed_tables_bind {items : List FromItem} {k : List SourceTable → Find Unit}
    (hk : ∀ level, Framed (k level)) : Framed (tables items >>= k) :=
  framed_get_bind (k := fun s => liftM (s.scope.tables items) >>= k) fun scope _ =>
    ⟨liftM (scope.tables items) >>= k, framed_lift_bind hk, fun _ => rfl⟩

theorem framed_level_bind (main : Body) {k : List SourceTable → Find Unit} (hk : ∀ level, Framed (k level)) :
    Framed (match main.leftmost? with
      | some s => tables s.sources >>= k
      | none => pure [] >>= k) := by
  split
  · exact framed_tables_bind hk
  · exact hk []

theorem Framed.withLevel (h : Framed m) (level : List SourceTable) : Framed (withLevel level m) := by
  intro scope levels
  obtain ⟨r, hr⟩ := h scope (level :: levels)
  refine ⟨r, fun found => ?_⟩
  change (m >>= fun _ => modify _ : Find Unit).run ⟨scope, level :: levels, found⟩ = _
  rw [StateT.run_bind, hr found]
  cases r with
  | error e => rfl
  | ok new => rfl

theorem Extends.keepScope (h : Extends m) : Framed (keepScope m) := by
  intro scope levels
  obtain ⟨r, hr⟩ := h scope levels
  refine ⟨r.map Prod.snd, fun found => ?_⟩
  change (m >>= fun _ => modify _ : Find Unit).run ⟨scope, levels, found⟩ = _
  rw [StateT.run_bind, hr found]
  cases r with
  | error e => rfl
  | ok x => rfl

theorem Framed.paramOr (h : Framed m) (c : TypedColumn) (e : Expr) : Framed (paramOr c e m) := by
  unfold Find.paramOr
  split
  · exact framed_record _ c
  · exact h

theorem Framed.itemOr (h : Framed m) (targets : Option (List TypedColumn)) (i : Nat) (e : Expr) :
    Framed (itemOr targets i e m) := by
  unfold Find.itemOr
  split
  · split
    · exact framed_record _ _
    · exact framed_throw _
  · exact h

mutual

theorem expr_framed : (e : Expr) → Framed (expr e)
  | .param n _ => framed_record n (.untyped "")
  | .column _ => framed_pure
  | .star _ => framed_pure
  | .named _ _ => framed_pure
  | .literal _ => framed_pure
  | .binary left op right => by
    rw [expr]
    have hboth := (expr_framed left).seq (expr_framed right)
    split
    · exact ((expr_framed left).paramOr text left).seq ((expr_framed right).paramOr text right)
    · split
      · exact hboth
      · split
        · exact framed_column_bind fun c => framed_record _ c
        · exact framed_column_bind fun c => framed_record _ c
        · exact hboth
  | .unary _ e => expr_framed e
  | .call c args => framed_get_bind fun scope _ =>
      ⟨_, arguments_framed c (scope.catalog.resolve c).toOption 0 args, fun _ => rfl⟩
  | .cast e type => (expr_framed e).paramOr (.ofType "" type) e
  | .between e _ low high => by
    rw [expr]
    split
    · exact framed_column_bind fun c => ((expr_framed low).paramOr _ low).seq ((expr_framed high).paramOr _ high)
    · exact (expr_framed e).seq ((expr_framed low).seq (expr_framed high))
  | .inList e items _ => by
    rw [expr]
    split
    · exact framed_column_bind fun c => members_framed c items
    · exact (expr_framed e).seq (exprs_framed items)
  | .inQuery e q _ => framed_get_bind fun scope _ =>
      ⟨_, ((expr_framed e).paramOr (firstColumn scope q) e).seq (query_framed none q), fun _ => rfl⟩
  | .exist q _ => query_framed none q
  | .subquery q => query_framed none q
  | .choose operand conditions results otherwise =>
    (option_framed operand).seq ((exprs_framed conditions).seq
      ((exprs_framed results).seq (option_framed otherwise)))
  | .isNull e _ => expr_framed e
  | .array items => exprs_framed items
  | .other _ params => exprs_framed params

theorem exprs_framed : (es : List Expr) → Framed (exprs es)
  | [] => framed_pure
  | e :: es => (expr_framed e).seq (exprs_framed es)

theorem members_framed (c : TypedColumn) : (es : List Expr) → Framed (members c es)
  | [] => framed_pure
  | e :: es => ((expr_framed e).paramOr c e).seq (members_framed c es)

theorem option_framed : (e : Option Expr) → Framed (option e)
  | none => framed_pure
  | some e => expr_framed e

theorem arguments_framed (c : Call) (callee : Option Function) (i : Nat) :
    (es : List Expr) → Framed (arguments c callee i es)
  | [] => framed_pure
  | e :: es => by
    rw [arguments]
    have hes := arguments_framed c callee (i + 1) es
    split
    · exact (framed_record _ _).seq hes
    · exact (expr_framed e).seq hes

theorem query_framed (targets : Option (List TypedColumn)) : (q : Query) → Framed (query targets q)
  | ⟨named, main, orderBy, limit, offset⟩ => by
    have hrest (level : List SourceTable) := ((exprs_framed orderBy).withLevel level).seq
      ((bound_framed "limit" limit).seq (bound_framed "offset" offset))
    have hmain := (body_framed targets main).seq (framed_level_bind main hrest)
    exact ((ctes_extend named).seq hmain.extends).keepScope

theorem ctes_extend : (cs : List Cte) → Extends (ctes cs)
  | [] => framed_pure.extends
  | c :: cs => (cte_extends c).seq (ctes_extend cs)

theorem cte_extends : (c : Cte) → Extends (cte c)
  | ⟨name, names, q⟩ => by
    intro scope levels
    obtain ⟨r, hr⟩ := query_framed none q scope levels
    cases r with
    | error e => exact ⟨_, hr.seq_error⟩
    | ok new =>
      refine ⟨_, hr.seq (r := (scope.columns q).map fun columns => (scope.insertCte name names columns, [])) ?_⟩
      intro found
      change (liftM (scope.columns q) >>= fun columns =>
        set (⟨scope.insertCte name names columns, levels, found⟩ : Finding) : Find Unit).run
          ⟨scope, levels, found⟩ = _
      cases scope.columns q with
      | error e => rfl
      | ok columns =>
        change Except.ok ((), (⟨_, levels, found⟩ : Finding)) = Except.ok ((), ⟨_, levels, found ++ []⟩)
        rw [List.append_nil]

theorem bound_framed (name : String) : (e : Option Expr) → Framed (bound name e)
  | none => framed_pure
  | some e => (expr_framed e).paramOr _ e

theorem body_framed (targets : Option (List TypedColumn)) : (b : Body) → Framed (body targets b)
  | .select s => select_framed targets s
  | .setOp _ left right => (body_framed targets left).seq (body_framed targets right)
  | .values rs => rows_framed targets rs
  | .query q => query_framed targets q

theorem rows_framed (targets : Option (List TypedColumn)) : (rs : List (List Expr)) → Framed (rows targets rs)
  | [] => framed_pure
  | r :: rs => (row_framed targets 0 r).seq (rows_framed targets rs)

theorem row_framed (targets : Option (List TypedColumn)) (i : Nat) :
    (es : List Expr) → Framed (row targets i es)
  | [] => framed_pure
  | e :: es => ((expr_framed e).itemOr targets i e).seq (row_framed targets (i + 1) es)

theorem select_framed (targets : Option (List TypedColumn)) : (s : Select) → Framed (select targets s)
  | ⟨_, items, from_, selection, groupBy, having⟩ => framed_tables_bind fun level =>
    ((targetRow_framed targets 0 items).seq ((sources_framed from_).seq ((option_framed selection).seq
      ((exprs_framed groupBy).seq (option_framed having))))).withLevel level

theorem targetRow_framed (targets : Option (List TypedColumn)) (i : Nat) :
    (ts : List Target) → Framed (targetRow targets i ts)
  | [] => framed_pure
  | t :: ts => (target_framed targets i t).seq (targetRow_framed targets (i + 1) ts)

theorem target_framed (targets : Option (List TypedColumn)) (i : Nat) :
    (t : Target) → Framed (target targets i t)
  | ⟨value, _⟩ => (expr_framed value).itemOr targets i value

theorem sources_framed : (items : List FromItem) → Framed (sources items)
  | [] => framed_pure
  | item :: items => (source_framed item).seq (sources_framed items)

theorem source_framed : (item : FromItem) → Framed (source item)
  | .range _ => framed_pure
  | .join _ left right condition =>
    (source_framed left).seq ((source_framed right).seq (option_framed condition))
  | .subquery .. => framed_pure
  | .other _ => framed_pure

end

/-- A part of a statement that is walked by itself. Those of the first three kinds may give the rows of an
insertion. -/
inductive Part where
  | query (targets : Option (List TypedColumn)) (q : Query)
  | body (targets : Option (List TypedColumn)) (b : Body)
  | select (targets : Option (List TypedColumn)) (s : Select)
  | source (item : FromItem)
  | call (c : Call) (args : List Expr)
  | expr (e : Expr)

def Part.walk : Part → Find Unit
  | .query targets q => Find.query targets q
  | .body targets b => Find.body targets b
  | .select targets s => Find.select targets s
  | .source item => Find.source item
  | .call c args => Find.expr (.call c args)
  | .expr e => Find.expr e

def Part.finds (p : Part) (s : Finding) : Except Error (List TypedParam) :=
  (p.walk.run s).map fun x => x.2.found.drop s.found.length

theorem Part.walk_framed : (p : Part) → Framed p.walk
  | .query targets q => query_framed targets q
  | .body targets b => body_framed targets b
  | .select targets s => select_framed targets s
  | .source item => source_framed item
  | .call c args => expr_framed (.call c args)
  | .expr e => expr_framed e

/-- A walk over a part fails, or it adds what it finds and nothing else changes. -/
theorem Part.run_walk (p : Part) (s : Finding) :
    p.walk.run s = (p.finds s).map fun new => ((), { s with found := s.found ++ new }) := by
  obtain ⟨r, hr⟩ := p.walk_framed s.scope s.levels
  have hrun := hr s.found
  rw [finds, hrun]
  cases r with
  | error e => rfl
  | ok new =>
    change Except.ok ((), (⟨s.scope, s.levels, s.found ++ new⟩ : Finding)) =
      Except.ok ((), ⟨s.scope, s.levels, s.found ++ (s.found ++ new).drop s.found.length⟩)
    rw [List.drop_left]

theorem Part.finds_of_found (p : Part) (s : Finding) (found : List TypedParam) :
    p.finds { s with found } = p.finds s := by
  obtain ⟨r, hr⟩ := p.walk_framed s.scope s.levels
  have hrun (found : List TypedParam) : p.finds { s with found } = r := by
    rw [finds, hr found]
    cases r with
    | error e => rfl
    | ok new =>
      change Except.ok ((found ++ new).drop found.length) = _
      rw [List.drop_left]
  rw [hrun found, ← hrun s.found]

/-- Behind a part the scope and the levels are what they were in front of it, and the occurrences go on from those
before. So every other part finds behind it what it finds without it, and the rest of a statement, whatever it is,
goes on from the state in front of the part, with what the part has found. -/
theorem Part.walk_leaves_scope (p : Part) (s : Finding) :
    (∀ s', p.walk.run s = .ok ((), s') → s'.scope = s.scope ∧ s'.levels = s.levels ∧ s.found <+: s'.found ∧
        ∀ other : Part, other.finds s' = other.finds s) ∧
      ∀ rest : Find Unit, (p.walk >>= fun _ => rest).run s =
        p.finds s >>= fun new => rest.run { s with found := s.found ++ new } := by
  constructor
  · intro s' h
    rw [p.run_walk s] at h
    cases hfinds : p.finds s with
    | error e =>
      rw [hfinds] at h
      cases h
    | ok new =>
      rw [hfinds] at h
      cases h
      exact ⟨rfl, rfl, List.prefix_append _ _, fun other => other.finds_of_found s _⟩
  · intro rest
    rw [StateT.run_bind, p.run_walk s]
    cases p.finds s with
    | error e => rfl
    | ok new => rfl

theorem Part.walk_leaves_scope_named :
    let one : Query :=
      ⟨[], .select ⟨false, [⟨.cast (.param 1 none) (.ofName "int"), some "a"⟩], [], none, [], none⟩, [], none, none⟩
    let reads (n : Nat) : Body := .select
      ⟨false, [⟨.column ["a"], none⟩], [.range ⟨.ofName "c", none⟩],
        some (.binary (.column ["a"]) .eq (.param n none)), [], none⟩
    let p : Part := .expr (.subquery ⟨[⟨"c", [], one⟩], reads 2, [], none, none⟩)
    let other : Part := .query none ⟨[], reads 3, [], none, none⟩
    let s : Finding := { scope := { catalog := .initial {} } }
    ∃ s', p.walk.run s = .ok ((), s') ∧ s'.found.map TypedParam.number = [1, 2] ∧ s'.scope = s.scope ∧
      s'.levels = s.levels ∧ other.finds s' = .error (.relationNotFound "c") ∧
      (other.finds { s with scope := s.scope.insertCte "c" [] [.ofType "a" (.ofName "int")] }).isOk = true := by
  intro one reads p other s
  have hfinds : (p.finds s).toOption.map (List.map TypedParam.number) = some [1, 2] := rfl
  obtain ⟨new, hnew, hnumbers⟩ := exists_of_map_toOption hfinds
  have hrun : p.walk.run s = .ok ((), { s with found := s.found ++ new }) := by
    rw [p.run_walk s, hnew]
    rfl
  obtain ⟨hscope, hlevels, -, hother⟩ := (p.walk_leaves_scope s).1 _ hrun
  exact ⟨_, hrun, hnumbers, hscope, hlevels, (hother other).trans rfl, rfl⟩

end Find

end TypedSql
