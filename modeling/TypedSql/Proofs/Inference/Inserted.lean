import TypedSql.Proofs.Catalog.Reachable
import TypedSql.Proofs.Inference.Parenthesised

/-!
# Parameters of inserted rows

A parameter that is an item of a select whose rows are inserted is like one of the columns that are inserted
into. The walk takes the column at the index of the item. The value goes to the column at the index that the
item has in the row, where a wildcard in front takes as many columns as it stands for. So the two are the same
if and only if the items in front of the parameter have as many columns as they are.
-/

namespace TypedSql

namespace Output

/-- How many columns of a row an item gives: as many as it stands for if it is a wildcard, which is none where it
stands for no table, and one otherwise. -/
def width (tables : List SourceTable) (t : Target) : Nat :=
  match t.value with
  | .star r => ((starColumns tables r).toOption.map List.length).getD 0
  | _ => 1

def offset (tables : List SourceTable) : List Target → Nat
  | [] => 0
  | t :: before => width tables t + offset tables before

end Output

namespace Finding.Adds

variable {s s' : Finding} {es : List Expr}

theorem length_eq (h : s.Adds s' es) : s'.found.length = s.found.length + (es.filterMap Expr.param?).length := by
  obtain ⟨new, hfound, hnew⟩ := h
  rw [hfound, List.length_append, ← hnew, List.length_map]

theorem getElem? (h : s.Adds s' es) {k : Nat} {p : TypedParam} (hp : s.found[k]? = some p) :
    s'.found[k]? = some p := by
  obtain ⟨new, hfound, -⟩ := h
  rw [hfound, List.getElem?_append_left (List.getElem?_eq_some_iff.mp hp).1]
  exact hp

end Finding.Adds

namespace Find

variable {α β : Type} {P : TypedParam → Prop} {es fs : List Expr}

/-- Where a walk succeeds, it has recorded an occurrence with a property right behind those of the parameters
among the expressions. -/
def Puts (m : Find α) (es : List Expr) (P : TypedParam → Prop) : Prop :=
  ∀ s a s', m.run s = .ok (a, s') →
    ∃ p, P p ∧ s'.found[s.found.length + (es.filterMap Expr.param?).length]? = some p

theorem puts_record {n : Nat} {c : TypedColumn} (h : P ⟨n, c⟩) : Puts (record n c) [] P := by
  rintro s _ _ ⟨⟩
  exact ⟨_, h, List.getElem?_concat_length⟩

theorem puts_throw (e : Error) : Puts (throw e : Find α) es P := by
  rintro s _ _ ⟨⟩

theorem Puts.seq {m : Find α} {k : α → Find β} (hm : Puts m es P) (hk : ∀ a, Records (k a) fs) :
    Puts (m >>= k) es P := by
  intro s b s' h
  obtain ⟨a, t, hrun, h⟩ := run_bind_eq_ok.mp h
  obtain ⟨p, hp, hput⟩ := hm s a t hrun
  exact ⟨p, hp, (hk a t b s' h).2.getElem? hput⟩

theorem puts_bind {m : Find α} {k : α → Find β} (hm : ∀ s a s', m.run s = .ok (a, s') → s.Adds s' es)
    (hk : ∀ a, Puts (k a) fs P) : Puts (m >>= k) (es ++ fs) P := by
  intro s b s' h
  obtain ⟨a, t, hrun, h⟩ := run_bind_eq_ok.mp h
  obtain ⟨p, hp, hput⟩ := hk a t b s' h
  rw [(hm s a t hrun).length_eq, Nat.add_assoc, ← List.length_append, ← List.filterMap_append] at hput
  exact ⟨p, hp, hput⟩

theorem Puts.withLevel {m : Find Unit} (h : Puts m es P) (level : List SourceTable) :
    Puts (withLevel level m) es P := by
  intro s u s' hrun
  obtain ⟨_, _, ⟨⟩, hrun⟩ := run_bind_eq_ok.mp hrun
  obtain ⟨_, t, hm, ⟨⟩⟩ := run_bind_eq_ok.mp hrun
  exact h { s with levels := level :: s.levels } _ t hm

theorem Puts.keepScope {m : Find Unit} (h : Puts m es P) : Puts (keepScope m) es P := by
  intro s u s' hrun
  obtain ⟨t, hm, rfl⟩ := keepScope_eq_ok.mp hrun
  exact h s _ t hm

section

variable {columns : List TypedColumn} {before after : List Target} {n : Nat} {location : Option Nat}
  {name : Option String}

def LikeColumn (columns : List TypedColumn) (n k : Nat) (p : TypedParam) : Prop :=
  p.number = n ∧ columns[k]? = some p.column

theorem itemOr_puts (i : Nat) (walk : Find Unit) :
    Puts (itemOr (some columns) i (.param n location) walk) [] (LikeColumn columns n i) := by
  unfold itemOr
  dsimp only [Expr.param?]
  split
  · rename_i c hc
    exact puts_record ⟨rfl, hc⟩
  · exact puts_throw _

theorem targetRow_puts (i : Nat) :
    Puts (targetRow (some columns) i (before ++ ⟨.param n location, name⟩ :: after)) (Visit.targets before)
      (LikeColumn columns n (i + before.length)) := by
  induction before generalizing i with
  | nil =>
    have hitem : Puts (target (some columns) i ⟨.param n location, name⟩) [] (LikeColumn columns n i) := by
      rw [target]
      exact itemOr_puts i _
    exact hitem.seq fun _ => targetRow_records (some columns) (i + 1) after
  | cons t before ih =>
    rw [List.cons_append, targetRow, List.length_cons, Nat.add_comm before.length 1, ← Nat.add_assoc]
    exact puts_bind (fun s a s' h => (target_records (some columns) i t s a s' h).2) fun _ => ih (i + 1)

theorem select_puts {s : Select} (hitems : s.targets = before ++ ⟨.param n location, name⟩ :: after) :
    Puts (select (some columns) s) (Visit.targets before) (LikeColumn columns n before.length) := by
  obtain ⟨distinct, items, from_, selection, groupBy, having⟩ := s
  obtain rfl : items = _ := hitems
  intro s u s' h
  obtain ⟨level, htables, h⟩ := run_tables_bind_eq_ok.mp h
  have hplain := Scope.plain_of_tables htables
  have hrow : Puts (targetRow (some columns) 0 (before ++ ⟨.param n location, name⟩ :: after))
      (Visit.targets before) (LikeColumn columns n before.length) := by
    simpa using targetRow_puts 0
  have hputs := hrow.seq fun _ => (sources_records from_ hplain).seq fun _ =>
    (option_records selection).seq fun _ => (exprs_records groupBy).seq fun _ => option_records having
  exact hputs.withLevel level s u s' h

theorem query_puts {q : Query} {s : Select} (hbody : q.body = .select s)
    (hitems : s.targets = before ++ ⟨.param n location, name⟩ :: after) :
    Puts (query (some columns) q) (Visit.ctes q.ctes ++ Visit.targets before)
      (LikeColumn columns n before.length) := by
  obtain ⟨named, main, orderBy, limit, offset⟩ := q
  obtain rfl : main = .select s := hbody
  have hrest (level : List SourceTable) := ((exprs_records orderBy).withLevel level).seq fun _ =>
    (bound_records "limit" limit).seq fun _ => bound_records "offset" offset
  rw [query]
  refine Puts.keepScope (puts_bind (fun s a s' h => (ctes_records named s a s' h).2) fun _ => ?_)
  exact (select_puts hitems).seq fun _ => records_level_bind (.select s) hrest

end

/-- A parameter among the items of a select that is inserted is recorded like the column at the index of the
item. Where all columns are different, this is the column at the index that the value has in the row if and
only if the items in front have as many columns as they are. -/
theorem insert_select_records {scope : Scope} {i : Insert} {q : Query} {s : Select} {before after : List Target}
    {n : Nat} {location : Option Nat} {name : Option String} {end_ : Finding} (hsource : i.source = some q)
    (hbody : q.body = .select s) (hitems : s.targets = before ++ ⟨.param n location, name⟩ :: after)
    (h : (statement (.insert i)).run { scope } = .ok ((), end_)) :
    ∃ t columns inner tables c, scope.table i.relation = .ok t ∧ insertColumns t i.columns = .ok columns ∧
      scope.addCtes q.ctes = .ok inner ∧ inner.tables s.sources = .ok tables ∧
      end_.found[((Visit.ctes q.ctes ++ Visit.targets before).filterMap Expr.param?).length]? = some ⟨n, c⟩ ∧
      columns[before.length]? = some c ∧
      (columns.Nodup → (columns[Output.offset tables before]? = some c ↔
        Output.offset tables before = before.length)) := by
  rw [statement, insert] at h
  obtain ⟨_, _, ⟨⟩, h⟩ := run_bind_eq_ok.mp h
  obtain ⟨t, ht, h⟩ := run_lift_bind_eq_ok.mp h
  obtain ⟨columns, hcolumns, h⟩ := run_lift_bind_eq_ok.mp h
  have hrest := (((records_forM (assignment_records t) i.onConflict).seq fun _ =>
    (option_records i.conflictSelection).seq fun _ => returning_records i.returning).withLevel [t])
  rw [hsource] at h
  obtain ⟨⟨_, c⟩, ⟨rfl, hc⟩, hfound⟩ := (query_puts hbody hitems).seq (fun _ => hrest) _ _ _ h
  obtain ⟨_, _, hquery, -⟩ := run_bind_eq_ok.mp h
  obtain ⟨inner, tables, hinner, htables⟩ := queryTables_of_query hquery
  have htables : inner.tables s.sources = .ok tables := by
    simpa [Scope.queryTables, Query.leftmost?, hbody, Body.leftmost?] using htables
  refine ⟨t, columns, inner, tables, c, ht, hcolumns, hinner, htables, by simpa using hfound, hc, fun hnodup => ?_⟩
  have hlt := (List.getElem?_eq_some_iff.mp hc).1
  rw [← hc, eq_comm, List.getElem?_inj hlt hnodup, eq_comm]

def twoTables : Catalog :=
  let column (name type : String) : ColumnDef := { name, type := .ofName type }
  (Catalog.initial {}).run
    [.createTable (.ofName "bar") [column "name" "text", column "ready" "bool"],
      .createTable (.ofName "foo") [column "name" "text", column "meta" "text", column "baz" "int"]]

def insertSelected (items : List Target) : Insert :=
  { relation := ⟨.ofName "foo", none⟩, columns := [], onConflict := [], conflictSelection := none, returning := []
    source := some ⟨[], .select ⟨false, items, [.range ⟨.ofName "bar", none⟩], none, [], none⟩, [], none, none⟩ }

def insertedTable : SourceTable :=
  let rel : QualifiedName := .ofSchema "public" "foo"
  let column (name type : String) : TypedColumn := { name, dataType := type, notNull := false, table := some rel }
  { name := "foo", rel, columns := [column "name" "text", column "meta" "text", column "baz" "int"] }

theorem table_insertedTable :
    Scope.table { catalog := twoTables } ⟨.ofName "foo", none⟩ = .ok insertedTable := by
  decide +kernel

theorem insert_select_records_literal :
    let before : List Target := [⟨.column ["name"], none⟩, ⟨.literal (.string "x"), none⟩]
    ∃ end_ tables c, (statement (.insert (insertSelected (before ++ [⟨.param 1 none, none⟩])))).run
        { scope := { catalog := twoTables } } = .ok ((), end_) ∧
      end_.found[0]? = some ⟨1, c⟩ ∧ insertedTable.columns.Nodup ∧
      insertedTable.columns[Output.offset tables before]? = some c := by
  intro before
  have hok : ((statement (.insert (insertSelected (before ++ [⟨.param 1 none, none⟩])))).run
      { scope := { catalog := twoTables } }).isOk = true := by
    decide +kernel
  obtain ⟨⟨_, end_⟩, hrun⟩ := exists_of_isOk hok
  obtain ⟨t, columns, inner, tables, c, ht, hcolumns, -, -, hfound, -, hiff⟩ :=
    insert_select_records rfl rfl rfl hrun
  cases table_insertedTable.symm.trans ht
  cases hcolumns
  have hnodup : insertedTable.columns.Nodup := by decide
  exact ⟨end_, tables, c, hrun, hfound, hnodup, (hiff hnodup).mpr rfl⟩

/-- A wildcard of two columns in front of a parameter: the value goes to the third column, and the parameter is
recorded like the second one. -/
theorem insert_select_shifted :
    let before : List Target := [⟨.star ⟨["bar"], none, "bar.*".toList, false⟩, none⟩]
    ∃ end_ tables c, (statement (.insert (insertSelected (before ++ [⟨.param 1 none, none⟩])))).run
        { scope := { catalog := twoTables } } = .ok ((), end_) ∧
      Scope.tables { catalog := twoTables } [.range ⟨.ofName "bar", none⟩] = .ok tables ∧
      end_.found[0]? = some ⟨1, c⟩ ∧ insertedTable.columns[Output.offset tables before]? ≠ some c := by
  intro before
  have hrun : ((statement (.insert (insertSelected (before ++ [⟨.param 1 none, none⟩])))).run
      { scope := { catalog := twoTables } }).toOption.map (fun r => r.2.found[0]?) =
        some (insertedTable.columns[1]?.map (⟨1, ·⟩)) := by
    decide +kernel
  have htables : (Scope.tables { catalog := twoTables } [.range ⟨.ofName "bar", none⟩]).toOption.map
      (Output.offset · before) = some 2 := by
    decide +kernel
  obtain ⟨⟨_, end_⟩, hrun, hfound⟩ := exists_of_map_toOption hrun
  obtain ⟨tables, htables, hoffset⟩ := exists_of_map_toOption htables
  refine ⟨end_, tables, _, hrun, htables, hfound, ?_⟩
  rw [hoffset]
  decide

end Find

end TypedSql
