import Mathlib.Data.List.Nodup
import TypedSql.Catalog.Basic
import TypedSql.Proofs.Dict
import TypedSql.Proofs.Fallible

/-!
# Well-formed catalogs

Every object of a catalog is stored under its own name and knows where it is: a schema its name, a table
its schema and its name, a column its table. Tables and types of a schema have different names, and the
functions of one name have different argument types. Each operation on a table, a list of functions or a
schema is first taken apart and then shown to keep these rules.
-/

namespace TypedSql

namespace Table

structure WellFormed (t : Table) : Prop where
  names_nodup : t.columnNames.Nodup
  column_table : ∀ c ∈ t.columns, c.table = t.rel
  column_isArray : ∀ c ∈ t.columns, (c.isArray = true ↔ 0 < c.dims)

def Keeps (t t' : Table) : Prop :=
  t'.rel = t.rel ∧ t'.WellFormed

theorem hasColumn_iff {t : Table} {name : String} :
    t.hasColumn name = true ↔ name ∈ t.columnNames := by
  simp [hasColumn, columnNames]

theorem checkColumn_eq_ok {t : Table} {name : String} :
    t.checkColumn name = .ok () ↔ name ∈ t.columnNames := by
  simp only [checkColumn, ← hasColumn_iff]
  split <;> simp_all

theorem checkColumnFree_eq_ok {t : Table} {name : String} :
    t.checkColumnFree name = .ok () ↔ name ∉ t.columnNames := by
  simp only [checkColumnFree, ← hasColumn_iff]
  split <;> simp_all

theorem addColumn_eq_ok {t t' : Table} {d : ColumnDef} :
    t.addColumn d = .ok t' ↔
      d.name ∉ t.columnNames ∧ t' = { t with columns := t.columns ++ [Column.ofDef t.rel d] } := by
  rw [addColumn, check_bind_eq_ok, checkColumnFree_eq_ok, pure_eq_ok_iff]

theorem dropColumn_eq_ok {t t' : Table} {name : String} :
    t.dropColumn name = .ok t' ↔
      name ∈ t.columnNames ∧ t' = { t with columns := t.columns.eraseP (·.name == name) } := by
  rw [dropColumn, check_bind_eq_ok, checkColumn_eq_ok, pure_eq_ok_iff]

theorem modifyColumn_eq_ok {t t' : Table} {name : String} {f : Column → Column} :
    t.modifyColumn name f = .ok t' ↔
      name ∈ t.columnNames ∧
        t' = { t with columns := t.columns.modify (t.columns.findIdx (·.name == name)) f } := by
  rw [modifyColumn, check_bind_eq_ok, checkColumn_eq_ok, pure_eq_ok_iff]

theorem renameColumn_eq_ok {t t' : Table} {old new : String} :
    t.renameColumn old new = .ok t' ↔
      old ∈ t.columnNames ∧ new ∉ t.columnNames ∧
        t.modifyColumn old ({ · with name := new }) = .ok t' := by
  rw [renameColumn, check_bind_eq_ok, check_bind_eq_ok, checkColumn_eq_ok, checkColumnFree_eq_ok]

theorem repeatedColumn?_eq_none (columns : List Column) (seen : List String) :
    repeatedColumn? columns seen = none ↔
      (columns.map Column.name).Nodup ∧ ∀ c ∈ columns, c.name ∉ seen := by
  induction columns generalizing seen with
  | nil => simp [repeatedColumn?]
  | cons c columns ih =>
    simp only [repeatedColumn?]
    split
    · rename_i hc
      have hmem : c.name ∈ seen := by simpa using hc
      simp [hmem]
    · rename_i hc
      have hmem : c.name ∉ seen := by simpa using hc
      rw [ih]
      simp only [List.map_cons, List.nodup_cons, List.mem_map, List.mem_cons, not_or]
      constructor
      · rintro ⟨hn, hs⟩
        refine ⟨⟨?_, hn⟩, ?_⟩
        · rintro ⟨a, ha, hac⟩
          exact (hs a ha).1 hac
        · rintro a (rfl | ha)
          · exact hmem
          · exact (hs a ha).2
      · rintro ⟨⟨hne, hn⟩, hs⟩
        exact ⟨hn, fun a ha => ⟨fun hac => hne ⟨a, ha, hac⟩, hs a (.inr ha)⟩⟩

theorem ofDef_isArray (rel : QualifiedName) (d : ColumnDef) :
    (Column.ofDef rel d).isArray = true ↔ 0 < (Column.ofDef rel d).dims := by
  simp [Column.ofDef, TypeName.isArray]

theorem ofDefs_wellFormed {rel : QualifiedName} {columns : List ColumnDef}
    (h : repeatedColumn? (ofDefs rel columns).columns [] = none) :
    (ofDefs rel columns).WellFormed := by
  have hn := ((repeatedColumn?_eq_none _ _).mp h).1
  refine ⟨hn, ?_, ?_⟩
  · intro c hc
    obtain ⟨d, _, rfl⟩ := List.mem_map.mp hc
    rfl
  · intro c hc
    obtain ⟨d, _, rfl⟩ := List.mem_map.mp hc
    exact ofDef_isArray rel d

theorem setName_wellFormed {t : Table} (h : t.WellFormed) (rel : QualifiedName) :
    (t.setName rel).WellFormed := by
  have hnames : (t.setName rel).columnNames = t.columnNames := by
    simp [setName, columnNames]
  refine ⟨hnames ▸ h.names_nodup, ?_, ?_⟩
  · intro c hc
    obtain ⟨d, _, rfl⟩ := List.mem_map.mp hc
    rfl
  · intro c hc
    obtain ⟨d, hd, rfl⟩ := List.mem_map.mp hc
    exact h.column_isArray d hd

theorem addColumn_keeps {t t' : Table} {d : ColumnDef} (h : t.WellFormed)
    (ht : t.addColumn d = .ok t') : t.Keeps t' := by
  obtain ⟨hfree, rfl⟩ := addColumn_eq_ok.mp ht
  refine ⟨rfl, ?_, ?_, ?_⟩
  · have hnames : ∀ a ∈ t.columnNames, a ≠ d.name := fun a ha hd => hfree (hd ▸ ha)
    simp only [columnNames, List.map_append, List.map_cons, List.map_nil, List.nodup_append]
    refine ⟨h.names_nodup, List.nodup_singleton _, fun a ha b hb => ?_⟩
    rw [List.mem_singleton.mp hb]
    exact hnames a ha
  · intro c hc
    rcases List.mem_append.mp hc with hc | hc
    · exact h.column_table c hc
    · rw [List.mem_singleton.mp hc]
      rfl
  · intro c hc
    rcases List.mem_append.mp hc with hc | hc
    · exact h.column_isArray c hc
    · rw [List.mem_singleton.mp hc]
      exact ofDef_isArray t.rel d

theorem dropColumn_keeps {t t' : Table} {name : String} (h : t.WellFormed)
    (ht : t.dropColumn name = .ok t') : t.Keeps t' := by
  obtain ⟨_, rfl⟩ := dropColumn_eq_ok.mp ht
  have hsub : (t.columns.eraseP (·.name == name)).Sublist t.columns := List.eraseP_sublist
  refine ⟨rfl, ?_, ?_, ?_⟩
  · exact h.names_nodup.sublist (hsub.map Column.name)
  · exact fun c hc => h.column_table c (hsub.subset hc)
  · exact fun c hc => h.column_isArray c (hsub.subset hc)

theorem mem_modify {l : List Column} {i : Nat} {f : Column → Column} {c : Column}
    (h : c ∈ l.modify i f) : c ∈ l ∨ ∃ a ∈ l, c = f a := by
  obtain ⟨j, hj, rfl⟩ := List.mem_iff_getElem.mp h
  rw [List.getElem_modify]
  have hlen : j < l.length := by simpa using hj
  split
  · exact .inr ⟨l[j], List.getElem_mem hlen, rfl⟩
  · exact .inl (List.getElem_mem hlen)

theorem map_name_modify {f : Column → Column} {g : String → String} (h : ∀ c, (f c).name = g c.name)
    (l : List Column) (i : Nat) :
    (l.modify i f).map Column.name = (l.map Column.name).modify i g := by
  induction l generalizing i with
  | nil => simp
  | cons c l ih =>
    cases i with
    | zero => simp [h]
    | succ i => simp [ih]

theorem modifyColumn_keeps_of_nodup {t t' : Table} {name : String} {f : Column → Column}
    (h : t.WellFormed) (htable : ∀ c, (f c).table = c.table)
    (harray : ∀ c, (c.isArray = true ↔ 0 < c.dims) → ((f c).isArray = true ↔ 0 < (f c).dims))
    (ht : t.modifyColumn name f = .ok t') (hnames : t'.columnNames.Nodup) : t.Keeps t' := by
  obtain ⟨_, rfl⟩ := modifyColumn_eq_ok.mp ht
  refine ⟨rfl, hnames, ?_, ?_⟩
  · intro c hc
    rcases mem_modify hc with hc | ⟨a, ha, rfl⟩
    · exact h.column_table c hc
    · rw [htable]
      exact h.column_table a ha
  · intro c hc
    rcases mem_modify hc with hc | ⟨a, ha, rfl⟩
    · exact h.column_isArray c hc
    · exact harray a (h.column_isArray a ha)

theorem modifyColumn_keeps {t t' : Table} {name : String} {f : Column → Column} (h : t.WellFormed)
    (hname : ∀ c, (f c).name = c.name) (htable : ∀ c, (f c).table = c.table)
    (harray : ∀ c, (c.isArray = true ↔ 0 < c.dims) → ((f c).isArray = true ↔ 0 < (f c).dims))
    (ht : t.modifyColumn name f = .ok t') : t.Keeps t' := by
  refine modifyColumn_keeps_of_nodup h htable harray ht ?_
  obtain ⟨_, rfl⟩ := modifyColumn_eq_ok.mp ht
  rw [columnNames, map_name_modify (g := id) hname, List.modify_id]
  exact h.names_nodup

theorem renameColumn_keeps {t t' : Table} {old new : String} (h : t.WellFormed)
    (ht : t.renameColumn old new = .ok t') : t.Keeps t' := by
  obtain ⟨_, hfree, hm⟩ := renameColumn_eq_ok.mp ht
  refine modifyColumn_keeps_of_nodup h (f := ({ · with name := new })) (fun _ => rfl) (fun _ hc => hc)
    hm ?_
  obtain ⟨_, rfl⟩ := modifyColumn_eq_ok.mp hm
  rw [columnNames, map_name_modify (g := fun _ => new) (fun _ => rfl), ← List.set_eq_modify]
  exact h.names_nodup.set hfree

end Table

namespace Functions

/-- The functions of a name: at least one, all of that name, and no two with the same argument types. -/
structure Overloads (name : String) (fs : List Function) : Prop where
  ne_nil : fs ≠ []
  name_eq : ∀ f ∈ fs, f.name = name
  types_nodup : (fs.map Function.types).Nodup

def WellFormed (fs : Functions) : Prop :=
  ∀ name overloads, fs.get? name = some overloads → Overloads name overloads

theorem wellFormed_empty : WellFormed Dict.empty := by
  intro name overloads h
  simp at h

theorem wellFormed_insert {fs : Functions} (h : fs.WellFormed) {name : String}
    {overloads : List Function} (ho : Overloads name overloads) :
    WellFormed (fs.insert name overloads) := by
  intro k v hv
  rw [Dict.get?_insert] at hv
  split at hv
  · rename_i hk
    cases hv
    exact hk ▸ ho
  · exact h k v hv

theorem wellFormed_erase {fs : Functions} (h : fs.WellFormed) (name : String) :
    WellFormed (fs.erase name) := by
  intro k v hv
  rw [Dict.get?_erase] at hv
  split at hv
  · cases hv
  · exact h k v hv

theorem mem_overloads {fs : Functions} {name : String} {f : Function}
    (hf : f ∈ fs.overloads name) : fs.get? name = some (fs.overloads name) := by
  unfold overloads at hf ⊢
  cases hget : fs.get? name with
  | none => simp [hget] at hf
  | some v => rfl

theorem name_of_mem_overloads {fs : Functions} (h : fs.WellFormed) {name : String} {f : Function}
    (hf : f ∈ fs.overloads name) : f.name = name :=
  (h name _ (mem_overloads hf)).name_eq f hf

theorem overloads_types_nodup {fs : Functions} (h : fs.WellFormed) (name : String) :
    ((fs.overloads name).map Function.types).Nodup := by
  unfold overloads
  cases hget : fs.get? name with
  | none => simp
  | some v => exact (h name v hget).types_nodup

theorem push_wellFormed {fs : Functions} (h : fs.WellFormed) {f : Function}
    (hnew : ∀ g ∈ fs.overloads f.name, g.types ≠ f.types) : (fs.push f).WellFormed := by
  apply wellFormed_insert h
  refine ⟨by simp, ?_, ?_⟩
  · intro g hg
    rcases List.mem_append.mp hg with hg | hg
    · exact name_of_mem_overloads h hg
    · rw [List.mem_singleton.mp hg]
  · rw [List.map_append, List.nodup_append]
    refine ⟨overloads_types_nodup h f.name, List.nodup_singleton _, ?_⟩
    intro a ha b hb
    obtain ⟨g, hg, rfl⟩ := List.mem_map.mp ha
    rw [List.mem_singleton.mp hb]
    exact hnew g hg

theorem set_wellFormed {fs : Functions} (h : fs.WellFormed) {f : Function} {i : Nat}
    (hi : i < (fs.overloads f.name).length) (htypes : (fs.overloads f.name)[i].types = f.types) :
    WellFormed (fs.insert f.name ((fs.overloads f.name).set i f)) := by
  apply wellFormed_insert h
  refine ⟨?_, ?_, ?_⟩
  · intro hnil
    have hlen := congrArg List.length hnil
    simp only [List.length_set, List.length_nil] at hlen
    omega
  · intro g hg
    rcases List.mem_or_eq_of_mem_set hg with hg | rfl
    · exact name_of_mem_overloads h hg
    · rfl
  · have hmap : ((fs.overloads f.name).set i f).map Function.types =
        (fs.overloads f.name).map Function.types := by
      rw [List.map_set, ← htypes, ← List.getElem_map Function.types (h := by simpa using hi)]
      exact List.set_getElem_self _
    rw [hmap]
    exact overloads_types_nodup h f.name

theorem add_wellFormed {fs fs' : Functions} (h : fs.WellFormed) {f : Function} {replace : Bool}
    (hadd : fs.add f replace = .ok fs') : fs'.WellFormed := by
  simp only [add] at hadd
  split at hadd
  · rename_i hnone
    cases hadd
    apply push_wellFormed h
    intro g hg hsame
    have hfalse := List.findIdx?_eq_none_iff.mp hnone g hg
    simp [Function.hasSignature, hsame] at hfalse
  · rename_i i hsome
    split at hadd
    · cases hadd
      obtain ⟨hi, hsame, _⟩ := List.findIdx?_eq_some_iff_getElem.mp hsome
      exact set_wellFormed h hi (by simpa [Function.hasSignature] using hsame)
    · cases hadd

theorem remove_wellFormed {fs fs' : Functions} (h : fs.WellFormed) {name : String}
    {types : Option (List TypeName)} (hrm : fs.remove name types = .ok fs') : fs'.WellFormed := by
  simp only [remove] at hrm
  split at hrm
  · cases hrm
    have hsub : ((fs.overloads name).eraseP (meant types)).Sublist (fs.overloads name) :=
      List.eraseP_sublist
    split
    · exact wellFormed_erase h name
    · rename_i hne
      apply wellFormed_insert h
      refine ⟨by simpa using hne, ?_, ?_⟩
      · exact fun g hg => name_of_mem_overloads h (hsub.subset hg)
      · exact (overloads_types_nodup h name).sublist (hsub.map _)
  · cases hrm

theorem overloads_reserve (fs : Functions) (name : String) :
    (fs.reserve name).overloads name = fs.overloads name := by
  rw [reserve, overloads, Dict.get?_insert_self]
  rfl

theorem add_reserve (fs : Functions) (f : Function) (replace : Bool) :
    (fs.reserve f.name).add f replace = fs.add f replace := by
  have hinsert : ∀ gs, (fs.reserve f.name).insert f.name gs = fs.insert f.name gs :=
    fun gs => Dict.insert_insert fs f.name (fs.overloads f.name) gs
  simp only [add, push, overloads_reserve, hinsert]

theorem reserve_of_add {fs : Functions} {f : Function} {replace : Bool} {e : Error}
    (h : fs.add f replace = .error e) : fs.reserve f.name = fs := by
  simp only [add] at h
  split at h
  · cases h
  · rename_i i hi
    obtain ⟨hlt, -⟩ := List.findIdx?_eq_some_iff_getElem.mp hi
    exact Dict.insert_get? (mem_overloads (List.getElem_mem hlt))

theorem builtins_wellFormed : builtins.WellFormed := by
  have hall : ∀ e ∈ builtins.entries,
      e.2 ≠ [] ∧ (∀ f ∈ e.2, f.name = e.1) ∧ (e.2.map Function.types).Nodup := by
    decide +kernel
  intro name overloads h
  obtain ⟨hne, hname, htypes⟩ := hall _ (Dict.mem_of_get? h)
  exact ⟨hne, hname, htypes⟩

end Functions

namespace Schema

structure WellFormed (s : Schema) : Prop where
  table_schema : ∀ name t, s.tables.get? name = some t → t.rel.schema = s.name
  table_name : ∀ name t, s.tables.get? name = some t → t.rel.name = name
  table_wellFormed : ∀ name t, s.tables.get? name = some t → t.WellFormed
  type_name : ∀ name t, s.types.get? name = some t → t.name = name
  apart : ∀ name, s.tables.contains name = true → s.types.contains name = false
  functions_wellFormed : s.functions.WellFormed

def Keeps (s s' : Schema) : Prop :=
  s'.name = s.name ∧ s'.WellFormed

theorem wellFormed_empty (name : String) : WellFormed { name } := by
  refine ⟨?_, ?_, ?_, ?_, ?_, Functions.wellFormed_empty⟩
  all_goals simp [Dict.contains]

theorem table_eq_ok {s : Schema} {name : String} {t : Table} :
    s.table name = .ok t ↔ s.tables.get? name = some t := by
  unfold table
  split <;> simp_all

theorem type_eq_ok {s : Schema} {name : String} {t : UserType} :
    s.type name = .ok t ↔ s.types.get? name = some t := by
  unfold type
  split <;> simp_all

theorem checkTableFree_eq_ok {s : Schema} {name : String} :
    s.checkTableFree name = .ok () ↔
      s.tables.contains name = false ∧ s.types.contains name = false := by
  unfold checkTableFree
  split
  · simp_all
  · split <;> simp_all

theorem checkTypeFree_eq_ok {s : Schema} {name : String} :
    s.checkTypeFree name = .ok () ↔
      s.tables.contains name = false ∧ s.types.contains name = false := by
  unfold checkTypeFree
  split
  · rename_i h
    rcases Bool.or_eq_true_iff.mp h with h | h <;> simp [h]
  · rename_i h
    simpa using h

theorem insertTable_eq_ok {s s' : Schema} {t : Table} :
    s.insertTable t = .ok s' ↔
      (s.tables.contains t.rel.name = false ∧ s.types.contains t.rel.name = false) ∧
        s' = { s with tables := s.tables.insert t.rel.name t } := by
  rw [insertTable, check_bind_eq_ok, checkTableFree_eq_ok, pure_eq_ok_iff]

theorem removeTable_eq_ok {s s' : Schema} {name : String} :
    s.removeTable name = .ok s' ↔
      (∃ t, s.tables.get? name = some t) ∧ s' = { s with tables := s.tables.erase name } := by
  simp only [removeTable, bind_eq_ok, table_eq_ok, pure_eq_ok_iff, exists_and_right]

theorem modifyTable_eq_ok {s s' : Schema} {name : String} {f : Table → Except Error Table} :
    s.modifyTable name f = .ok s' ↔
      ∃ t t', s.tables.get? name = some t ∧ f t = .ok t' ∧
        s' = { s with tables := s.tables.insert name t' } := by
  simp only [modifyTable, bind_eq_ok, table_eq_ok, pure_eq_ok_iff]
  constructor
  · rintro ⟨t, ht, t', hf, rfl⟩
    exact ⟨t, t', ht, hf, rfl⟩
  · rintro ⟨t, t', ht, hf, rfl⟩
    exact ⟨t, ht, t', hf, rfl⟩

theorem insertType_eq_ok {s s' : Schema} {t : UserType} :
    s.insertType t = .ok s' ↔
      (s.tables.contains t.name = false ∧ s.types.contains t.name = false) ∧
        s' = { s with types := s.types.insert t.name t } := by
  rw [insertType, check_bind_eq_ok, checkTypeFree_eq_ok, pure_eq_ok_iff]

theorem removeType_eq_ok {s s' : Schema} {name : String} :
    s.removeType name = .ok s' ↔
      (∃ t, s.types.get? name = some t) ∧ s' = { s with types := s.types.erase name } := by
  simp only [removeType, bind_eq_ok, type_eq_ok, pure_eq_ok_iff, exists_and_right]

theorem commentType_eq_ok {s s' : Schema} {name : String} {comment : Option String} :
    s.commentType name comment = .ok s' ↔
      ∃ t, s.types.get? name = some t ∧
        s' = { s with types := s.types.insert name { t with comment } } := by
  simp only [commentType, bind_eq_ok, type_eq_ok, pure_eq_ok_iff]

theorem wellFormed_putTable {s : Schema} (h : s.WellFormed) {t : Table} {name : String}
    (hschema : t.rel.schema = s.name) (hname : t.rel.name = name) (ht : t.WellFormed)
    (hfree : s.types.contains name = false) :
    WellFormed { s with tables := s.tables.insert name t } := by
  have hcases : ∀ k u, (s.tables.insert name t).get? k = some u →
      (k = name ∧ u = t) ∨ s.tables.get? k = some u := by
    intro k u hu
    rw [Dict.get?_insert] at hu
    split at hu
    · exact .inl ⟨‹_›, (Option.some.inj hu).symm⟩
    · exact .inr hu
  refine ⟨?_, ?_, ?_, h.type_name, ?_, h.functions_wellFormed⟩
  · intro k u hu
    rcases hcases k u hu with ⟨_, rfl⟩ | hu
    · exact hschema
    · exact h.table_schema k u hu
  · intro k u hu
    rcases hcases k u hu with ⟨rfl, rfl⟩ | hu
    · exact hname
    · exact h.table_name k u hu
  · intro k u hu
    rcases hcases k u hu with ⟨_, rfl⟩ | hu
    · exact ht
    · exact h.table_wellFormed k u hu
  · intro k hk
    obtain ⟨u, hu⟩ := Dict.contains_iff.mp hk
    rcases hcases k u hu with ⟨rfl, _⟩ | hu
    · exact hfree
    · exact h.apart k (Dict.contains_iff.mpr ⟨u, hu⟩)

theorem wellFormed_putType {s : Schema} (h : s.WellFormed) {t : UserType}
    (hfree : s.tables.contains t.name = false) :
    WellFormed { s with types := s.types.insert t.name t } := by
  refine ⟨h.table_schema, h.table_name, h.table_wellFormed, ?_, ?_, h.functions_wellFormed⟩
  · intro k u hu
    rw [Dict.get?_insert] at hu
    split at hu
    · rename_i hk
      rw [← Option.some.inj hu, hk]
    · exact h.type_name k u hu
  · intro k hk
    have hne : k ≠ t.name := by
      rintro rfl
      rw [hfree] at hk
      cases hk
    rw [Dict.contains_eq_false_iff, Dict.get?_insert, if_neg hne]
    exact Dict.contains_eq_false_iff.mp (h.apart k hk)

theorem insertTable_keeps {s s' : Schema} {t : Table} (h : s.WellFormed) (ht : t.WellFormed)
    (hschema : t.rel.schema = s.name) (hs : s.insertTable t = .ok s') : s.Keeps s' := by
  obtain ⟨⟨_, hfree⟩, rfl⟩ := insertTable_eq_ok.mp hs
  exact ⟨rfl, wellFormed_putTable h hschema rfl ht hfree⟩

theorem removeTable_keeps {s s' : Schema} {name : String} (h : s.WellFormed)
    (hs : s.removeTable name = .ok s') : s.Keeps s' := by
  obtain ⟨_, rfl⟩ := removeTable_eq_ok.mp hs
  have hget : ∀ k u, (s.tables.erase name).get? k = some u → s.tables.get? k = some u := by
    intro k u hu
    rw [Dict.get?_erase] at hu
    split at hu
    · cases hu
    · exact hu
  refine ⟨rfl, ?_, ?_, ?_, h.type_name, ?_, h.functions_wellFormed⟩
  · exact fun k u hu => h.table_schema k u (hget k u hu)
  · exact fun k u hu => h.table_name k u (hget k u hu)
  · exact fun k u hu => h.table_wellFormed k u (hget k u hu)
  · intro k hk
    obtain ⟨u, hu⟩ := Dict.contains_iff.mp hk
    exact h.apart k (Dict.contains_iff.mpr ⟨u, hget k u hu⟩)

theorem modifyTable_keeps {s s' : Schema} {name : String} {f : Table → Except Error Table}
    (h : s.WellFormed) (hf : ∀ t t', t.WellFormed → f t = .ok t' → t.Keeps t')
    (hs : s.modifyTable name f = .ok s') : s.Keeps s' := by
  obtain ⟨t, t', hget, ht, rfl⟩ := modifyTable_eq_ok.mp hs
  obtain ⟨hrel, hwf⟩ := hf t t' (h.table_wellFormed name t hget) ht
  have hfree : s.types.contains name = false := h.apart name (Dict.contains_iff.mpr ⟨t, hget⟩)
  refine ⟨rfl, wellFormed_putTable h ?_ ?_ hwf hfree⟩
  · rw [hrel]
    exact h.table_schema name t hget
  · rw [hrel]
    exact h.table_name name t hget

theorem insertType_keeps {s s' : Schema} {t : UserType} (h : s.WellFormed)
    (hs : s.insertType t = .ok s') : s.Keeps s' := by
  obtain ⟨⟨hfree, _⟩, rfl⟩ := insertType_eq_ok.mp hs
  exact ⟨rfl, wellFormed_putType h hfree⟩

theorem removeType_keeps {s s' : Schema} {name : String} (h : s.WellFormed)
    (hs : s.removeType name = .ok s') : s.Keeps s' := by
  obtain ⟨_, rfl⟩ := removeType_eq_ok.mp hs
  refine ⟨rfl, h.table_schema, h.table_name, h.table_wellFormed, ?_, ?_, h.functions_wellFormed⟩
  · intro k u hu
    rw [Dict.get?_erase] at hu
    split at hu
    · cases hu
    · exact h.type_name k u hu
  · intro k hk
    rw [Dict.contains_eq_false_iff, Dict.get?_erase]
    split
    · rfl
    · exact Dict.contains_eq_false_iff.mp (h.apart k hk)

theorem commentType_keeps {s s' : Schema} {name : String} {comment : Option String}
    (h : s.WellFormed) (hs : s.commentType name comment = .ok s') : s.Keeps s' := by
  obtain ⟨t, hget, rfl⟩ := commentType_eq_ok.mp hs
  have hname : t.name = name := h.type_name name t hget
  have hfree : s.tables.contains name = false := by
    cases hc : s.tables.contains name with
    | false => rfl
    | true =>
      have hnone := Dict.contains_eq_false_iff.mp (h.apart name hc)
      rw [hget] at hnone
      cases hnone
  subst hname
  exact ⟨rfl, wellFormed_putType (t := { t with comment }) h hfree⟩

theorem addFunction_reserveFunctions (s : Schema) (f : Function) (replace : Bool) :
    (s.reserveFunctions f.name).addFunction f replace = s.addFunction f replace := by
  simp only [addFunction, reserveFunctions, Functions.add_reserve]

theorem reserveFunctions_of_addFunction {s : Schema} {f : Function} {replace : Bool} {e : Error}
    (h : s.addFunction f replace = .error e) : s.reserveFunctions f.name = s := by
  rcases bind_eq_error.mp h with h | ⟨_, _, h⟩
  · rw [reserveFunctions, Functions.reserve_of_add h]
  · cases h

theorem addFunction_keeps {s s' : Schema} {f : Function} {replace : Bool} (h : s.WellFormed)
    (hs : s.addFunction f replace = .ok s') : s.Keeps s' := by
  obtain ⟨fs, hfs, hs'⟩ := bind_eq_ok.mp hs
  cases hs'
  exact ⟨rfl, { h with functions_wellFormed := Functions.add_wellFormed h.functions_wellFormed hfs }⟩

theorem removeFunction_keeps {s s' : Schema} {name : String} {types : Option (List TypeName)}
    (h : s.WellFormed) (hs : s.removeFunction name types = .ok s') : s.Keeps s' := by
  obtain ⟨fs, hfs, hs'⟩ := bind_eq_ok.mp hs
  cases hs'
  exact ⟨rfl,
    { h with functions_wellFormed := Functions.remove_wellFormed h.functions_wellFormed hfs }⟩

end Schema

end TypedSql
