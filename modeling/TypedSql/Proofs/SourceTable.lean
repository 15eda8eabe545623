import Mathlib.Data.List.Nodup
import TypedSql.Statement
import TypedSql.Proofs.Fallible
import TypedSql.SourceTable

/-!
# Columns that references find

Among tables with different names, whose columns have different names, a reference with the name of a table
in front means the column of that table. A reference with a schema in front of that means the same column
if the table belongs to the schema, and none otherwise. A wildcard looks at the name of the table only.
-/

namespace TypedSql

namespace SourceTable

structure Distinct (tables : List SourceTable) : Prop where
  names : (tables.map SourceTable.name).Nodup
  columns : ∀ t ∈ tables, (t.columns.map TypedColumn.name).Nodup

theorem column?_of_mem {t : SourceTable} (h : (t.columns.map TypedColumn.name).Nodup) {c : TypedColumn}
    (hc : c ∈ t.columns) : t.column? c.name = some c := by
  obtain ⟨as, bs, heq⟩ := List.append_of_mem hc
  rw [heq, List.map_append, List.map_cons, List.nodup_middle, List.nodup_cons] at h
  have hnone : as.find? (·.name == c.name) = none := by
    refine List.find?_eq_none.mpr fun d hd hname => h.1 ?_
    rw [← eq_of_beq hname]
    exact List.mem_append_left _ (List.mem_map_of_mem hd)
  rw [column?, heq, List.find?_append, hnone]
  simp

theorem Distinct.exists_split {tables : List SourceTable} (h : Distinct tables) {t : SourceTable}
    (ht : t ∈ tables) : ∃ as bs, tables = as ++ t :: bs ∧ ∀ u ∈ as ++ bs, u.name ≠ t.name := by
  obtain ⟨as, bs, rfl⟩ := List.append_of_mem ht
  have hnames := h.names
  rw [List.map_append, List.map_cons, List.nodup_middle, List.nodup_cons, ← List.map_append] at hnames
  refine ⟨as, bs, rfl, fun u hu heq => hnames.1 ?_⟩
  rw [← heq]
  exact List.mem_map_of_mem hu

end SourceTable

open SourceTable

section

variable {as bs : List SourceTable} {t : SourceTable} {path : List String}

theorem filterMap_reach? (h : ∀ u ∈ as ++ bs, u.reach? path = none) :
    (as ++ t :: bs).filterMap (reach? path) = (t.reach? path).toList := by
  have hnil : ∀ us ⊆ as ++ bs, us.filterMap (reach? path) = [] :=
    fun us hus => List.filterMap_eq_nil_iff.mpr fun u hu => h u (hus hu)
  rw [List.filterMap_append, List.filterMap_cons, hnil as (List.subset_append_left as bs),
    hnil bs (List.subset_append_right as bs)]
  cases t.reach? path <;> rfl

theorem resolveColumn_of_reach? (hpath : path.length ≤ 3) (h : ∀ u ∈ as ++ bs, u.reach? path = none)
    {found : SourceTable × TypedColumn} (ht : t.reach? path = some found) :
    resolveColumn (as ++ t :: bs) path = .ok found := by
  rw [resolveColumn, findColumn, if_neg (Nat.not_lt.mpr hpath), filterMap_reach? h, ht]
  rfl

theorem resolveColumn_of_reach?_eq_none (hpath : path.length ≤ 3) (h : ∀ u ∈ as ++ bs, u.reach? path = none)
    (ht : t.reach? path = none) :
    resolveColumn (as ++ t :: bs) path = .error (.undefinedColumn (".".intercalate path)) := by
  rw [resolveColumn, findColumn, if_neg (Nat.not_lt.mpr hpath), filterMap_reach? h, ht]
  rfl

end

section

variable {tables : List SourceTable} {t : SourceTable} {c : TypedColumn}

theorem resolveColumn_qualified (h : Distinct tables) (ht : t ∈ tables) (hc : c ∈ t.columns) :
    resolveColumn tables [t.name, c.name] = .ok (t, c) := by
  obtain ⟨as, bs, rfl, hothers⟩ := h.exists_split ht
  refine resolveColumn_of_reach? (by simp) (fun u hu => ?_) ?_
  · rw [reach?, isNamedBy, if_neg (by simpa using (hothers u hu).symm)]
  · rw [reach?, isNamedBy, if_pos (by simp)]
    exact congrArg (Option.map (t, ·)) (column?_of_mem (h.columns t ht) hc)

theorem resolveColumn_schema (h : Distinct tables) (ht : t ∈ tables) (hc : c ∈ t.columns) (schema : String) :
    resolveColumn tables [schema, t.name, c.name] =
      if schema = t.rel.schema then .ok (t, c)
      else .error (.undefinedColumn (".".intercalate [schema, t.name, c.name])) := by
  obtain ⟨as, bs, rfl, hothers⟩ := h.exists_split ht
  have hnone : ∀ u ∈ as ++ bs, u.reach? [schema, t.name, c.name] = none := fun u hu => by
    rw [reach?, isNamedBy, if_neg (by simpa using fun heq => absurd heq.symm (hothers u hu))]
  split
  · rename_i hschema
    refine resolveColumn_of_reach? (by simp) hnone ?_
    rw [reach?, isNamedBy, if_pos (by simpa using hschema)]
    exact congrArg (Option.map (t, ·)) (column?_of_mem (h.columns t ht) hc)
  · rename_i hschema
    refine resolveColumn_of_reach?_eq_none (by simp) hnone ?_
    rw [reach?, isNamedBy, if_neg (by simpa using hschema)]

end

theorem mem_starTables {tables matched : List SourceTable} (qualifier : List String) {name : String}
    (h : starTables tables (qualifier ++ [name]) = .ok matched) :
    ∀ t ∈ matched, t ∈ tables ∧ t.name = name := by
  rw [starTables, List.getLast?_concat] at h
  dsimp only at h
  split at h
  · cases h
  · obtain rfl := pure_eq_ok_iff.mp h
    intro t ht
    obtain ⟨ht, hname⟩ := List.mem_filter.mp ht
    exact ⟨ht, eq_of_beq hname⟩

/-- A wildcard with a table, or a schema and a table, in front stands for columns that a reference with the
same qualifier finds if and only if the schema, where there is one, is that of the table. -/
theorem resolveColumn_star_iff {tables matched : List SourceTable} (h : Distinct tables) {star : StarRef}
    (hparts : star.qualifier.length = 1 ∨ star.qualifier.length = 2)
    (hstar : starTables tables star.qualifier = .ok matched) :
    ∀ t ∈ matched, ∀ c ∈ t.columns,
      (resolveColumn tables (star.qualifier ++ [c.name]) = .ok (t, c) ↔
        ∀ schema ∈ star.qualifier.dropLast, schema = t.rel.schema) := by
  intro t ht c hc
  rcases hparts with hparts | hparts
  · obtain ⟨name, hname⟩ := List.length_eq_one_iff.mp hparts
    rw [hname] at hstar ⊢
    obtain ⟨hmem, rfl⟩ := mem_starTables [] hstar t ht
    simpa using resolveColumn_qualified h hmem hc
  · obtain ⟨schema, name, hname⟩ := List.length_eq_two.mp hparts
    rw [hname] at hstar ⊢
    obtain ⟨hmem, rfl⟩ := mem_starTables [schema] hstar t ht
    rw [List.cons_append, List.singleton_append, resolveColumn_schema h hmem hc]
    split <;> simp_all

theorem resolveColumn_star_iff_renamed :
    let t : SourceTable := { name := "u", rel := .ofSchema "s" "t", columns := [.untyped "a", .untyped "b"] }
    let cte : SourceTable := { name := "x", rel := .ofName "x", columns := [.untyped "a"] }
    let star : StarRef := { qualifier := ["s", "u"], location := some 7, text := "s.u.*".toList, embed := false }
    Distinct [cte, t] ∧ starTables [cte, t] star.qualifier = .ok [t] ∧
      ∀ c ∈ t.columns, resolveColumn [cte, t] (star.qualifier ++ [c.name]) = .ok (t, c) := by
  intro t cte star
  have hdistinct : Distinct [cte, t] := ⟨by decide, by decide⟩
  have hstar : starTables [cte, t] star.qualifier = .ok [t] := by decide +kernel
  refine ⟨hdistinct, hstar, fun c hc => ?_⟩
  refine (resolveColumn_star_iff hdistinct (.inr rfl) hstar t (by simp) c hc).mpr ?_
  simp [star, t, QualifiedName.ofSchema]

/-- A wildcard takes a table of another schema, whose columns a reference does not find. -/
theorem starTables_of_other_schema :
    let t : SourceTable := { name := "t", rel := .ofSchema "public" "t", columns := [.untyped "a"] }
    let star : StarRef := { qualifier := ["s", "t"], location := some 7, text := "s.t.*".toList, embed := false }
    Distinct [t] ∧ star.qualifier.length = 2 ∧ starTables [t] star.qualifier = .ok [t] ∧
      resolveColumn [t] (star.qualifier ++ ["a"]) = .error (.undefinedColumn "s.t.a") := by
  exact ⟨⟨by decide, by decide⟩, rfl, by decide +kernel, by decide +kernel⟩

end TypedSql
