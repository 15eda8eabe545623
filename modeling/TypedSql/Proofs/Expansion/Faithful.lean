import Mathlib.Data.List.Forall2
import TypedSql.Proofs.Expansion
import TypedSql.Proofs.SourceTable

/-!
# What expanded wildcards mean

The items of an expanded wildcard are column references. Read again, each means the column that it was
written for: a name that occurs once needs no table in front of it, and one that occurs more often has the
table in front that tells it apart.
-/

namespace TypedSql

namespace Lexer

def dottedName? : List Token → Option (List String)
  | [.word w] => some [w.name]
  | .word w :: .symbol "." :: ts => (dottedName? ts).map (w.name :: ·)
  | _ => none

def reference? (t : Text) : Option (List String) :=
  (lex t).bind fun ls => dottedName? (Sites.significant ls)

theorem standalone_intercalate (path : List String) (hne : path ≠ []) :
    (∃ c ∈ (['.'].intercalate (path.map Expansion.ident)).head?, isFresh c = true) ∧
      ∃ ls, Standalone (['.'].intercalate (path.map Expansion.ident)) ls ∧
        dottedName? (Sites.significant ls) = some path := by
  induction path with
  | nil => exact absurd rfl hne
  | cons name path ih =>
    have hname : (wordOf name.toList).name = name := by
      rw [name_wordOf]
      exact String.ofList_toList
    cases path with
    | nil =>
      rw [List.map_singleton, List.intercalate_singleton]
      refine ⟨isFresh_quote _, _, standalone_quote _, ?_⟩
      simp [Sites.significant, Lexeme.isTrivia, Token.isTrivia, dottedName?, hname]
    | cons next path =>
      obtain ⟨hfresh, ls, hls, hpath⟩ := ih (by simp)
      rw [List.map_cons, List.map_cons, List.intercalate_cons_cons, ← List.map_cons]
      refine ⟨?_, _, (standalone_quote name.toList).period hls hfresh, ?_⟩
      · rw [List.append_assoc]
        exact isFresh_append (isFresh_quote _) _
      · have hdotted : dottedName? (.word (wordOf name.toList) :: .symbol "." :: Sites.significant ls) =
            some (name :: next :: path) := by
          rw [dottedName?, hpath, hname]
          rfl
        exact hdotted

theorem reference?_qualified (qualifier : List String) (column : String) :
    reference? (Expansion.qualified qualifier column) = some (qualifier ++ [column]) := by
  obtain ⟨-, ls, hls, hpath⟩ := standalone_intercalate (qualifier ++ [column]) (by simp)
  rw [reference?, Expansion.qualified, hls.lex_eq]
  exact hpath

theorem reference?_ident (column : String) : reference? (Expansion.ident column) = some [column] := by
  have hqualified := reference?_qualified [] column
  rwa [Expansion.qualified, List.nil_append, List.map_singleton, List.intercalate_singleton] at hqualified

end Lexer

open SourceTable

namespace Expansion

variable {tables : List SourceTable} {t : SourceTable} {c : TypedColumn}

theorem resolveColumn_of_occurrences (h : Distinct tables) (ht : t ∈ tables) (hc : c ∈ t.columns)
    (honce : occurrences tables c.name ≤ 1) : resolveColumn tables [c.name] = .ok (t, c) := by
  obtain ⟨as, bs, rfl, -⟩ := h.exists_split ht
  have hpos : 0 < t.columns.countP (·.name == c.name) := List.countP_pos_iff.mpr ⟨c, hc, by simp⟩
  rw [occurrences, List.flatMap_append, List.flatMap_cons, List.countP_append, List.countP_append] at honce
  have hothers : ((as ++ bs).flatMap SourceTable.columns).countP (·.name == c.name) = 0 := by
    rw [List.flatMap_append, List.countP_append]
    omega
  refine resolveColumn_of_reach? (by simp) (fun u hu => ?_) ?_
  · rw [reach?, isNamedBy, if_pos rfl]
    refine Option.map_eq_none_iff.mpr (List.find?_eq_none.mpr fun d hd => ?_)
    exact List.countP_eq_zero.mp hothers d (List.mem_flatMap.mpr ⟨u, hu, hd⟩)
  · rw [reach?, isNamedBy, if_pos rfl]
    exact congrArg (Option.map (t, ·)) (column?_of_mem (h.columns t ht) hc)

def entries (tables : List SourceTable) : List (SourceTable × TypedColumn) :=
  tables.flatMap fun t => t.columns.map (t, ·)

theorem mem_entries {found : SourceTable × TypedColumn} :
    found ∈ entries tables ↔ found.1 ∈ tables ∧ found.2 ∈ found.1.columns := by
  obtain ⟨t, c⟩ := found
  simp only [entries, List.mem_flatMap, List.mem_map, Prod.mk.injEq]
  constructor
  · rintro ⟨t, ht, c, hc, rfl, rfl⟩
    exact ⟨ht, hc⟩
  · rintro ⟨ht, hc⟩
    exact ⟨t, ht, c, hc, rfl, rfl⟩

def bareItem (tables : List SourceTable) (found : SourceTable × TypedColumn) : Text :=
  if 1 < occurrences tables found.2.name then qualified [found.1.name] found.2.name else ident found.2.name

theorem bareItems_eq (tables : List SourceTable) : bareItems tables = (entries tables).map (bareItem tables) := by
  simp [bareItems, entries, bareItem, List.map_flatMap, Function.comp_def]

theorem resolveColumn_bareItem (h : Distinct tables) {found : SourceTable × TypedColumn}
    (hfound : found ∈ entries tables) :
    ∃ path, Lexer.reference? (bareItem tables found) = some path ∧ resolveColumn tables path = .ok found := by
  obtain ⟨ht, hc⟩ := mem_entries.mp hfound
  unfold bareItem
  split
  · exact ⟨_, Lexer.reference?_qualified _ _, resolveColumn_qualified h ht hc⟩
  · rename_i honce
    exact ⟨_, Lexer.reference?_ident _, resolveColumn_of_occurrences h ht hc (Nat.not_lt.mp honce)⟩

/-- An expanded bare wildcard has one item for each result column, in the same order, and each item, read as
the reference that it is, means that column of its table. -/
theorem items_faithful (h : Distinct tables) {star : StarRef} (hbare : star.qualifier = [])
    (hembed : star.embed = false) :
    ∃ texts columns, items tables star = .ok texts ∧ Output.starColumns tables star = .ok columns ∧
      columns = (entries tables).map Prod.snd ∧
      List.Forall₂ (fun text found => ∃ path, Lexer.reference? text = some path ∧
        resolveColumn tables path = .ok found) texts (entries tables) := by
  refine ⟨bareItems tables, tables.flatMap SourceTable.columns, ?_, ?_, ?_, ?_⟩
  · rw [items, hbare]
    rfl
  · rw [Output.starColumns, hbare]
    simp [starTables, hembed]
  · simp [entries, List.map_flatMap, Function.comp_def]
  · rw [bareItems_eq, List.forall₂_map_left_iff, List.forall₂_same]
    exact fun found hfound => resolveColumn_bareItem h hfound

theorem items_faithful_shared :
    let u : SourceTable :=
      { name := "User", rel := .ofSchema "public" "t", columns := [.untyped "id", .untyped "a\"b"] }
    let v : SourceTable := { name := "v", rel := .ofName "v", columns := [.untyped "id", .untyped "order"] }
    let star : StarRef := { qualifier := [], location := some 7, text := ['*'], embed := false }
    Distinct [u, v] ∧
      items [u, v] star = .ok ["\"User\".id".toList, "\"a\"\"b\"".toList, "v.id".toList, "\"order\"".toList] ∧
      ∃ texts columns, items [u, v] star = .ok texts ∧ Output.starColumns [u, v] star = .ok columns ∧
        columns = (entries [u, v]).map Prod.snd ∧
        List.Forall₂ (fun text found => ∃ path, Lexer.reference? text = some path ∧
          resolveColumn [u, v] path = .ok found) texts (entries [u, v]) := by
  intro u v star
  have hdistinct : Distinct [u, v] := ⟨by decide, by decide⟩
  exact ⟨hdistinct, by decide +kernel, items_faithful hdistinct rfl rfl⟩

end Expansion

end TypedSql
