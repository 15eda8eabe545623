import Mathlib.Data.Nat.Find
import Mathlib.Data.Set.Subsingleton
import TypedSql.Proofs.SourceTable

/-!
# Columns that a reference can mean

A reference can mean every column of its name in every table that its qualifier names. A search looks at the
first such column of each table only. So it tells two tables apart, but not two columns of one table, as a
named query may have them.
-/

namespace TypedSql

open SourceTable

/-- The columns that a reference can mean, each by the index of its table and its index in the table. -/
def columnPlaces (tables : List SourceTable) (path : List String) : Set (Nat × Nat) :=
  { p | ∃ t c, tables[p.1]? = some t ∧ t.isNamedBy path = true ∧ t.columns[p.2]? = some c ∧
    c.name = path.getLastD "" }

def AnswersAt (tables : List SourceTable) (path : List String) (p : Nat × Nat) : Prop :=
  ∃ t c, tables[p.1]? = some t ∧ t.columns[p.2]? = some c ∧ findColumn tables path = .ok (some (t, c))

structure FindsUnique (tables : List SourceTable) (path : List String) : Prop where
  none : columnPlaces tables path = ∅ → findColumn tables path = .ok none
  one : ∀ p, columnPlaces tables path = {p} → AnswersAt tables path p
  many : (columnPlaces tables path).Nontrivial →
    findColumn tables path = .error (.columnAmbiguous (path.getLastD ""))

section

variable {tables : List SourceTable} {path : List String} {i : Nat} {t : SourceTable}

theorem reach?_eq_some {u : SourceTable} {c : TypedColumn} :
    t.reach? path = some (u, c) ↔
      t.isNamedBy path = true ∧ t.column? (path.getLastD "") = some c ∧ u = t := by
  rw [reach?]
  split
  · rename_i hnamed
    rw [Option.map_eq_some_iff]
    constructor
    · rintro ⟨_, hc, ⟨⟩⟩
      exact ⟨hnamed, hc, rfl⟩
    · rintro ⟨-, hc, rfl⟩
      exact ⟨c, hc, rfl⟩
  · rename_i hnamed
    simp [hnamed]

theorem reach?_ne_none_iff (ht : tables[i]? = some t) :
    t.reach? path ≠ none ↔ ∃ j, (i, j) ∈ columnPlaces tables path := by
  constructor
  · intro h
    obtain ⟨⟨u, c⟩, hfound⟩ := Option.ne_none_iff_exists'.mp h
    obtain ⟨hnamed, hcolumn, -⟩ := reach?_eq_some.mp hfound
    obtain ⟨hname, j, hj, hc, -⟩ := List.find?_eq_some_iff_getElem.mp hcolumn
    exact ⟨j, t, c, ht, hnamed, List.getElem?_eq_some_iff.mpr ⟨hj, hc⟩, eq_of_beq hname⟩
  · rintro ⟨j, u, c, hu, hnamed, hc, hname⟩ hnone
    obtain rfl := Option.some.inj (ht.symm.trans hu)
    have hcolumn : t.column? (path.getLastD "") = Option.none := by
      simpa [reach?, hnamed] using hnone
    exact List.find?_eq_none.mp hcolumn c (List.mem_of_getElem? hc) (beq_iff_eq.mpr hname)

theorem reach?_of_first {p : Nat × Nat} (hp : p ∈ columnPlaces tables path)
    (hfirst : ∀ j, (p.1, j) ∈ columnPlaces tables path → p.2 ≤ j) :
    ∃ t c, tables[p.1]? = some t ∧ t.columns[p.2]? = some c ∧ t.reach? path = some (t, c) := by
  obtain ⟨t, c, ht, hnamed, hc, hname⟩ := hp
  refine ⟨t, c, ht, hc, reach?_eq_some.mpr ⟨hnamed, ?_, rfl⟩⟩
  obtain ⟨hlt, hget⟩ := List.getElem?_eq_some_iff.mp hc
  refine List.find?_eq_some_iff_getElem.mpr ⟨beq_iff_eq.mpr hname, p.2, hlt, hget, fun j hj => ?_⟩
  rw [Bool.not_eq_true', beq_eq_false_iff_ne]
  intro heq
  have hmem : (p.1, j) ∈ columnPlaces tables path :=
    ⟨t, _, ht, hnamed, List.getElem?_eq_getElem (hj.trans hlt), heq⟩
  exact absurd hj (Nat.not_lt.mpr (hfirst j hmem))

variable (hpath : path.length ≤ 3)

include hpath

theorem findColumn_eq_none (h : columnPlaces tables path = ∅) : findColumn tables path = .ok none := by
  have hnil : tables.filterMap (reach? path) = [] := by
    refine List.filterMap_eq_nil_iff.mpr fun t ht => ?_
    by_contra hreach
    obtain ⟨i, hi⟩ := List.getElem?_of_mem ht
    obtain ⟨j, hj⟩ := (reach?_ne_none_iff hi).mp hreach
    rw [h] at hj
    exact hj
  rw [findColumn, if_neg (Nat.not_lt.mpr hpath), hnil]
  rfl

theorem findColumn_of_first {p : Nat × Nat} (hp : p ∈ columnPlaces tables path)
    (hfirst : ∀ q ∈ columnPlaces tables path, q.1 = p.1 ∧ p.2 ≤ q.2) : AnswersAt tables path p := by
  obtain ⟨t, c, ht, hc, hreach⟩ := reach?_of_first hp fun j hj => (hfirst _ hj).2
  refine ⟨t, c, ht, hc, ?_⟩
  obtain ⟨hlt, hget⟩ := List.getElem?_eq_some_iff.mp ht
  have hsplit : tables = tables.take p.1 ++ t :: tables.drop (p.1 + 1) := by
    rw [← hget, List.getElem_cons_drop, List.take_append_drop]
  have hothers : ∀ u ∈ tables.take p.1 ++ tables.drop (p.1 + 1), u.reach? path = Option.none := by
    intro u hu
    by_contra hne
    obtain ⟨i, hi, hip⟩ : ∃ i, tables[i]? = some u ∧ i ≠ p.1 := by
      rcases List.mem_append.mp hu with hu | hu
      · obtain ⟨i, hi⟩ := List.getElem?_of_mem hu
        rw [List.getElem?_take] at hi
        split at hi
        · exact ⟨i, hi, by omega⟩
        · cases hi
      · obtain ⟨i, hi⟩ := List.getElem?_of_mem hu
        rw [List.getElem?_drop] at hi
        exact ⟨_, hi, by omega⟩
    obtain ⟨j, hj⟩ := (reach?_ne_none_iff hi).mp hne
    exact hip (hfirst _ hj).1
  rw [hsplit, findColumn, if_neg (Nat.not_lt.mpr hpath), filterMap_reach? hothers, hreach]
  rfl

theorem findColumn_ambiguous {p q : Nat × Nat} (hp : p ∈ columnPlaces tables path)
    (hq : q ∈ columnPlaces tables path) (hne : p.1 ≠ q.1) :
    findColumn tables path = .error (.columnAmbiguous (path.getLastD "")) := by
  rw [findColumn, if_neg (Nat.not_lt.mpr hpath)]
  have hreached : ∀ r ∈ columnPlaces tables path, ∃ t, tables[r.1]? = some t ∧ t.reach? path ≠ Option.none := by
    intro r hr
    obtain ⟨t, c, ht, -⟩ := id hr
    exact ⟨t, ht, (reach?_ne_none_iff ht).mpr ⟨r.2, hr⟩⟩
  obtain ⟨t, ht, hreach⟩ := hreached p hp
  obtain ⟨u, hu, hreach'⟩ := hreached q hq
  split
  · rename_i hnil
    exact absurd (List.filterMap_eq_nil_iff.mp hnil t (List.mem_of_getElem? ht)) hreach
  · rename_i found hone
    -- a table in front of the only one that is reached, or behind it, is not reached
    obtain ⟨before, v, after, rfl, hbefore, -, hafter⟩ := List.filterMap_eq_cons_iff.mp hone
    have hat : ∀ i w, (before ++ v :: after)[i]? = some w → w.reach? path ≠ Option.none → i = before.length := by
      intro i w hw hreach
      rcases Nat.lt_trichotomy i before.length with hlt | heq | hgt
      · rw [List.getElem?_append_left hlt] at hw
        exact absurd (hbefore w (List.mem_of_getElem? hw)) hreach
      · exact heq
      · rw [List.getElem?_append_right hgt.le, List.getElem?_cons] at hw
        rw [if_neg (by omega)] at hw
        exact absurd (List.filterMap_eq_nil_iff.mp hafter w (List.mem_of_getElem? hw)) hreach
    exact absurd ((hat _ t ht hreach).trans (hat _ u hu hreach').symm) hne
  · rfl

end

theorem exists_first {tables : List SourceTable} {path : List String} {p : Nat × Nat}
    (hp : p ∈ columnPlaces tables path) (hsame : ∀ q ∈ columnPlaces tables path, q.1 = p.1) :
    ∃ f ∈ columnPlaces tables path, ∀ q ∈ columnPlaces tables path, q.1 = f.1 ∧ f.2 ≤ q.2 := by
  have hex : ∃ j, (p.1, j) ∈ columnPlaces tables path := ⟨p.2, hp⟩
  classical
  refine ⟨(p.1, Nat.find hex), Nat.find_spec hex, fun q hq => ⟨hsame q hq, Nat.find_min' hex ?_⟩⟩
  rw [← hsame q hq]
  exact hq

/-- A search finds nothing if there is no column that the reference can mean; the first of these columns if
one table has them all; and an ambiguity if two tables have one. So it answers by the number of these columns
if and only if, where there are several, they are not all of one table. -/
theorem findColumn_unique_iff (tables : List SourceTable) {path : List String} (hpath : path.length ≤ 3) :
    (columnPlaces tables path = ∅ → findColumn tables path = .ok none) ∧
    (∀ p ∈ columnPlaces tables path, (∀ q ∈ columnPlaces tables path, q.1 = p.1 ∧ p.2 ≤ q.2) →
      AnswersAt tables path p) ∧
    (∀ p ∈ columnPlaces tables path, ∀ q ∈ columnPlaces tables path, p.1 ≠ q.1 →
      findColumn tables path = .error (.columnAmbiguous (path.getLastD ""))) ∧
    (FindsUnique tables path ↔ ((columnPlaces tables path).Nontrivial →
      ∃ p ∈ columnPlaces tables path, ∃ q ∈ columnPlaces tables path, p.1 ≠ q.1)) := by
  refine ⟨findColumn_eq_none hpath, fun p hp => findColumn_of_first hpath hp,
    fun p hp q hq => findColumn_ambiguous hpath hp hq, fun h hmany => ?_, fun h => ⟨?_, ?_, ?_⟩⟩
  · by_contra hsame
    obtain ⟨p, hp, -⟩ := id hmany
    obtain ⟨f, hf, hfirst⟩ := exists_first hp fun q hq =>
      by_contra fun hne => hsame ⟨q, hq, p, hp, hne⟩
    obtain ⟨t, c, -, -, hanswer⟩ := findColumn_of_first hpath hf hfirst
    rw [h.many hmany] at hanswer
    cases hanswer
  · exact findColumn_eq_none hpath
  · intro p hone
    refine findColumn_of_first hpath (by simp [hone]) fun q hq => ?_
    rw [hone] at hq
    obtain rfl := Set.mem_singleton_iff.mp hq
    exact ⟨rfl, le_rfl⟩
  · intro hmany
    obtain ⟨p, hp, q, hq, hne⟩ := h hmany
    exact findColumn_ambiguous hpath hp hq hne

theorem findColumn_unique_iff_shared :
    let users : SourceTable := { name := "u", rel := .ofSchema "public" "users", columns := [.untyped "id"] }
    let posts : SourceTable :=
      { name := "posts", rel := .ofSchema "public" "posts", columns := [.untyped "title", .untyped "id"] }
    ["id"].length ≤ 3 ∧ FindsUnique [users, posts] ["id"] ∧
      findColumn [users, posts] ["id"] = .error (.columnAmbiguous "id") := by
  intro users posts
  have hfirst : (0, 0) ∈ columnPlaces [users, posts] ["id"] := ⟨users, .untyped "id", rfl, rfl, rfl, rfl⟩
  have hsecond : (1, 1) ∈ columnPlaces [users, posts] ["id"] := ⟨posts, .untyped "id", rfl, rfl, rfl, rfl⟩
  have hspec := findColumn_unique_iff [users, posts] (show ["id"].length ≤ 3 by decide)
  exact ⟨by decide, hspec.2.2.2.mpr fun _ => ⟨_, hfirst, _, hsecond, by decide⟩,
    hspec.2.2.1 _ hfirst _ hsecond (by decide)⟩

/-- A column that one table has twice is not ambiguous: the first one is answered. -/
theorem findColumn_repeated :
    let first : TypedColumn := .ofType "a" (.ofName "int")
    let x : SourceTable := { name := "x", rel := .ofName "x", columns := [first, .ofType "a" (.ofName "text")] }
    (columnPlaces [x] ["a"]).Nontrivial ∧ findColumn [x] ["a"] = .ok (some (x, first)) := by
  intro first x
  refine ⟨⟨(0, 0), ⟨x, first, rfl, rfl, rfl, rfl⟩, (0, 1), ?_, by decide⟩, by decide +kernel⟩
  exact ⟨x, .ofType "a" (.ofName "text"), rfl, rfl, rfl, rfl⟩

end TypedSql
