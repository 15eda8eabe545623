import TypedSql.Proofs.Fallible
import TypedSql.Scope

/-!
# Tables of joined sources

The tables of all sources go into one list, in which every join makes a range of tables nullable. This list
has the tables of the leaves of the sources from left to right. A column of a leaf keeps that it is never
null unless a join around the leaf may leave the leaf without a row.
-/

namespace TypedSql

inductive JoinSide where
  | left
  | right
  deriving Repr, DecidableEq

def JoinKind.isNullable : JoinKind → JoinSide → Bool
  | .left, .right => true
  | .right, .left => true
  | .full, _ => true
  | _, _ => false

/-- A source that is no join, with the joins around it, the outermost first, and its side in each. -/
structure Leaf where
  item : FromItem
  around : List (JoinKind × JoinSide) := []

def Leaf.within (kind : JoinKind) (side : JoinSide) (l : Leaf) : Leaf :=
  { l with around := (kind, side) :: l.around }

def Leaf.isNullable (l : Leaf) : Bool :=
  l.around.any fun j => j.1.isNullable j.2

def FromItem.leaves : FromItem → List Leaf
  | .join kind left right _ =>
    left.leaves.map (.within kind .left) ++ right.leaves.map (.within kind .right)
  | item => [{ item }]

example (a b c : RangeVar) :
    (FromItem.join .right (.join .left (.range a) (.range b) none) (.range c) none).leaves.map
      Leaf.isNullable = [true, true, false] :=
  rfl

def Leaf.seen (l : Leaf) (t : SourceTable) : SourceTable :=
  { t with columns := t.columns.map fun c => { c with notNull := c.notNull && !l.isNullable } }

namespace SourceTable

def onSide (kind : JoinKind) (side : JoinSide) (t : SourceTable) : SourceTable :=
  if kind.isNullable side then t.nullable else t

theorem seen_within (kind : JoinKind) (side : JoinSide) (l : Leaf) (t : SourceTable) :
    (l.within kind side).seen t = (l.seen t).onSide kind side := by
  have hany : (l.within kind side).isNullable = (kind.isNullable side || l.isNullable) := rfl
  rw [Leaf.seen, hany, onSide]
  cases kind.isNullable side with
  | false => rfl
  | true =>
    rw [if_pos rfl, nullable, Leaf.seen, List.map_map]
    congr 1
    refine List.map_congr_left fun c _ => ?_
    simp

theorem seen_of_not_isNullable {l : Leaf} (h : l.isNullable = false) (t : SourceTable) : l.seen t = t := by
  simp [Leaf.seen, h]

end SourceTable

namespace Scope

theorem join_eq (kind : JoinKind) (left right : List SourceTable) :
    join kind left right =
      left.map (SourceTable.onSide kind .left) ++ right.map (SourceTable.onSide kind .right) := by
  have hsame : ∀ ts : List SourceTable, ts.map (fun t => t) = ts := List.map_id'
  cases kind with
  | inner => exact congrArg₂ _ (hsame left).symm (hsame right).symm
  | left => exact congrArg (· ++ _) (hsame left).symm
  | right => exact congrArg (_ ++ ·) (hsame right).symm
  | full => rfl

def itemTables (scope : Scope) : FromItem → Except Error (List SourceTable)
  | .range r => return [← scope.table r]
  | .join kind left right _ => return join kind (← scope.itemTables left) (← scope.itemTables right)
  | item => throw (.unsupported s!"{item.kind} in FROM clause")

theorem joinFrom_append (kind : JoinKind) (found left right : List SourceTable) :
    joinFrom kind found.length (found ++ left).length (found ++ left ++ right) =
      found ++ join kind left right := by
  have hbefore : (found ++ left ++ right).splitAt found.length = (found, left ++ right) := by
    simp [List.splitAt_eq]
  have hjoined : (left ++ right).splitAt ((found ++ left).length - found.length) = (left, right) := by
    simp [List.splitAt_eq]
  rw [joinFrom, hbefore]
  dsimp only
  rw [hjoined]

theorem collect_eq (scope : Scope) (found : List SourceTable) (item : FromItem) :
    scope.collect found item = (do return found ++ (← scope.itemTables item)) := by
  fun_induction scope.collect found item with
  | case1 found r =>
    rw [itemTables]
    cases scope.table r <;> rfl
  | case2 found kind left right _ hleft hright =>
    rw [itemTables, hleft]
    cases scope.itemTables left with
    | error e => rfl
    | ok ls =>
      simp only [ok_bind, pure_eq_ok, hright]
      cases scope.itemTables right with
      | error e => rfl
      | ok rs => exact congrArg Except.ok (joinFrom_append kind found ls rs)
  | case3 found item hrange hjoin =>
    cases item with
    | range r => exact absurd rfl (hrange r)
    | join kind left right condition => exact absurd rfl (hjoin kind left right condition)
    | subquery => rfl
    | other => rfl

theorem tables_eq (scope : Scope) (items : List FromItem) :
    scope.tables items = (do return (← items.mapM scope.itemTables).flatten) := by
  suffices h : ∀ found, items.foldlM scope.collect found =
      (do return found ++ (← items.mapM scope.itemTables).flatten) from h []
  induction items with
  | nil => simp
  | cons item items ih =>
    intro found
    rw [List.foldlM_cons, collect_eq, List.mapM_cons]
    cases scope.itemTables item with
    | error e => rfl
    | ok ts =>
      simp only [ok_bind, pure_eq_ok, ih]
      cases items.mapM scope.itemTables with
      | error e => rfl
      | ok tss => simp

def leafTable (scope : Scope) : FromItem → Except Error SourceTable
  | .range r => scope.table r
  | item => throw (.unsupported s!"{item.kind} in FROM clause")

def seenTable (scope : Scope) (l : Leaf) : Except Error SourceTable :=
  return l.seen (← scope.leafTable l.item)

theorem mapM_seenTable_within (scope : Scope) (kind : JoinKind) (side : JoinSide) (ls : List Leaf) :
    (ls.map (.within kind side)).mapM scope.seenTable =
      (do return (← ls.mapM scope.seenTable).map (.onSide kind side)) := by
  induction ls with
  | nil => rfl
  | cons l ls ih =>
    have hseen : scope.seenTable (l.within kind side) =
        (do return (← scope.seenTable l).onSide kind side) := by
      unfold seenTable
      change (scope.leafTable l.item >>= _) = _
      cases scope.leafTable l.item with
      | error e => rfl
      | ok t => exact congrArg Except.ok (SourceTable.seen_within kind side l t)
    rw [List.map_cons, List.mapM_cons, List.mapM_cons, hseen, ih]
    cases scope.seenTable l with
    | error e => rfl
    | ok t => cases ls.mapM scope.seenTable <;> rfl

theorem itemTables_eq_leaves (scope : Scope) (item : FromItem) :
    scope.itemTables item = item.leaves.mapM scope.seenTable := by
  fun_induction scope.itemTables item with
  | case1 r =>
    change _ = List.mapM scope.seenTable [{ item := .range r }]
    cases h : scope.table r with
    | error e => simp [seenTable, leafTable, h]
    | ok t =>
      have hseen : Leaf.seen { item := .range r } t = t := SourceTable.seen_of_not_isNullable rfl t
      simp [seenTable, leafTable, h, hseen]
  | case2 kind left right _ hleft hright =>
    rw [FromItem.leaves, List.mapM_append, mapM_seenTable_within, mapM_seenTable_within, hleft, hright]
    cases left.leaves.mapM scope.seenTable with
    | error e => rfl
    | ok ls =>
      cases right.leaves.mapM scope.seenTable with
      | error e => rfl
      | ok rs => exact congrArg Except.ok (join_eq kind ls rs)
  | case3 item hrange hjoin =>
    cases item with
    | range r => exact absurd rfl (hrange r)
    | join kind left right condition => exact absurd rfl (hjoin kind left right condition)
    | subquery => rfl
    | other => rfl

theorem tables_eq_leaves (scope : Scope) (items : List FromItem) :
    scope.tables items = (items.flatMap FromItem.leaves).mapM scope.seenTable := by
  rw [tables_eq]
  induction items with
  | nil => rfl
  | cons item items ih =>
    rw [List.mapM_cons, List.flatMap_cons, List.mapM_append, ← ih, itemTables_eq_leaves]
    cases item.leaves.mapM scope.seenTable with
    | error e => rfl
    | ok ts => cases items.mapM scope.itemTables <;> rfl

def Finds (scope : Scope) (l : Leaf) (t : SourceTable) : Prop :=
  ∃ r, l.item = .range r ∧ scope.table r = .ok t

theorem leafTable_eq_ok {scope : Scope} {l : Leaf} {t : SourceTable} :
    scope.leafTable l.item = .ok t ↔ scope.Finds l t := by
  obtain ⟨item, around⟩ := l
  cases item with
  | range r => simp [leafTable, Finds]
  | _ => simp [leafTable, Finds]

theorem seenTable_eq_ok {scope : Scope} {l : Leaf} {u : SourceTable} :
    scope.seenTable l = .ok u ↔ ∃ t, scope.Finds l t ∧ u = l.seen t := by
  rw [seenTable, bind_eq_ok]
  refine exists_congr fun t => ?_
  rw [leafTable_eq_ok, pure_eq_ok_iff]

theorem exists_seenTable_eq_ok {scope : Scope} {l : Leaf} :
    (∃ u, scope.seenTable l = .ok u) ↔ ∃ t, scope.Finds l t := by
  simp only [seenTable_eq_ok]
  constructor
  · rintro ⟨_, t, ht, -⟩
    exact ⟨t, ht⟩
  · rintro ⟨t, ht⟩
    exact ⟨l.seen t, t, ht, rfl⟩

theorem seenTable_eq_error {scope : Scope} {l : Leaf} {e : Error} :
    scope.seenTable l = .error e ↔ scope.leafTable l.item = .error e := by
  rw [seenTable, bind_eq_error]
  simp

/-- Sources have tables if and only if each of their leaves does; otherwise the left-most leaf without one
gives the error. The tables are those of the leaves from left to right, in which a column is never null if
it is so in the table of the leaf and no join around the leaf has it on a nullable side. -/
theorem tables_of_leaves (scope : Scope) (items : List FromItem) :
    ((∃ e, scope.tables items = .error e) ↔
      ∃ l ∈ items.flatMap FromItem.leaves, ¬ ∃ t, scope.Finds l t) ∧
    (∀ e, scope.tables items = .error e ↔
      ∃ before l after, items.flatMap FromItem.leaves = before ++ l :: after ∧
        (∀ x ∈ before, ∃ t, scope.Finds x t) ∧ scope.leafTable l.item = .error e) ∧
    ∀ ts, scope.tables items = .ok ts ↔
      List.Forall₂ (fun l u => ∃ t, scope.Finds l t ∧ u = l.seen t) (items.flatMap FromItem.leaves) ts := by
  have herror : ∀ e, scope.tables items = .error e ↔
      ∃ before l after, items.flatMap FromItem.leaves = before ++ l :: after ∧
        (∀ x ∈ before, ∃ t, scope.Finds x t) ∧ scope.leafTable l.item = .error e := by
    intro e
    simp only [tables_eq_leaves, mapM_eq_error, exists_seenTable_eq_ok, seenTable_eq_error]
  have hok : ∀ ts, scope.tables items = .ok ts ↔ List.Forall₂
      (fun l u => ∃ t, scope.Finds l t ∧ u = l.seen t) (items.flatMap FromItem.leaves) ts := by
    intro ts
    simp only [tables_eq_leaves, mapM_eq_ok, seenTable_eq_ok]
  refine ⟨⟨?_, ?_⟩, herror, hok⟩
  · rintro ⟨e, he⟩
    obtain ⟨before, l, after, hleaves, -, hl⟩ := (herror e).mp he
    refine ⟨l, by simp [hleaves], ?_⟩
    rintro ⟨t, ht⟩
    rw [leafTable_eq_ok.mpr ht] at hl
    cases hl
  · rintro ⟨l, hl, hnone⟩
    cases htables : scope.tables items with
    | error e => exact ⟨e, rfl⟩
    | ok ts =>
      have hfound : List.Forall₂ (fun l _ => (∃ t, scope.Finds l t) ∧ True)
          (items.flatMap FromItem.leaves) ts :=
        ((hok ts).mp htables).imp fun _ _ h => ⟨h.imp fun _ ht => ht.1, trivial⟩
      exact absurd (((List.forall₂_and_left _ _).mp hfound).1 l hl) hnone

end Scope

end TypedSql
