import TypedSql.Proofs.Scope

/-!
# Column lists of named queries

The names of a column list go to the columns of a named query from left to right. An item of a select list
that no rule is known for has no column, and then the names of the items behind it go to the columns of other
items. So each name is that of its item if and only if no item without a column stands in front of one that
has a column.
-/

namespace TypedSql

def TypedColumn.typing (c : TypedColumn) : String × Bool × Nat × Bool :=
  (c.dataType, c.isArray, c.dims, c.notNull)

def Expr.hasColumn : Expr → Bool
  | .column _ | .call .. | .cast .. | .exist .. | .subquery _ | .inQuery .. => true
  | .binary _ op _ => op.isComparison || op.isArithmetic
  | .choose _ _ _ (some (.cast ..)) => true
  | _ => false

namespace Output

variable {catalog : Catalog} {tables : List SourceTable}

theorem length_exprColumns {e : Expr} (hstar : ∀ r, e ≠ .star r) {cs : List TypedColumn}
    (h : exprColumns catalog tables e = .ok cs) : cs.length = if e.hasColumn then 1 else 0 := by
  cases e with
  | star r => exact absurd rfl (hstar r)
  | column path =>
    obtain ⟨found, -, h⟩ := bind_eq_ok.mp h
    obtain rfl := pure_eq_ok_iff.mp h
    rfl
  | call c args =>
    obtain ⟨column, -, h⟩ := bind_eq_ok.mp h
    obtain rfl := pure_eq_ok_iff.mp h
    rfl
  | binary left op right =>
    obtain rfl := pure_eq_ok_iff.mp h
    rw [operatorColumns, Expr.hasColumn]
    cases op.isComparison <;> cases op.isArithmetic <;> rfl
  | choose operand conditions results otherwise =>
    cases otherwise with
    | none =>
      obtain rfl := pure_eq_ok_iff.mp h
      rfl
    | some e =>
      cases e <;> (obtain rfl := pure_eq_ok_iff.mp h; rfl)
  | _ =>
    obtain rfl := pure_eq_ok_iff.mp h
    rfl

theorem length_targetColumns {t : Target} (hstar : ∀ r, t.value ≠ .star r) {cs : List TypedColumn}
    (h : targetColumns catalog tables t = .ok cs) : cs.length = if t.value.hasColumn then 1 else 0 := by
  obtain ⟨cs', hcs', h⟩ := bind_eq_ok.mp h
  obtain rfl := pure_eq_ok_iff.mp h
  rw [← length_exprColumns hstar hcs']
  cases t.name with
  | none => rfl
  | some name => exact List.length_map _

theorem columns_eq_ok {ts : List Target} {cs : List TypedColumn} : columns catalog tables ts = .ok cs ↔
    ∃ css, List.Forall₂ (fun t l => targetColumns catalog tables t = .ok l) ts css ∧ cs = css.flatten := by
  rw [columns, bind_eq_ok]
  simp only [mapM_eq_ok, pure_eq_ok_iff]

theorem columns_singleton (t : Target) : columns catalog tables [t] = targetColumns catalog tables t := by
  rw [columns, List.mapM_cons, List.mapM_nil]
  cases targetColumns catalog tables t with
  | error e => rfl
  | ok cs => exact congrArg Except.ok (by simp)

end Output

section

variable {α : Type} {ls : List (List α)}

theorem length_flatten_le (h : ∀ l ∈ ls, l.length ≤ 1) : ls.flatten.length ≤ ls.length := by
  induction ls with
  | nil => exact Nat.le_refl 0
  | cons l ls ih =>
    obtain ⟨hl, hls⟩ := List.forall_mem_cons.mp h
    have := ih hls
    rw [List.flatten_cons, List.length_append, List.length_cons]
    omega

theorem eq_nil_or_singleton {l : List α} (h : l.length ≤ 1) : l = [] ∨ ∃ x, l = [x] := by
  cases l with
  | nil => exact .inl rfl
  | cons x l =>
    obtain rfl : l = [] := List.length_eq_zero_iff.mp (Nat.le_zero.mp (Nat.le_of_succ_le_succ h))
    exact .inr ⟨x, rfl⟩

theorem getElem?_of_flatten (h : ∀ l ∈ ls, l.length ≤ 1)
    (hfirst : ls.Pairwise fun a b => b ≠ [] → a ≠ []) {i : Nat} {x : α} (hi : ls.flatten[i]? = some x) :
    ls[i]? = some [x] := by
  induction ls generalizing i with
  | nil => cases hi
  | cons l ls ih =>
    obtain ⟨hl, hls⟩ := List.forall_mem_cons.mp h
    obtain ⟨hbehind, hrest⟩ := List.pairwise_cons.mp hfirst
    obtain rfl | ⟨y, rfl⟩ := eq_nil_or_singleton hl
    · have hnil : ls.flatten = [] := by
        refine List.flatten_eq_nil_iff.mpr fun b hb => ?_
        by_contra hne
        exact hbehind b hb hne rfl
      rw [List.flatten_cons, hnil] at hi
      cases hi
    · cases i with
      | zero => exact congrArg (fun x => some [x]) (Option.some.inj hi)
      | succ i => exact ih hls hrest hi

theorem pairwise_of_flatten (h : ∀ l ∈ ls, l.length ≤ 1)
    (hplace : ∀ (i : Nat) (x : α), ls.flatten[i]? = some x → ∃ y, ls[i]? = some [y]) :
    ls.Pairwise fun a b => b ≠ [] → a ≠ [] := by
  induction ls with
  | nil => exact .nil
  | cons l ls ih =>
    obtain ⟨hl, hls⟩ := List.forall_mem_cons.mp h
    obtain rfl | ⟨y, rfl⟩ := eq_nil_or_singleton hl
    · -- the first element of the lists behind would stand at the place of the empty list
      have hnil : ∀ b ∈ ls, b = [] := by
        refine List.flatten_eq_nil_iff.mp ?_
        by_contra hne
        obtain ⟨x, xs, hxs⟩ := List.exists_cons_of_ne_nil hne
        obtain ⟨y, hy⟩ := hplace 0 x (by rw [List.flatten_cons, hxs]; rfl)
        cases hy
      exact List.pairwise_cons.mpr ⟨fun b hb hne => absurd (hnil b hb) hne,
        List.pairwise_of_forall_mem_list fun a _ b hb hne => absurd (hnil b hb) hne⟩
    · exact List.pairwise_cons.mpr ⟨fun _ _ _ => List.cons_ne_nil y [],
        ih hls fun i x hx => hplace (i + 1) x hx⟩

end

namespace Scope

theorem getElem?_nameColumns (rel : QualifiedName) (names : List String) (cs : List TypedColumn) (i : Nat) :
    (nameColumns rel names cs)[i]? =
      cs[i]?.map fun c => { c with name := names[i]?.getD c.name, table := some rel } := by
  fun_induction nameColumns rel names cs generalizing i with
  | case1 name names c cs ih =>
    cases i with
    | zero => rfl
    | succ i => exact ih i
  | case2 cs => simp
  | case3 names _ => simp

/-- Every name of a column list is the name of its item: a column of the named query that has the name is
typed as the item at the place of the name is by itself. -/
def NamesItems (catalog : Catalog) (tables : List SourceTable) (names : List String) (items : List Target)
    (t : SourceTable) : Prop :=
  ∀ (i : Nat) (name : String), names[i]? = some name → ∀ c ∈ t.columns, c.name = name →
    ∃ item d, items[i]? = some item ∧ Output.columns catalog tables [item] = .ok [d] ∧ c.typing = d.typing

section

variable {catalog : Catalog} {tables : List SourceTable} {items : List Target} {css : List (List TypedColumn)}

theorem lengths_of_forall₂ (hstar : ∀ item ∈ items, ∀ r, item.value ≠ .star r)
    (h : List.Forall₂ (fun t l => Output.targetColumns catalog tables t = .ok l) items css) :
    css.map List.length = items.map fun t => if t.value.hasColumn then 1 else 0 := by
  induction h with
  | nil => rfl
  | cons hl _ ih =>
    obtain ⟨hitem, hrest⟩ := List.forall_mem_cons.mp hstar
    rw [List.map_cons, List.map_cons, Output.length_targetColumns hitem hl, ih hrest]

theorem pairwise_hasColumn_iff
    (hlengths : css.map List.length = items.map fun t => if t.value.hasColumn then 1 else 0) :
    (items.Pairwise fun a b => b.value.hasColumn = true → a.value.hasColumn = true) ↔
      css.Pairwise fun a b => b ≠ [] → a ≠ [] := by
  have hitems : (items.Pairwise fun a b => b.value.hasColumn = true → a.value.hasColumn = true) ↔
      (items.map fun t => if t.value.hasColumn then 1 else 0).Pairwise fun m n => n ≠ 0 → m ≠ 0 := by
    rw [List.pairwise_map]
    simp
  have hcss : (css.Pairwise fun a b => b ≠ [] → a ≠ []) ↔
      (css.map List.length).Pairwise fun m n => n ≠ 0 → m ≠ 0 := by
    rw [List.pairwise_map]
    simp
  rw [hitems, hcss, hlengths]

/-- Names that are given to the columns of all items are those of the items if and only if the items with a
column come first. -/
theorem namesItems_iff {names : List String} {rel : QualifiedName} {t : SourceTable}
    (ht : t.columns = nameColumns rel names css.flatten) (hlength : names.length = items.length)
    (hnodup : names.Nodup) (hstar : ∀ item ∈ items, ∀ r, item.value ≠ .star r)
    (h : List.Forall₂ (fun t l => Output.targetColumns catalog tables t = .ok l) items css) :
    NamesItems catalog tables names items t ↔
      items.Pairwise fun a b => b.value.hasColumn = true → a.value.hasColumn = true := by
  have hlengths := lengths_of_forall₂ hstar h
  rw [pairwise_hasColumn_iff hlengths]
  have hone : ∀ l ∈ css, l.length ≤ 1 := by
    intro l hl
    have hmem : l.length ∈ css.map List.length := List.mem_map_of_mem hl
    rw [hlengths] at hmem
    obtain ⟨item, -, heq⟩ := List.mem_map.mp hmem
    rw [← heq]
    split <;> decide
  have hname : ∀ (i : Nat) d, css.flatten[i]? = some d → ∃ name, names[i]? = some name := by
    intro i d hd
    have hlt := (List.getElem?_eq_some_iff.mp hd).1
    have := length_flatten_le hone
    exact ⟨_, List.getElem?_eq_getElem (by rw [hlength, h.length_eq]; omega)⟩
  constructor
  · intro hnames
    refine pairwise_of_flatten hone fun i d hd => ?_
    obtain ⟨name, hi⟩ := hname i d hd
    have hc : (nameColumns rel names css.flatten)[i]? = some { d with name, table := some rel } := by
      rw [getElem?_nameColumns, hd, hi]
      rfl
    obtain ⟨item, d', hitem, hd', -⟩ := hnames i name hi _ (ht ▸ List.mem_of_getElem? hc) rfl
    obtain ⟨l, hl, hcolumns⟩ := exists_getElem?_of_forall₂ h hitem
    rw [Output.columns_singleton, hcolumns] at hd'
    cases hd'
    exact ⟨d', hl⟩
  · intro hfirst i name hi c hc hcname
    rw [ht] at hc
    obtain ⟨j, hj⟩ := List.getElem?_of_mem hc
    rw [getElem?_nameColumns] at hj
    obtain ⟨d, hd, rfl⟩ := Option.map_eq_some_iff.mp hj
    obtain ⟨other, hother⟩ := hname j d hd
    -- a name stands once in the list, so the column is at the place of the name
    obtain rfl : i = j := by
      obtain rfl : other = name := by simpa [hother] using hcname
      obtain ⟨hlt, -⟩ := List.getElem?_eq_some_iff.mp hi
      exact (List.getElem?_inj hlt hnodup).mp (hi.trans hother.symm)
    obtain ⟨item, hitem, hcolumns⟩ := exists_getElem?_of_forall₂ h.flip (getElem?_of_flatten hone hfirst hd)
    exact ⟨item, d, hitem, (Output.columns_singleton item).trans hcolumns, rfl⟩

end

theorem addCte_select_eq_ok {scope scope' : Scope} {c : Cte} {s : Select} (hbody : c.query.body = .select s)
    (h : scope.addCte c = .ok scope') :
    ∃ inner tables cs, scope.addCtes c.query.ctes = .ok inner ∧ inner.tables s.sources = .ok tables ∧
      Output.columns inner.catalog tables s.targets = .ok cs ∧
      scope'.ctes.get? c.name = some
        { name := c.name, rel := .ofName c.name, columns := nameColumns (.ofName c.name) c.columns cs } := by
  obtain ⟨cs, hcs, rfl⟩ := addCte_eq_ok h
  obtain ⟨name, names, ctes, body, orderBy, limit, offset⟩ := c
  obtain rfl : body = .select s := hbody
  rw [columns] at hcs
  obtain ⟨inner, hinner, hcs⟩ := bind_eq_ok.mp hcs
  obtain ⟨tables, htables, hcs⟩ := bind_eq_ok.mp hcs
  exact ⟨inner, tables, cs, hinner, htables, hcs, Dict.get?_insert_self _ _ _⟩

/-- The names of a column list, one for each item of a select without wildcards, are the names of their items
if and only if no item without a column stands in front of one that has a column. -/
theorem addCte_namesItems_iff {scope scope' : Scope} {c : Cte} {s : Select}
    (hbody : c.query.body = .select s) (hlength : c.columns.length = s.targets.length)
    (hnodup : c.columns.Nodup) (hstar : ∀ item ∈ s.targets, ∀ r, item.value ≠ .star r)
    (h : scope.addCte c = .ok scope') :
    ∃ inner tables t, scope.addCtes c.query.ctes = .ok inner ∧ inner.tables s.sources = .ok tables ∧
      scope'.ctes.get? c.name = some t ∧
      (NamesItems inner.catalog tables c.columns s.targets t ↔
        s.targets.Pairwise fun a b => b.value.hasColumn = true → a.value.hasColumn = true) := by
  obtain ⟨inner, tables, cs, hinner, htables, hcs, hget⟩ := addCte_select_eq_ok hbody h
  refine ⟨inner, tables, _, hinner, htables, hget, ?_⟩
  obtain ⟨css, hitems, rfl⟩ := Output.columns_eq_ok.mp hcs
  exact namesItems_iff rfl hlength hnodup hstar hitems

def trailingLiteral : Select :=
  let one : Target := ⟨.cast (.literal (.number "1")) (.ofName "int"), none⟩
  let count : Target := ⟨.call { schema := "", name := "count", labels := [], star := true } [], none⟩
  ⟨false, [one, count, ⟨.literal (.string "x"), none⟩], [], none, [], none⟩

theorem addCte_namesItems_iff_trailing :
    let c : Cte := ⟨"t", ["a", "b", "c"], ⟨[], .select trailingLiteral, [], none, none⟩⟩
    ∃ scope', Scope.addCte { catalog := .initial {} } c = .ok scope' ∧
      c.columns.length = trailingLiteral.targets.length ∧ c.columns.Nodup ∧
      (∀ item ∈ trailingLiteral.targets, ∀ r, item.value ≠ .star r) ∧
      ∃ inner tables t, Scope.addCtes { catalog := .initial {} } c.query.ctes = .ok inner ∧
        inner.tables trailingLiteral.sources = .ok tables ∧ scope'.ctes.get? "t" = some t ∧
        NamesItems inner.catalog tables c.columns trailingLiteral.targets t := by
  intro c
  have hok : (Scope.addCte { catalog := .initial {} } c).isOk = true := by decide +kernel
  have hnodup : c.columns.Nodup := by decide
  have hstar : ∀ item ∈ trailingLiteral.targets, ∀ r, item.value ≠ .star r := by simp [trailingLiteral]
  obtain ⟨scope', h⟩ := exists_of_isOk hok
  obtain ⟨inner, tables, t, hinner, htables, hget, hiff⟩ := addCte_namesItems_iff rfl rfl hnodup hstar h
  refine ⟨scope', h, rfl, hnodup, hstar, inner, tables, t, hinner, htables, hget, hiff.mpr ?_⟩
  simp [trailingLiteral, Expr.hasColumn]

/-- An item without a column in front: the name of the second item goes to the third. -/
theorem addCte_shifts_names :
    let s : Select := ⟨false, [⟨.literal (.string "x"), none⟩, ⟨.cast (.literal (.number "1")) (.ofName "int"), none⟩,
      ⟨.cast (.literal (.string "y")) (.ofName "text"), none⟩], [], none, [], none⟩
    let c : Cte := ⟨"t", ["a", "b", "c"], ⟨[], .select s, [], none, none⟩⟩
    let scope : Scope := { catalog := .initial {} }
    c.columns.length = s.targets.length ∧ c.columns.Nodup ∧ (∀ item ∈ s.targets, ∀ r, item.value ≠ .star r) ∧
      ∃ scope' t, scope.addCte c = .ok scope' ∧ scope'.ctes.get? "t" = some t ∧
        ¬ NamesItems scope.catalog [] c.columns s.targets t := by
  intro s c scope
  refine ⟨rfl, by decide, by simp [s], _, _, rfl, Dict.get?_insert_self _ _ _, fun h => ?_⟩
  obtain ⟨item, d, hitem, hd, htyping⟩ := h 1 "b" rfl _ (List.mem_cons_of_mem _ List.mem_cons_self) rfl
  cases hitem
  cases hd
  exact absurd htyping (by decide)

end Scope

end TypedSql
