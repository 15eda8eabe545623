import Mathlib.Data.List.Perm.Basic
import TypedSql.Catalog.Basic
import TypedSql.Proofs.Fallible

/-!
# Arguments of calls

A call is resolved by the number of its first arguments, those without a name, and by the names of the
others. A function accepts such a call if and only if its declaration admits it. An argument without a name
behind one with a name is not counted, and no such argument is if a star stands among the arguments. So the
function fits the arguments of the call if and only if these uncounted arguments have places of their own.
-/

namespace TypedSql

namespace Function

section

variable {f : Function} {filled filled' : List Bool} {name : String} {names : List String}

theorem lt_of_position? {k : Nat} (h : f.position? name = some k) : k < f.parameters.length :=
  (List.findIdx?_eq_some_iff_getElem.mp h).1

structure CanFill (f : Function) (filled : List Bool) (names : List String) : Prop where
  free : ∀ name ∈ names, ∃ k, f.position? name = some k ∧ filled[k]? = some false
  apart : names.Pairwise fun a b => f.position? a ≠ f.position? b

theorem fill_cons_eq_some : f.fill filled (name :: names) = some filled' ↔
    ∃ k, f.position? name = some k ∧ filled[k]? = some false ∧
      f.fill (filled.set k true) names = some filled' := by
  rw [fill]
  cases hk : f.position? name with
  | none => simp
  | some k =>
    have hfree : filled.getD k true = true ↔ filled[k]? ≠ some false := by
      rw [List.getD_eq_getElem?_getD]
      cases filled[k]? with
      | none => simp
      | some b => cases b <;> simp
    dsimp only
    by_cases h : filled[k]? = some false
    · rw [if_neg fun hgiven => hfree.mp hgiven h]
      simp [h]
    · rw [if_pos (hfree.mpr h)]
      simp [h]

theorem getElem?_set_eq_some_false {k j : Nat} :
    (filled.set k true)[j]? = some false ↔ k ≠ j ∧ filled[j]? = some false := by
  rw [List.getElem?_set]
  split
  · rename_i heq
    split <;> simp [heq]
  · rename_i hne
    simp [hne]

theorem canFill_cons : f.CanFill filled (name :: names) ↔
    ∃ k, f.position? name = some k ∧ filled[k]? = some false ∧ f.CanFill (filled.set k true) names := by
  constructor
  · rintro ⟨hfree, hapart⟩
    obtain ⟨⟨k, hk, hkfree⟩, hrest⟩ := List.forall_mem_cons.mp hfree
    obtain ⟨hothers, hapart⟩ := List.pairwise_cons.mp hapart
    refine ⟨k, hk, hkfree, fun other hother => ?_, hapart⟩
    obtain ⟨j, hj, hjfree⟩ := hrest other hother
    refine ⟨j, hj, getElem?_set_eq_some_false.mpr ⟨?_, hjfree⟩⟩
    rintro rfl
    exact hothers other hother (hk.trans hj.symm)
  · rintro ⟨k, hk, hkfree, hfree, hapart⟩
    have hrest : ∀ other ∈ names, ∃ j, f.position? other = some j ∧ k ≠ j ∧ filled[j]? = some false := by
      intro other hother
      obtain ⟨j, hj, hjfree⟩ := hfree other hother
      exact ⟨j, hj, getElem?_set_eq_some_false.mp hjfree⟩
    refine ⟨List.forall_mem_cons.mpr ⟨⟨k, hk, hkfree⟩, fun other hother => ?_⟩,
      List.pairwise_cons.mpr ⟨fun other hother => ?_, hapart⟩⟩
    · obtain ⟨j, hj, -, hjfree⟩ := hrest other hother
      exact ⟨j, hj, hjfree⟩
    · obtain ⟨j, hj, hne, -⟩ := hrest other hother
      rw [hk, hj]
      exact fun heq => hne (Option.some.inj heq)

theorem exists_fill_iff : (∃ filled', f.fill filled names = some filled') ↔ f.CanFill filled names := by
  induction names generalizing filled with
  | nil => exact ⟨fun _ => ⟨by simp, .nil⟩, fun _ => ⟨filled, rfl⟩⟩
  | cons name names ih =>
    simp only [fill_cons_eq_some, canFill_cons, ← ih]
    constructor
    · rintro ⟨filled', k, hk, hfree, h⟩
      exact ⟨k, hk, hfree, filled', h⟩
    · rintro ⟨k, hk, hfree, filled', h⟩
      exact ⟨filled', k, hk, hfree, h⟩

theorem length_fill (h : f.fill filled names = some filled') : filled'.length = filled.length := by
  induction names generalizing filled with
  | nil =>
    cases h
    rfl
  | cons name names ih =>
    obtain ⟨k, -, -, h⟩ := fill_cons_eq_some.mp h
    rw [ih h, List.length_set]

theorem getElem?_fill (h : f.fill filled names = some filled') (j : Nat) :
    filled'[j]? = some true ↔ filled[j]? = some true ∨ ∃ name ∈ names, f.position? name = some j := by
  induction names generalizing filled with
  | nil =>
    cases h
    simp
  | cons name names ih =>
    obtain ⟨k, hk, hfree, h⟩ := fill_cons_eq_some.mp h
    have hset : (filled.set k true)[j]? = some true ↔ filled[j]? = some true ∨ k = j := by
      obtain ⟨hlt, -⟩ := List.getElem?_eq_some_iff.mp hfree
      rw [List.getElem?_set]
      by_cases heq : k = j
      · simp [heq, heq ▸ hlt]
      · simp [heq]
    rw [ih h, hset, List.exists_mem_cons_iff, hk, Option.some.injEq, or_assoc]

end

/-- What a call with `n` arguments by position and some by name has to meet. -/
structure Admits (f : Function) (n : Nat) (names : List String) : Prop where
  count : n + names.length ≤ f.parameters.length
  named : ∀ name ∈ names, ∃ k, f.position? name = some k ∧ n ≤ k
  apart : names.Pairwise fun a b => f.position? a ≠ f.position? b
  omitted : ∀ k p, f.parameters[k]? = some p →
    k < n ∨ (∃ name ∈ names, f.position? name = some k) ∨ p.hasDefault = true

theorem getElem?_first {n length : Nat} (h : n ≤ length) (k : Nat) :
    (List.replicate n true ++ List.replicate (length - n) false)[k]? =
      if k < n then some true else if k < length then some false else none := by
  rw [List.getElem?_append, List.length_replicate, List.getElem?_replicate, List.getElem?_replicate]
  split
  · rfl
  · rename_i hk
    exact if_congr (by omega) rfl rfl

theorem forall_mem_zip_iff {ps : List Parameter} {filled : List Bool} (h : filled.length = ps.length) :
    (∀ x ∈ ps.zip filled, (x.2 || x.1.hasDefault) = true) ↔
      ∀ (k : Nat) (p : Parameter), ps[k]? = some p → filled[k]? = some true ∨ p.hasDefault = true := by
  constructor
  · intro hall k p hp
    obtain ⟨hlt, -⟩ := List.getElem?_eq_some_iff.mp hp
    have hgiven : filled[k]? = some filled[k] := List.getElem?_eq_getElem (h ▸ hlt)
    have hmem : (p, filled[k]) ∈ ps.zip filled :=
      List.mem_of_getElem? (List.getElem?_zip_eq_some.mpr ⟨hp, hgiven⟩)
    rw [hgiven, Option.some.injEq]
    exact (Bool.or_eq_true _ _).mp (hall _ hmem)
  · intro hall x hx
    obtain ⟨k, hk⟩ := List.getElem?_of_mem hx
    obtain ⟨hp, hgiven⟩ := List.getElem?_zip_eq_some.mp hk
    have hor := hall k x.1 hp
    rw [hgiven, Option.some.injEq] at hor
    exact (Bool.or_eq_true _ _).mpr hor

theorem accepts_iff {f : Function} {n : Nat} {names : List String} :
    f.accepts n names = true ↔ f.Admits n names := by
  unfold accepts
  split
  · rename_i hcount
    exact ⟨nofun, fun h => absurd h.count (Nat.not_le.mpr hcount)⟩
  rename_i hcount
  have hn : n ≤ f.parameters.length := by omega
  have hfree : ∀ name k, f.position? name = some k →
      ((List.replicate n true ++ List.replicate (f.parameters.length - n) false)[k]? = some false ↔ n ≤ k) := by
    intro name k hk
    rw [getElem?_first hn, if_pos (lt_of_position? hk)]
    split <;> simp <;> omega
  dsimp only
  split
  · rename_i hnone
    refine ⟨nofun, fun h => ?_⟩
    have hcan : ∃ filled', f.fill _ names = some filled' := exists_fill_iff.mpr
      ⟨fun name hname => (h.named name hname).imp fun k hk => ⟨hk.1, (hfree name k hk.1).mpr hk.2⟩, h.apart⟩
    obtain ⟨filled', hfill⟩ := hcan
    rw [hnone] at hfill
    cases hfill
  · rename_i filled hfill
    have hcan := exists_fill_iff.mp ⟨filled, hfill⟩
    have hlength : filled.length = f.parameters.length := by
      rw [length_fill hfill]
      simp [hn]
    have hfilled : ∀ k, filled[k]? = some true ↔ k < n ∨ ∃ name ∈ names, f.position? name = some k := by
      intro k
      rw [getElem?_fill hfill, getElem?_first hn]
      refine or_congr ?_ Iff.rfl
      split
      · simp [*]
      · split <;> simp [*]
    refine (List.all_eq_true.trans (forall_mem_zip_iff hlength)).trans ⟨?_, ?_⟩
    · intro hall
      refine ⟨by omega, fun name hname => ?_, hcan.apart, fun k p hp => ?_⟩
      · obtain ⟨k, hk, hkfree⟩ := hcan.free name hname
        exact ⟨k, hk, (hfree name k hk).mp hkfree⟩
      · rw [← or_assoc, ← hfilled]
        exact hall k p hp
    · intro h k p hp
      rw [hfilled, or_assoc]
      exact h.omitted k p hp

def FirstAt (f : Function) (name : String) (k : Nat) : Prop :=
  (∃ p, f.parameters[k]? = some p ∧ p.name = name) ∧
    ∀ (j : Nat) (p : Parameter), j < k → f.parameters[j]? = some p → p.name ≠ name

theorem position?_eq_some {f : Function} {name : String} {k : Nat} :
    f.position? name = some k ↔ name ≠ "" ∧ f.FirstAt name k := by
  have hmatch : ∀ p : Parameter, (!p.name.isEmpty && p.name == name) = true ↔ name ≠ "" ∧ p.name = name := by
    intro p
    rw [Bool.and_eq_true, beq_iff_eq, Bool.not_eq_true', Bool.eq_false_iff, ne_eq, String.isEmpty_iff]
    constructor
    · rintro ⟨hne, rfl⟩
      exact ⟨hne, rfl⟩
    · rintro ⟨hne, rfl⟩
      exact ⟨hne, rfl⟩
  rw [position?, List.findIdx?_eq_some_iff_getElem]
  simp only [hmatch, FirstAt]
  constructor
  · rintro ⟨hlt, ⟨hne, hk⟩, hbefore⟩
    refine ⟨hne, ⟨_, List.getElem?_eq_getElem hlt, hk⟩, fun j p hj hp heq => ?_⟩
    obtain ⟨_, rfl⟩ := List.getElem?_eq_some_iff.mp hp
    exact hbefore j hj ⟨hne, heq⟩
  · rintro ⟨hne, ⟨p, hp, hk⟩, hbefore⟩
    obtain ⟨hlt, rfl⟩ := List.getElem?_eq_some_iff.mp hp
    exact ⟨hlt, ⟨hne, hk⟩, fun j hj heq => hbefore j _ hj (List.getElem?_eq_getElem (Nat.lt_trans hj hlt)) heq.2⟩

theorem exists_position? {f : Function} {name : String} (hne : name ≠ "")
    (h : ∃ p ∈ f.parameters, p.name = name) : ∃ k, f.position? name = some k := by
  obtain ⟨p, hp, rfl⟩ := h
  rw [← Option.isSome_iff_exists, position?, List.findIdx?_isSome, List.any_eq_true]
  exact ⟨p, hp, by simpa using hne⟩

theorem length_le_of_apart {f : Function} {n : Nat} {names : List String} (hn : n ≤ f.parameters.length)
    (hnamed : ∀ name ∈ names, ∃ k, f.position? name = some k ∧ n ≤ k)
    (hapart : names.Pairwise fun a b => f.position? a ≠ f.position? b) :
    n + names.length ≤ f.parameters.length := by
  have hsubset : names.map f.position? ⊆ (List.range' n (f.parameters.length - n)).map some := by
    intro place hplace
    obtain ⟨name, hname, rfl⟩ := List.mem_map.mp hplace
    obtain ⟨k, hk, hle⟩ := hnamed name hname
    have hlt := lt_of_position? hk
    exact List.mem_map.mpr ⟨k, List.mem_range'_1.mpr (by omega), hk.symm⟩
  have hlength := (List.subperm_of_subset (List.pairwise_map.mpr hapart) hsubset).length_le
  rw [List.length_map, List.length_map, List.length_range'] at hlength
  omega

/-- A function accepts exactly the calls that its declaration admits: there are no more arguments by position
than declared ones, each name is that of a declared argument, the first declared arguments of the names are
apart and behind those that are filled by position, and all that is left out has a default. -/
theorem accepts_iff_declared (f : Function) (n : Nat) (names : List String) :
    f.accepts n names = true ↔
      n ≤ f.parameters.length ∧
      (∀ name ∈ names, name ≠ "" ∧ ∃ p ∈ f.parameters, p.name = name) ∧
      (names.Pairwise fun a b => ∀ j k, f.FirstAt a j → f.FirstAt b k → j ≠ k) ∧
      (∀ name ∈ names, ∀ k, f.FirstAt name k → n ≤ k) ∧
      ∀ k p, f.parameters[k]? = some p → n ≤ k → (∀ name ∈ names, ¬ f.FirstAt name k) →
        p.hasDefault = true := by
  rw [accepts_iff]
  constructor
  · intro h
    have hne : ∀ name ∈ names, name ≠ "" := by
      intro name hname
      obtain ⟨k, hk, -⟩ := h.named name hname
      exact (position?_eq_some.mp hk).1
    have hplace : ∀ name ∈ names, ∀ k, f.FirstAt name k → f.position? name = some k :=
      fun name hname k hk => position?_eq_some.mpr ⟨hne name hname, hk⟩
    refine ⟨Nat.le_trans (Nat.le_add_right _ _) h.count, fun name hname => ⟨hne name hname, ?_⟩,
      h.apart.imp_of_mem fun {a b} ha hb hab j k hj hk heq => ?_, fun name hname k hk => ?_,
      fun k p hp hle hfree => ?_⟩
    · obtain ⟨k, hk, -⟩ := h.named name hname
      obtain ⟨-, ⟨p, hp, hpname⟩, -⟩ := position?_eq_some.mp hk
      exact ⟨p, List.mem_of_getElem? hp, hpname⟩
    · rw [hplace a ha j hj, hplace b hb k hk, heq] at hab
      exact hab rfl
    · obtain ⟨k', hk', hle⟩ := h.named name hname
      rw [hplace name hname k hk] at hk'
      cases hk'
      exact hle
    · rcases h.omitted k p hp with hlt | ⟨name, hname, hk⟩ | hdefault
      · omega
      · exact absurd (position?_eq_some.mp hk).2 (hfree name hname)
      · exact hdefault
  · rintro ⟨hn, hdeclared, hapart, hbehind, homitted⟩
    have hnamed : ∀ name ∈ names, ∃ k, f.position? name = some k ∧ n ≤ k := by
      intro name hname
      obtain ⟨k, hk⟩ := exists_position? (hdeclared name hname).1 (hdeclared name hname).2
      exact ⟨k, hk, hbehind name hname k (position?_eq_some.mp hk).2⟩
    have hapart' : names.Pairwise fun a b => f.position? a ≠ f.position? b := by
      refine hapart.imp_of_mem fun {a b} ha hb hab heq => ?_
      obtain ⟨k, hk, -⟩ := hnamed a ha
      exact hab k k (position?_eq_some.mp hk).2 (position?_eq_some.mp (heq ▸ hk)).2 rfl
    refine ⟨length_le_of_apart hn hnamed hapart', hnamed, hapart', fun k p hp => ?_⟩
    by_cases hlt : k < n
    · exact .inl hlt
    by_cases hname : ∃ name ∈ names, f.position? name = some k
    · exact .inr (.inl hname)
    · refine .inr (.inr (homitted k p hp (Nat.not_lt.mp hlt) fun name hmem hfirst => hname ?_))
      exact ⟨name, hmem, position?_eq_some.mpr ⟨(hdeclared name hmem).1, hfirst⟩⟩

-- of two declared arguments of one name, the name fills the first
example :
    let f (hasDefault : Bool) : Function :=
      { name := "f", returns := .ofName "int"
        parameters := [{ name := "a", type := .ofName "int" }, { name := "a", type := .ofName "int", hasDefault }] }
    (f false).accepts 0 ["a"] = false ∧ (f true).accepts 0 ["a"] = true := by
  decide

def place? (f : Function) (i : Nat) (label : Option String) : Option Nat :=
  match label with
  | some name => f.parameters.findIdx? (·.name == name)
  | none => if i < f.parameters.length then some i else none

theorem parameter?_eq (f : Function) (i : Nat) (label : Option String) :
    f.parameter? i label = (f.place? i label).bind (f.parameters[·]?) := by
  cases label with
  | none =>
    rw [parameter?, place?]
    split
    · rfl
    · rename_i hi
      exact List.getElem?_eq_none (Nat.not_lt.mp hi)
  | some name =>
    rw [parameter?, place?]
    cases h : f.parameters.findIdx? (·.name == name) with
    | none => exact List.find?_eq_none.mpr fun p hp => by simp [List.findIdx?_eq_none_iff.mp h p hp]
    | some k =>
      rw [List.find?_eq_getElem?_findIdx, (List.findIdx?_eq_some_iff_findIdx_eq.mp h).2]
      rfl

theorem place?_of_position? {f : Function} {name : String} {k : Nat} (h : f.position? name = some k) (i : Nat) :
    f.place? i (some name) = some k := by
  obtain ⟨hlt, hk, hbefore⟩ := List.findIdx?_eq_some_iff_getElem.mp h
  rw [Bool.and_eq_true, beq_iff_eq] at hk
  refine List.findIdx?_eq_some_iff_getElem.mpr ⟨hlt, beq_iff_eq.mpr hk.2, fun j hj heq => hbefore j hj ?_⟩
  rw [beq_iff_eq] at heq
  rw [Bool.and_eq_true, beq_iff_eq]
  exact ⟨by rw [heq, ← hk.2]; exact hk.1, heq⟩

/-- Each argument of the call fills a declared argument, no two fill the same one, and a declared argument
that none fills has a default. -/
structure Fits (f : Function) (call : Call) : Prop where
  declared : ∀ i < call.labels.length, ∃ p, f.parameter? i (call.label? i) = some p
  apart : ∀ i < call.labels.length, ∀ j < call.labels.length, i ≠ j →
    f.place? i (call.label? i) ≠ f.place? j (call.label? j)
  omitted : ∀ k p, f.parameters[k]? = some p →
    (∀ i < call.labels.length, f.place? i (call.label? i) ≠ some k) → p.hasDefault = true

end Function

namespace Call

/-- How many arguments count as given by position when a call is resolved. -/
def counted (c : Call) : Nat :=
  if c.star then 0 else c.positional

variable {c : Call}

theorem getElem?_of_lt_counted {i : Nat} (h : i < c.counted) : c.labels[i]? = some none := by
  rw [counted] at h
  split at h
  · omega
  · obtain ⟨rest, hrest⟩ := List.takeWhile_prefix (l := c.labels) Option.isNone
    rw [← hrest, List.getElem?_append_left h]
    have hnone := List.all_eq_true.mp List.all_takeWhile _ (List.getElem_mem h)
    rw [List.getElem?_eq_getElem h, Option.isNone_iff_eq_none.mp hnone]

theorem mem_names {name : String} : name ∈ c.names ↔ ∃ i : Nat, c.labels[i]? = some (some name) := by
  rw [names, List.mem_filterMap]
  simp only [id, exists_eq_right, List.mem_iff_getElem?]

theorem label?_of_getElem? {i : Nat} {label : Option String} (h : c.labels[i]? = some label) :
    c.label? i = label := by
  rw [label?, h]
  rfl

theorem lt_of_getElem? {i : Nat} {label : Option String} (h : c.labels[i]? = some label) :
    i < c.labels.length :=
  (List.getElem?_eq_some_iff.mp h).1

end Call

namespace Function.Admits

variable {f : Function} {call : Call}

theorem position?_ne (h : f.Admits call.counted call.names) {i j : Nat} {a b : String}
    (hi : call.labels[i]? = some (some a)) (hj : call.labels[j]? = some (some b)) (hne : i ≠ j) :
    f.position? a ≠ f.position? b := by
  have hpairs := List.pairwise_iff_getElem.mp (List.pairwise_filterMap.mp h.apart)
  obtain ⟨hilt, hi⟩ := List.getElem?_eq_some_iff.mp hi
  obtain ⟨hjlt, hj⟩ := List.getElem?_eq_some_iff.mp hj
  rcases Nat.lt_or_gt_of_ne hne with hlt | hlt
  · exact hpairs i j hilt hjlt hlt a hi b hj
  · exact (hpairs j i hjlt hilt hlt b hj a hi).symm

theorem place?_of_none {i : Nat} (hi : call.labels[i]? = some none) (hlt : i < f.parameters.length) :
    f.place? i (call.label? i) = some i := by
  rw [Call.label?_of_getElem? hi, place?, if_pos hlt]

theorem exists_place? (h : f.Admits call.counted call.names) {i : Nat} {name : String}
    (hi : call.labels[i]? = some (some name)) :
    ∃ k, f.position? name = some k ∧ call.counted ≤ k ∧ f.place? i (call.label? i) = some k := by
  obtain ⟨k, hk, hle⟩ := h.named name (Call.mem_names.mpr ⟨i, hi⟩)
  refine ⟨k, hk, hle, ?_⟩
  rw [Call.label?_of_getElem? hi, place?_of_position? hk]

theorem omits_defaults (h : f.Admits call.counted call.names) {k : Nat} {p : Parameter}
    (hp : f.parameters[k]? = some p)
    (hfree : ∀ i < call.labels.length, f.place? i (call.label? i) ≠ some k) : p.hasDefault = true := by
  obtain ⟨hlt, -⟩ := List.getElem?_eq_some_iff.mp hp
  rcases h.omitted k p hp with hcounted | ⟨name, hname, hk⟩ | hdefault
  · have hlabel := Call.getElem?_of_lt_counted hcounted
    exact absurd (place?_of_none hlabel hlt) (hfree k (Call.lt_of_getElem? hlabel))
  · obtain ⟨i, hi⟩ := Call.mem_names.mp hname
    obtain ⟨j, hj, -, hplace⟩ := h.exists_place? hi
    rw [hk] at hj
    cases hj
    exact absurd hplace (hfree i (Call.lt_of_getElem? hi))
  · exact hdefault

theorem fits (h : f.Admits call.counted call.names)
    (hown : ∀ i, call.labels[i]? = some none →
      i < f.parameters.length ∧ ∀ name ∈ call.names, f.position? name ≠ some i) : f.Fits call := by
  refine ⟨fun i hi => ?_, fun i hi j hj hne => ?_, fun k p hp => h.omits_defaults hp⟩
  · have hlabel := List.getElem?_eq_getElem hi
    generalize call.labels[i] = label at hlabel
    cases label with
    | none =>
      rw [Call.label?_of_getElem? hlabel, parameter?]
      exact ⟨_, List.getElem?_eq_getElem (hown i hlabel).1⟩
    | some name =>
      obtain ⟨k, hk, -, hplace⟩ := h.exists_place? hlabel
      rw [parameter?_eq, hplace]
      exact ⟨_, List.getElem?_eq_getElem (lt_of_position? hk)⟩
  · have hlabel := List.getElem?_eq_getElem hi
    have hlabel' := List.getElem?_eq_getElem hj
    generalize call.labels[i] = label at hlabel
    generalize call.labels[j] = label' at hlabel'
    cases label with
    | none =>
      obtain ⟨hlt, hnames⟩ := hown i hlabel
      rw [place?_of_none hlabel hlt]
      cases label' with
      | none =>
        rw [place?_of_none hlabel' (hown j hlabel').1]
        exact fun heq => hne (Option.some.inj heq)
      | some name =>
        obtain ⟨k, hk, -, hplace⟩ := h.exists_place? hlabel'
        rw [hplace, ← hk]
        exact (hnames name (Call.mem_names.mpr ⟨j, hlabel'⟩)).symm
    | some name =>
      obtain ⟨k, hk, -, hplace⟩ := h.exists_place? hlabel
      rw [hplace, ← hk]
      cases label' with
      | none =>
        obtain ⟨hlt, hnames⟩ := hown j hlabel'
        rw [place?_of_none hlabel' hlt]
        exact hnames name (Call.mem_names.mpr ⟨i, hlabel⟩)
      | some name' =>
        obtain ⟨k', hk', -, hplace'⟩ := h.exists_place? hlabel'
        rw [hplace', ← hk']
        exact h.position?_ne hlabel hlabel' hne

end Function.Admits

namespace Catalog

theorem accepts_of_callee? {s : Schema} {call : Call} {f : Function} (h : callee? s call = some f) :
    f.accepts call.counted call.names = true := by
  rw [callee?] at h
  have haccepts := List.find?_some h
  exact haccepts

def calleeIn? (c : Catalog) (call : Call) (schema : String) : Option Function :=
  (c.schemas.get? schema).bind (callee? · call)

theorem resolve_eq_ok {c : Catalog} {call : Call} {f : Function} : c.resolve call = .ok f ↔
    if call.schema.isEmpty then c.functionPath.findSome? (c.calleeIn? call) = some f
    else c.calleeIn? call call.schema = some f := by
  unfold resolve
  simp only [pure_eq_ok, ok_bind]
  split
  · rw [show (fun name => (c.schemas.get? name).bind (callee? · call)) = c.calleeIn? call from rfl]
    cases c.functionPath.findSome? (c.calleeIn? call) <;> simp
  · rw [calleeIn?, schema]
    cases c.schemas.get? call.schema with
    | none => simp
    | some s =>
      simp only [pure_eq_ok, ok_bind, Option.bind_some]
      cases callee? s call <;> simp

theorem admits_of_resolve {c : Catalog} {call : Call} {f : Function} (h : c.resolve call = .ok f) :
    f.Admits call.counted call.names := by
  have hcallee : ∃ name, c.calleeIn? call name = some f := by
    rw [resolve_eq_ok] at h
    split at h
    · obtain ⟨name, -, hname⟩ := List.exists_of_findSome?_eq_some h
      exact ⟨name, hname⟩
    · exact ⟨_, h⟩
  obtain ⟨name, hname⟩ := hcallee
  obtain ⟨s, -, hs⟩ := Option.bind_eq_some_iff.mp hname
  exact Function.accepts_iff.mp (accepts_of_callee? hs)

/-- The function that a call is resolved to fits the arguments of the call if and only if each argument by
position that is not counted stands at the place of a declared argument which no argument by name fills. -/
theorem resolve_fits_iff {c : Catalog} {call : Call} {f : Function} (h : c.resolve call = .ok f) :
    f.Fits call ↔ ∀ i, call.counted ≤ i → call.labels[i]? = some none →
      i < f.parameters.length ∧ ∀ name ∈ call.names, f.position? name ≠ some i := by
  have hadmits := admits_of_resolve h
  constructor
  · intro hfits i _ hlabel
    have hlt : i < f.parameters.length := by
      obtain ⟨p, hp⟩ := hfits.declared i (Call.lt_of_getElem? hlabel)
      rw [Call.label?_of_getElem? hlabel, Function.parameter?] at hp
      exact (List.getElem?_eq_some_iff.mp hp).1
    refine ⟨hlt, fun name hname hposition => ?_⟩
    obtain ⟨j, hj⟩ := Call.mem_names.mp hname
    have hne : i ≠ j := by
      rintro rfl
      rw [hlabel] at hj
      cases hj
    refine hfits.apart i (Call.lt_of_getElem? hlabel) j (Call.lt_of_getElem? hj) hne ?_
    rw [Function.Admits.place?_of_none hlabel hlt, Call.label?_of_getElem? hj,
      Function.place?_of_position? hposition]
  · intro hfree
    -- an argument by position that is counted stands in front of all places of names
    have hown : ∀ i, call.labels[i]? = some none →
        i < f.parameters.length ∧ ∀ name ∈ call.names, f.position? name ≠ some i := by
      intro i hlabel
      rcases Nat.lt_or_ge i call.counted with hlt | hge
      · refine ⟨by have := hadmits.count; omega, fun name hname hposition => ?_⟩
        obtain ⟨k, hk, hle⟩ := hadmits.named name hname
        rw [hposition] at hk
        cases hk
        omega
      · exact hfree i hge hlabel
    exact hadmits.fits hown

theorem resolve_fits_iff_named :
    let f : Function :=
      { name := "f", returns := .ofName "int"
        parameters := [{ name := "a", type := .ofName "int" },
          { name := "b", type := .ofName "int", hasDefault := true }, { name := "c", type := .ofName "text" }] }
    let c : Catalog :=
      { defaultSchema := "public", functionPath := ["public"]
        schemas := Dict.empty.insert "public" { name := "public", functions := Dict.empty.insert "f" [f] } }
    let call : Call := { schema := "", name := "f", labels := [none, some "c"], star := false }
    c.resolve call = .ok f ∧ f.Fits call := by
  intro f c call
  have hresolve : c.resolve call = .ok f := by decide +kernel
  refine ⟨hresolve, (resolve_fits_iff hresolve).mpr fun i hi hlabel => ?_⟩
  have hcounted : call.counted = 1 := rfl
  have hlt := Call.lt_of_getElem? hlabel
  obtain rfl : i = 1 := by
    have : call.labels.length = 2 := rfl
    omega
  cases hlabel

/-- An argument by position behind one by name may fill no declared argument, and so may one beside a star. -/
theorem resolve_ignores_arguments :
    let f : Function :=
      { name := "f", returns := .ofName "int", parameters := [{ name := "a", type := .ofName "int" }] }
    let g : Function := { name := "g", returns := .ofName "int", parameters := [] }
    let c : Catalog :=
      { defaultSchema := "public", functionPath := ["public"]
        schemas := Dict.empty.insert "public"
          { name := "public", functions := (Dict.empty.insert "f" [f]).insert "g" [g] } }
    let behind : Call := { schema := "", name := "f", labels := [some "a", none], star := false }
    let beside : Call := { schema := "", name := "g", labels := [none], star := true }
    (c.resolve behind = .ok f ∧ ¬ f.Fits behind) ∧ (c.resolve beside = .ok g ∧ ¬ g.Fits beside) := by
  intro f g c behind beside
  refine ⟨⟨by decide +kernel, fun h => ?_⟩, by decide +kernel, fun h => ?_⟩
  · obtain ⟨p, hp⟩ := h.declared 1 (by decide)
    cases hp
  · obtain ⟨p, hp⟩ := h.declared 0 (by decide)
    cases hp

end Catalog

end TypedSql
