import Mathlib.Data.Finset.Card
import Mathlib.Data.List.Nodup
import TypedSql.ParamSet
import TypedSql.Proofs.Dict

/-!
# Numbers of names

A set of parameters is built by adding one occurrence after the other. Its list of parameters and its
dictionary of numbers stay in step, and both can be told from the occurrences alone: the names are counted in
the order of their first occurrences, and what one occurrence says of a parameter is kept.
-/

namespace TypedSql

namespace ParamSet

def names (s : ParamSet) : List String :=
  s.params.map NamedParam.name

variable {s : ParamSet} {name other : String} {n : Nat}

theorem names_add_of_some (style : NamedStyle) (h : s.number? name = some n) :
    (s.add name style).1.names = s.names ∧ (s.add name style).2 = n := by
  rw [number?] at h
  unfold add
  rw [h]
  refine ⟨?_, rfl⟩
  dsimp only [names]
  refine List.ext_getElem? fun k => ?_
  rw [List.getElem?_map, List.getElem?_map, List.getElem?_modify]
  cases s.params[k]? with
  | none => rfl
  | some p => split <;> rfl

theorem names_add_of_none (style : NamedStyle) (h : s.number? name = none) :
    (s.add name style).1.names = s.names ++ [name] ∧ (s.add name style).2 = s.names.length + 1 := by
  rw [number?] at h
  unfold add
  rw [h]
  simp [names]

theorem number?_add (s : ParamSet) (name other : String) (style : NamedStyle) :
    (s.add name style).1.number? other =
      if other = name then some (s.add name style).2 else s.number? other := by
  cases hname : s.number? name with
  | some n =>
    have hsame : (s.add name style).1.number? other = s.number? other := by
      rw [number?] at hname
      unfold add
      rw [hname]
      rfl
    rw [hsame, (names_add_of_some style hname).2]
    split
    · rename_i heq
      rw [heq, hname]
    · rfl
  | none =>
    rw [number?] at hname
    unfold add
    rw [hname]
    exact Dict.get?_insert _ _ _ _

theorem number?_add_of_some (style : NamedStyle) (h : s.number? other = some n) :
    (s.add name style).1.number? other = some n := by
  rw [number?_add]
  split
  · rename_i heq
    rw [(names_add_of_some style (heq ▸ h)).2]
  · exact h

theorem number?_add_self (s : ParamSet) (name : String) (style : NamedStyle) :
    (s.add name style).1.number? name = some (s.add name style).2 := by
  rw [number?_add, if_pos rfl]

theorem number?_add_eq_none_iff (style : NamedStyle) :
    (s.add name style).1.number? other = none ↔ other ≠ name ∧ s.number? other = none := by
  rw [number?_add]
  split
  · rename_i heq
    simp [heq]
  · rename_i hne
    simp [hne]

/-- The names of the parameters, and no others, have numbers, which are their places counted from one. -/
def InStep (s : ParamSet) : Prop :=
  ∀ name n, s.number? name = some n ↔ ∃ i, n = i + 1 ∧ s.names[i]? = some name

theorem inStep_empty : InStep {} := by
  intro name n
  constructor
  · rintro ⟨⟩
  · rintro ⟨i, -, ⟨⟩⟩

theorem InStep.mem_names_iff (h : s.InStep) : name ∈ s.names ↔ ∃ n, s.number? name = some n := by
  rw [List.mem_iff_getElem?]
  constructor
  · rintro ⟨i, hi⟩
    exact ⟨i + 1, (h name _).mpr ⟨i, rfl, hi⟩⟩
  · rintro ⟨n, hn⟩
    obtain ⟨i, -, hi⟩ := (h name n).mp hn
    exact ⟨i, hi⟩

theorem InStep.not_mem_names (h : s.InStep) (hname : s.number? name = none) : name ∉ s.names := by
  rw [h.mem_names_iff, hname]
  rintro ⟨n, ⟨⟩⟩

theorem InStep.nodup (h : s.InStep) : s.names.Nodup := by
  refine List.nodup_iff_getElem?_ne_getElem?.mpr fun i j hij hj heq => ?_
  have hget : s.names[j]? = some s.names[j] := List.getElem?_eq_getElem hj
  have hi := (h s.names[j] (i + 1)).mpr ⟨i, rfl, heq.trans hget⟩
  have hj := (h s.names[j] (j + 1)).mpr ⟨j, rfl, hget⟩
  rw [hi] at hj
  cases hj
  exact Nat.lt_irrefl _ hij

theorem InStep.add (h : s.InStep) (name : String) (style : NamedStyle) : (s.add name style).1.InStep := by
  intro other n
  rw [number?_add]
  cases hname : s.number? name with
  | some m =>
    obtain ⟨hnames, hnumber⟩ := names_add_of_some style hname
    rw [hnames, hnumber, ← h other n]
    split
    · rename_i heq
      rw [heq, hname]
    · rfl
  | none =>
    obtain ⟨hnames, hnumber⟩ := names_add_of_none style hname
    have hnew := h.not_mem_names hname
    rw [hnames, hnumber]
    split
    · rename_i heq
      subst heq
      constructor
      · rintro ⟨⟩
        exact ⟨s.names.length, rfl, by simp⟩
      · rintro ⟨i, rfl, hi⟩
        rw [List.getElem?_append] at hi
        split at hi
        · exact absurd (List.mem_of_getElem? hi) hnew
        · obtain ⟨hlt, -⟩ := List.getElem?_eq_some_iff.mp hi
          rw [List.length_singleton] at hlt
          congr 2
          omega
    · rename_i hne
      rw [h other n]
      refine exists_congr fun i => and_congr_right fun _ => ?_
      rw [List.getElem?_append]
      split
      · rfl
      · rename_i hlt
        rw [List.getElem?_eq_none (Nat.le_of_not_lt hlt), List.getElem?_singleton]
        split <;> simp [Ne.symm hne]

theorem InStep.number?_eq_some_iff_name? (h : s.InStep) : s.number? name = some n ↔ s.name? n = some name := by
  rw [h name n, name?]
  cases n with
  | zero => simp [get?]
  | succ i =>
    rw [get?, ← List.getElem?_map]
    simp [names]

def addAll (s : ParamSet) : List (String × NamedStyle) → ParamSet × List Nat
  | [] => (s, [])
  | c :: cs =>
    let added := s.add c.1 c.2
    let rest := added.1.addAll cs
    (rest.1, added.2 :: rest.2)

theorem number?_addAll_of_some (h : s.number? name = some n) (calls : List (String × NamedStyle)) :
    (s.addAll calls).1.number? name = some n := by
  induction calls generalizing s with
  | nil => exact h
  | cons c calls ih => exact ih (number?_add_of_some c.2 h)

theorem number?_addAll_eq_none_iff (calls : List (String × NamedStyle)) :
    (s.addAll calls).1.number? name = none ↔ name ∉ calls.map Prod.fst ∧ s.number? name = none := by
  induction calls generalizing s with
  | nil => simp [addAll]
  | cons c calls ih =>
    change (addAll _ calls).1.number? name = none ↔ _
    rw [ih, number?_add_eq_none_iff, List.map_cons, List.mem_cons, not_or, and_left_comm, and_assoc]

theorem addAll_given (s : ParamSet) (calls : List (String × NamedStyle)) :
    (s.addAll calls).2.map some = calls.map fun c => (s.addAll calls).1.number? c.1 := by
  induction calls generalizing s with
  | nil => rfl
  | cons c calls ih =>
    have hfirst := number?_addAll_of_some (number?_add_self s c.1 c.2) calls
    exact List.cons_eq_cons.mpr ⟨hfirst.symm, ih _⟩

def toldOf (calls : List (String × NamedStyle)) (name : String) : NamedParam :=
  { name, nullable := decide ((name, .narg) ∈ calls), slice := decide ((name, .slice) ∈ calls) }

/-- The set that some occurrences leave: one parameter for each name in the order of their first occurrences,
with all that was told of it. -/
structure Collects (calls : List (String × NamedStyle)) (s : ParamSet) : Prop where
  inStep : s.InStep
  params : s.params = (calls.map Prod.fst).eraseDups.map (toldOf calls)

variable {calls : List (String × NamedStyle)}

theorem collects_empty : Collects [] {} :=
  ⟨inStep_empty, rfl⟩

theorem Collects.names_eq (h : Collects calls s) : s.names = (calls.map Prod.fst).eraseDups := by
  rw [names, h.params, List.map_map]
  exact List.map_id _

theorem Collects.mem_names_iff (h : Collects calls s) : name ∈ s.names ↔ name ∈ calls.map Prod.fst := by
  rw [h.names_eq, List.mem_eraseDups]

theorem toldOf_append_of_ne (hne : other ≠ name) (style : NamedStyle) :
    toldOf (calls ++ [(name, style)]) other = toldOf calls other := by
  simp [toldOf, hne]

theorem toldOf_append_self (style : NamedStyle) :
    toldOf (calls ++ [(name, style)]) name =
      { toldOf calls name with
        nullable := (toldOf calls name).nullable || style == .narg
        slice := (toldOf calls name).slice || style == .slice } := by
  cases style <;> simp [toldOf]

theorem toldOf_of_not_mem (h : name ∉ calls.map Prod.fst) :
    toldOf calls name = { name, nullable := false, slice := false } := by
  have hstyle (style : NamedStyle) : (name, style) ∉ calls := fun hmem => h (List.mem_map_of_mem hmem)
  simp [toldOf, hstyle]

theorem Collects.add (h : Collects calls s) (name : String) (style : NamedStyle) :
    Collects (calls ++ [(name, style)]) (s.add name style).1 := by
  refine ⟨h.inStep.add name style, ?_⟩
  have hdups : ((calls ++ [(name, style)]).map Prod.fst).eraseDups =
      s.names ++ ([name].removeAll (calls.map Prod.fst)).eraseDups := by
    rw [List.map_append, List.eraseDups_append, h.names_eq]
    rfl
  rw [hdups]
  cases hname : s.number? name with
  | some n =>
    obtain ⟨i, rfl, hi⟩ := (h.inStep name n).mp hname
    have hold : name ∈ calls.map Prod.fst := h.mem_names_iff.mp (List.mem_of_getElem? hi)
    have hparams : (s.add name style).1.params = s.params.modify i fun p =>
        { p with nullable := p.nullable || style == .narg, slice := p.slice || style == .slice } := by
      rw [number?] at hname
      unfold ParamSet.add
      rw [hname]
      rfl
    rw [hparams]
    simp only [List.removeAll, List.filter_cons, List.elem_eq_mem, hold, decide_true, Bool.not_true,
      Bool.false_eq_true, if_false, List.filter_nil, List.eraseDups_nil, List.append_nil]
    refine List.ext_getElem? fun k => ?_
    have hk : s.params[k]? = (s.names[k]?).map (toldOf calls) := by
      rw [h.names_eq, h.params, List.getElem?_map]
    rw [List.getElem?_modify, List.getElem?_map, hk]
    cases hother : s.names[k]? with
    | none => rfl
    | some other =>
      -- the place of a name is its own, so the change is made to the one parameter that it is told of
      by_cases heq : i = k
      · subst heq
        obtain rfl := Option.some.inj (hother.symm.trans hi)
        simp [toldOf_append_self]
      · have hne : other ≠ name := by
          rintro rfl
          have hsame := (h.inStep other (k + 1)).mpr ⟨k, rfl, hother⟩
          rw [hname] at hsame
          cases hsame
          exact heq rfl
        simp [heq, toldOf_append_of_ne hne]
  | none =>
    have hnew : name ∉ calls.map Prod.fst := fun hmem =>
      h.inStep.not_mem_names hname (h.mem_names_iff.mpr hmem)
    have hparams : (s.add name style).1.params =
        s.params ++ [{ name, nullable := style == .narg, slice := style == .slice }] := by
      rw [number?] at hname
      unfold ParamSet.add
      rw [hname]
    have hkept : s.names.map (toldOf (calls ++ [(name, style)])) = s.names.map (toldOf calls) := by
      refine List.map_congr_left fun other hother => toldOf_append_of_ne ?_ style
      rintro rfl
      exact hnew (h.mem_names_iff.mp hother)
    have hone : ([name].removeAll (calls.map Prod.fst)).eraseDups = [name] := by
      simp [List.removeAll, List.eraseDups_cons, hnew]
    rw [hparams, hone, List.map_append, hkept, h.names_eq, ← h.params, List.map_singleton,
      toldOf_append_self, toldOf_of_not_mem hnew]
    simp

theorem Collects.addAll {before : List (String × NamedStyle)} (h : Collects before s)
    (calls : List (String × NamedStyle)) : Collects (before ++ calls) (s.addAll calls).1 := by
  induction calls generalizing s before with
  | nil => rwa [List.append_nil]
  | cons c calls ih =>
    have hrest := ih (h.add c.1 c.2)
    rwa [List.append_assoc] at hrest

theorem collects_addAll (calls : List (String × NamedStyle)) : Collects calls (addAll {} calls).1 :=
  collects_empty.addAll calls

theorem Collects.size_eq (h : Collects calls s) : s.size = (calls.map Prod.fst).toFinset.card := by
  have hsame : s.names.toFinset = (calls.map Prod.fst).toFinset := by
    ext name
    rw [List.mem_toFinset, List.mem_toFinset, h.mem_names_iff]
  rw [← hsame, List.toFinset_card_of_nodup h.inStep.nodup, names, List.length_map, size]

theorem addAll_append (s : ParamSet) (before after : List (String × NamedStyle)) :
    (s.addAll (before ++ after)).1 = ((s.addAll before).1.addAll after).1 := by
  induction before generalizing s with
  | nil => rfl
  | cons c before ih => exact ih _

def namesBefore (calls : List (String × NamedStyle)) (name : String) : List String :=
  (calls.map Prod.fst).takeWhile (· ≠ name)

theorem number?_addAll (h : name ∈ calls.map Prod.fst) :
    (addAll {} calls).1.number? name = some ((namesBefore calls name).toFinset.card + 1) := by
  obtain ⟨earlier, later, hnames, hfirst⟩ := List.eq_append_cons_of_mem h
  obtain ⟨before, rest, rfl, hbefore, hrest⟩ := List.map_eq_append_iff.mp hnames
  obtain ⟨c, after, rfl, hc, -⟩ := List.map_eq_cons_iff.mp hrest
  have hcounted : namesBefore (before ++ c :: after) name = earlier := by
    rw [namesBefore, hnames, List.takeWhile_append_of_pos, List.takeWhile_cons_of_neg (by simp), List.append_nil]
    intro other hother
    exact decide_eq_true (ne_of_mem_of_not_mem hother hfirst)
  have hcollects := collects_addAll before
  have hnew : (addAll {} before).1.number? c.1 = none :=
    (number?_addAll_eq_none_iff before).mpr ⟨by rwa [hbefore, hc], rfl⟩
  have hsize : (addAll {} before).1.names.length = earlier.toFinset.card := by
    rw [names, List.length_map, ← hbefore]
    exact hcollects.size_eq
  rw [hcounted, addAll_append, ← hc]
  refine number?_addAll_of_some (s := ((addAll {} before).1.add c.1 c.2).1) ?_ after
  rw [number?_add_self, (names_add_of_none c.2 hnew).2, hsize]

theorem isSome_name?_iff : (s.name? n).isSome = true ↔ 1 ≤ n ∧ n ≤ s.size := by
  rw [name?, Option.isSome_map]
  cases n with
  | zero => simp [get?]
  | succ i =>
    have hget : s.get? (i + 1) = s.params[i]? := rfl
    rw [hget, isSome_getElem?, size]
    omega

theorem Collects.any_get?_iff (h : Collects calls s) (p : NamedParam → Bool) :
    (s.get? n).any p = true ↔ ∃ name, s.name? n = some name ∧ p (toldOf calls name) = true := by
  have htold {q : NamedParam} (hq : s.get? n = some q) : q = toldOf calls q.name := by
    cases n with
    | zero => cases hq
    | succ i =>
      have hmem := List.mem_of_getElem? hq
      rw [h.params] at hmem
      obtain ⟨name, -, rfl⟩ := List.mem_map.mp hmem
      rfl
  rw [name?]
  cases hget : s.get? n with
  | none => simp
  | some q =>
    simp only [Option.any_some, Option.map_some, Option.some.injEq, exists_eq_left']
    rw [← htold hget]

/-- The numbers of the names count them from one in the order of their first occurrences, and are the same at
all occurrences. A number leads back to its name, and a parameter is nullable, or a slice, exactly if one of the
occurrences of its name says so. -/
theorem addAll_ordinals (calls : List (String × NamedStyle)) :
    let s := (addAll {} calls).1
    (addAll {} calls).2 = calls.map (fun c => (namesBefore calls c.1).toFinset.card + 1) ∧
      (∀ name n, s.number? name = some n ↔ s.name? n = some name) ∧
      (∀ name, (s.number? name).isSome = true ↔ name ∈ calls.map Prod.fst) ∧
      (∀ n, (s.name? n).isSome = true ↔ 1 ≤ n ∧ n ≤ s.size) ∧
      (∀ n, s.isNullable n = true ↔ ∃ name, s.name? n = some name ∧ (name, .narg) ∈ calls) ∧
      ∀ n, s.isSlice n = true ↔ ∃ name, s.name? n = some name ∧ (name, .slice) ∈ calls := by
  intro s
  have hcollects : Collects calls s := collects_addAll calls
  refine ⟨?_, fun name n => hcollects.inStep.number?_eq_some_iff_name?, fun name => ?_,
    fun n => isSome_name?_iff, fun n => ?_, fun n => ?_⟩
  · refine List.map_injective_iff.mpr (Option.some_injective Nat) ?_
    rw [addAll_given, List.map_map]
    exact List.map_congr_left fun c hc => number?_addAll (List.mem_map_of_mem hc)
  · rw [Option.isSome_iff_exists, ← hcollects.inStep.mem_names_iff, hcollects.mem_names_iff]
  · simpa [isNullable, toldOf] using hcollects.any_get?_iff NamedParam.nullable
  · simpa [isSlice, toldOf] using hcollects.any_get?_iff NamedParam.slice

example : (addAll {} [("b", .sigil), ("a", .arg), ("b", .narg), ("c", .slice)]).2 = [1, 2, 1, 3] := by decide

end ParamSet

end TypedSql
