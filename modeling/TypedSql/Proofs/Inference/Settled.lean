import Mathlib.Data.List.Nodup
import Mathlib.Data.List.Range
import TypedSql.Inference
import TypedSql.Proofs.Fallible
import TypedSql.Proofs.SortByKey

/-!
# One parameter for each number

A number may occur many times. Its parameter is the first occurrence with a type, or else the first one,
whatever stands between them. The parameters are gathered in no order that matters: each number has only one,
so sorting them by their numbers leads to one list.
-/

namespace TypedSql.TypedParam

def preferred (found : List TypedParam) (n : Nat) : Option TypedParam :=
  (found.find? fun p => p.number == n && !p.column.isUntyped).or (found.find? (·.number == n))

variable {p q : TypedParam} {ps found : List TypedParam} {n : Nat}

theorem prefer_number (h : p.number = q.number) : (prefer p q).number = p.number := by
  unfold prefer
  split
  · exact h.symm
  · rfl

theorem numbers_settle (p : TypedParam) (ps : List TypedParam) : (settle p ps).map number =
    if p.number ∈ ps.map number then ps.map number else ps.map number ++ [p.number] := by
  induction ps with
  | nil => simp [settle]
  | cons q qs ih =>
    rw [settle]
    split
    · rename_i heq
      rw [List.map_cons, prefer_number heq, if_pos (by simp [heq])]
      rfl
    · rename_i hne
      rw [List.map_cons, ih, List.map_cons]
      split
      · rename_i hmem
        rw [if_pos (List.mem_cons_of_mem _ hmem)]
      · rename_i hmem
        rw [if_neg (by simpa [Ne.symm hne] using hmem)]
        rfl

theorem find?_settle (p : TypedParam) (ps : List TypedParam) (n : Nat) :
    (settle p ps).find? (·.number == n) =
      if p.number = n then some ((ps.find? (·.number == n)).elim p (prefer · p))
      else ps.find? (·.number == n) := by
  induction ps with
  | nil =>
    by_cases hn : p.number = n
    · simp [settle, hn]
    · simp [settle, hn]
  | cons q qs ih =>
    rw [settle]
    split
    · rename_i heq
      have hnumber := prefer_number heq
      by_cases hn : p.number = n
      · simp [hnumber, heq, hn]
      · simp [hnumber, heq, hn]
    · rename_i hne
      by_cases hq : q.number = n
      · have hn : p.number ≠ n := fun hn => hne (hq.trans hn.symm)
        simp [hq, hn]
      · simp only [List.find?_cons, beq_eq_false_iff_ne.mpr hq]
        exact ih

theorem preferred_append (found : List TypedParam) (p : TypedParam) (n : Nat) :
    preferred (found ++ [p]) n =
      if p.number = n then some ((preferred found n).elim p (prefer · p)) else preferred found n := by
  unfold preferred
  rw [List.find?_append, List.find?_append]
  by_cases hn : p.number = n
  · rw [if_pos hn]
    cases htyped : found.find? fun p => p.number == n && !p.column.isUntyped with
    | some t =>
      have ht := List.find?_some htyped
      simp only [Bool.and_eq_true, Bool.not_eq_true'] at ht
      simp [prefer, ht.2]
    | none =>
      cases hfirst : found.find? (·.number == n) with
      | none =>
        cases huntyped : p.column.isUntyped with
        | true => simp [hn, huntyped]
        | false => simp [hn, huntyped]
      | some q =>
        -- no occurrence before has a type, the first one included
        have hq : q.column.isUntyped = true := by
          have hall := List.find?_eq_none.mp htyped q (List.mem_of_find?_eq_some hfirst)
          have hnumber : (q.number == n) = true := by simpa using List.find?_some hfirst
          rw [hnumber, Bool.true_and, Bool.not_eq_true, Bool.not_eq_false'] at hall
          exact hall
        cases huntyped : p.column.isUntyped with
        | true => simp [hn, huntyped, prefer]
        | false => simp [hn, huntyped, prefer, hq]
  · simp [hn]

theorem settled_append (found : List TypedParam) (p : TypedParam) :
    settled (found ++ [p]) = settle p (settled found) :=
  List.foldl_concat ..

theorem find?_settled (found : List TypedParam) (n : Nat) :
    (settled found).find? (·.number == n) = preferred found n := by
  induction found using List.reverseRecOn with
  | nil => rfl
  | append_singleton found p ih => rw [settled_append, find?_settle, ih, preferred_append]

theorem mem_numbers_settled : n ∈ (settled found).map number ↔ n ∈ found.map number := by
  induction found using List.reverseRecOn with
  | nil => rfl
  | append_singleton found p ih =>
    rw [settled_append, numbers_settle, List.map_append, List.mem_append, ← ih]
    split
    · rename_i hmem
      simp only [List.map_cons, List.map_nil, List.mem_singleton]
      exact ⟨Or.inl, by rintro (h | rfl) <;> assumption⟩
    · rw [List.mem_append]
      rfl

theorem nodup_settled (found : List TypedParam) : ((settled found).map number).Nodup := by
  induction found using List.reverseRecOn with
  | nil => exact List.nodup_nil
  | append_singleton found p ih =>
    rw [settled_append, numbers_settle]
    split
    · exact ih
    · rename_i hnew
      rw [← List.concat_eq_append]
      exact ih.concat hnew

theorem mem_settled_iff : p ∈ settled found ↔ preferred found p.number = some p := by
  rw [← find?_settled]
  constructor
  · intro hp
    obtain ⟨q, hq⟩ : ∃ q, (settled found).find? (·.number == p.number) = some q :=
      Option.isSome_iff_exists.mp (List.find?_isSome.mpr ⟨p, hp, beq_self_eq_true _⟩)
    have hnumber : q.number = p.number := by simpa using List.find?_some hq
    rw [hq, List.inj_on_of_nodup_map (nodup_settled found) (List.mem_of_find?_eq_some hq) hp hnumber]
  · exact List.mem_of_find?_eq_some

theorem sortByNumber_perm (ps : List TypedParam) : (sortByNumber ps).Perm ps :=
  List.mergeSort_perm ps _

theorem sortByNumber_sorted (h : (ps.map number).Nodup) :
    ((sortByNumber ps).map number).Pairwise (· < ·) := by
  have hle := SortByKey.pairwise_mergeSort number ps
  have hne := List.pairwise_map.mp (((sortByNumber_perm ps).map number).nodup_iff.mpr h)
  exact List.pairwise_map.mpr ((hle.and hne).imp fun hpq => Nat.lt_of_le_of_ne hpq.1 hpq.2)

/-- The sort by insertion can be evaluated in a proof. -/
theorem ofOccurrences_eq_insertionSort : ofOccurrences = fun found => do
    let params := (settled found).insertionSort fun p q => p.number ≤ q.number
    checkDense 1 params
    return params := by
  funext found
  rw [ofOccurrences, inOrder, sortByNumber, SortByKey.mergeSort_eq_insertionSort number]

theorem inOrder_perm {vs : List TypedParam} (h : vs.Perm ps) (hps : (ps.map number).Nodup) :
    inOrder vs = inOrder ps := by
  have hvs : (vs.map number).Nodup := (h.map number).nodup_iff.mpr hps
  have hsort : sortByNumber vs = sortByNumber ps := by
    refine List.Perm.eq_of_pairwise ?_
      (List.pairwise_map.mp (sortByNumber_sorted hvs)) (List.pairwise_map.mp (sortByNumber_sorted hps))
      ((sortByNumber_perm vs).trans (h.trans (sortByNumber_perm ps).symm))
    exact fun _ _ _ _ hpq hqp => absurd hqp (Nat.lt_asymm hpq)
  unfold inOrder
  rw [hsort]

theorem checkDense_eq_ok_iff {next : Nat} :
    checkDense next ps = .ok () ↔ ps.map number = List.range' next ps.length := by
  induction ps generalizing next with
  | nil => exact ⟨fun _ => rfl, fun _ => rfl⟩
  | cons p ps ih =>
    rw [checkDense, List.map_cons, List.length_cons, List.range'_succ, List.cons_eq_cons]
    split
    · rename_i heq
      rw [ih, and_iff_right heq]
    · rename_i hne
      refine ⟨fun h => ?_, fun h => absurd h.1 hne⟩
      cases h

theorem checkDense_error {next : Nat} {e : Error} (h : checkDense next ps = .error e) :
    ∃ before p after, ps = before ++ p :: after ∧ before.map number = List.range' next before.length ∧
      p.number ≠ next + before.length ∧ e = .parameterTypeUnknown (next + before.length) := by
  induction ps generalizing next with
  | nil => cases h
  | cons p ps ih =>
    rw [checkDense] at h
    split at h
    · rename_i heq
      obtain ⟨before, q, after, rfl, hbefore, hq, rfl⟩ := ih h
      have hlength : next + 1 + before.length = next + (p :: before).length := by
        rw [List.length_cons]
        omega
      rw [hlength] at hq ⊢
      refine ⟨p :: before, q, after, rfl, ?_, hq, rfl⟩
      rw [List.map_cons, hbefore, List.length_cons, List.range'_succ, heq]
    · rename_i hne
      cases h
      exact ⟨[], p, ps, rfl, rfl, hne, rfl⟩

theorem ofOccurrences_eq_ok (h : ofOccurrences found = .ok ps) :
    ps = sortByNumber (settled found) ∧ ps.map number = List.range' 1 ps.length := by
  obtain ⟨hdense, hps⟩ := check_bind_eq_ok.mp h
  obtain rfl := pure_eq_ok_iff.mp hps
  exact ⟨rfl, checkDense_eq_ok_iff.mp hdense⟩

theorem ofOccurrences_numbers (h : ofOccurrences found = .ok ps) :
    ps.map number = List.range' 1 ps.length ∧
      ∀ n, n ∈ ps.map number ↔ n ∈ found.map number := by
  obtain ⟨rfl, hdense⟩ := ofOccurrences_eq_ok h
  refine ⟨hdense, fun n => ?_⟩
  rw [((sortByNumber_perm _).map number).mem_iff, mem_numbers_settled]

theorem ofOccurrences_error {e : Error} (h : ofOccurrences found = .error e) :
    ∃ n, e = .parameterTypeUnknown n := by
  obtain h | ⟨_, _, ⟨⟩⟩ := bind_eq_error.mp h
  obtain ⟨before, _, _, _, _, _, rfl⟩ := checkDense_error h
  exact ⟨_, rfl⟩

theorem mem_ofOccurrences_iff (h : ofOccurrences found = .ok ps) :
    p ∈ ps ↔ preferred found p.number = some p := by
  obtain ⟨rfl, -⟩ := ofOccurrences_eq_ok h
  rw [(sortByNumber_perm _).mem_iff, mem_settled_iff]

theorem exists_ofOccurrences {count : Nat} (h : ∀ n, n ∈ found.map number ↔ 1 ≤ n ∧ n ≤ count) :
    ∃ ps, ofOccurrences found = .ok ps ∧ ps.map number = List.range' 1 count := by
  have hsorted := sortByNumber_sorted (nodup_settled found)
  have hnumbers : (sortByNumber (settled found)).map number = List.range' 1 count := by
    refine List.Perm.eq_of_pairwise (fun _ _ _ _ hab hba => absurd hba (Nat.lt_asymm hab))
      hsorted List.pairwise_lt_range' ?_
    refine (List.perm_ext_iff_of_nodup (hsorted.imp Nat.ne_of_lt) List.nodup_range').mpr fun n => ?_
    rw [((sortByNumber_perm _).map number).mem_iff, mem_numbers_settled, h, List.mem_range'_1]
    omega
  have hlength : (sortByNumber (settled found)).length = count := by
    rw [← List.length_map (f := number), hnumbers, List.length_range']
  refine ⟨sortByNumber (settled found), check_bind_eq_ok.mpr ⟨checkDense_eq_ok_iff.mpr ?_, rfl⟩, hnumbers⟩
  rw [hnumbers, hlength]

/-- The second list has the occurrences of the first, with some occurrences without a type between them. -/
inductive Padded : List TypedParam → List TypedParam → Prop
  | nil : Padded [] []
  | keep {found found' : List TypedParam} (p : TypedParam) : Padded found found' → Padded (p :: found) (p :: found')
  | pad {found found' : List TypedParam} (p : TypedParam) : p.column.isUntyped = true → Padded found found' →
      Padded found (p :: found')

theorem Padded.find?_typed {found' : List TypedParam} (h : Padded found found') (n : Nat) :
    (found'.find? fun p => p.number == n && !p.column.isUntyped) =
      found.find? fun p => p.number == n && !p.column.isUntyped := by
  induction h with
  | nil => rfl
  | keep p _ ih => rw [List.find?_cons, List.find?_cons, ih]
  | pad p hp _ ih => rw [List.find?_cons, hp, Bool.not_true, Bool.and_false, ih]

theorem Padded.preferred_eq {found' : List TypedParam} (h : Padded found found')
    (hp : preferred found n = some p) (htyped : p.column.isUntyped = false) :
    preferred found' n = some p := by
  unfold preferred at hp ⊢
  rw [h.find?_typed]
  cases hfirst : found.find? fun p => p.number == n && !p.column.isUntyped with
  | some t => rwa [hfirst] at hp
  | none =>
    rw [hfirst, Option.none_or] at hp
    have hnone := List.find?_eq_none.mp hfirst p (List.mem_of_find?_eq_some hp)
    have hnumber : (p.number == n) = true := by simpa using List.find?_some hp
    rw [hnumber, htyped] at hnone
    exact absurd rfl hnone

/-- Where the numbers that occur are those from one to `count`, the parameters are, in their order and however
they were gathered, the first occurrence of each number with a type, or else its first occurrence. Further
occurrences without a type, put anywhere, leave the parameters with a type as they are. -/
theorem ofOccurrences_settles {found : List TypedParam} {count : Nat}
    (h : ∀ n, n ∈ found.map number ↔ 1 ≤ n ∧ n ≤ count) :
    ∃ ps, ofOccurrences found = .ok ps ∧
      ps.map some = (List.range' 1 count).map (preferred found) ∧
      ps.map number = List.range' 1 count ∧
      (∀ vs, vs.Perm (settled found) → inOrder vs = .ok ps) ∧
      ∀ found' count', Padded found found' → (∀ n, n ∈ found'.map number ↔ 1 ≤ n ∧ n ≤ count') →
        ∃ ps', ofOccurrences found' = .ok ps' ∧ ∀ p ∈ ps, p.column.isUntyped = false → p ∈ ps' := by
  obtain ⟨ps, hps, hnumbers⟩ := exists_ofOccurrences h
  refine ⟨ps, hps, ?_, hnumbers, fun vs hvs => ?_, fun found' count' hpadded h' => ?_⟩
  · rw [← hnumbers, List.map_map]
    exact List.map_congr_left fun p hp => ((mem_ofOccurrences_iff hps).mp hp).symm
  · exact (inOrder_perm hvs (nodup_settled found)).trans hps
  · obtain ⟨ps', hps', -⟩ := exists_ofOccurrences h'
    refine ⟨ps', hps', fun p hp htyped => (mem_ofOccurrences_iff hps').mpr ?_⟩
    exact hpadded.preferred_eq ((mem_ofOccurrences_iff hps).mp hp) htyped

theorem ofOccurrences_settles_later :
    let int (n : Nat) : TypedParam := ⟨n, .ofType "a" (.ofName "int")⟩
    let text (n : Nat) : TypedParam := ⟨n, .ofType "b" (.ofName "text")⟩
    let bare (n : Nat) : TypedParam := ⟨n, .untyped ""⟩
    let found := [bare 2, int 1, text 2, int 2, bare 3]
    (∀ n, n ∈ found.map number ↔ 1 ≤ n ∧ n ≤ 3) ∧ ofOccurrences found = .ok [int 1, text 2, bare 3] ∧
      (∀ vs, vs.Perm (settled found) → inOrder vs = .ok [int 1, text 2, bare 3]) ∧
      ∃ ps', ofOccurrences (bare 1 :: found ++ [bare 2]) = .ok ps' ∧ int 1 ∈ ps' ∧ text 2 ∈ ps' := by
  intro int text bare found
  have hnumbers (n : Nat) : n ∈ found.map number ↔ 1 ≤ n ∧ n ≤ 3 := by
    change n ∈ [2, 1, 2, 2, 3] ↔ _
    simp only [List.mem_cons, List.not_mem_nil, or_false]
    omega
  have hnumbers' (n : Nat) : n ∈ (bare 1 :: found ++ [bare 2]).map number ↔ 1 ≤ n ∧ n ≤ 3 := by
    change n ∈ [1, 2, 1, 2, 2, 3, 2] ↔ _
    simp only [List.mem_cons, List.not_mem_nil, or_false]
    omega
  have hpad : Padded found (bare 1 :: found ++ [bare 2]) :=
    .pad _ rfl (.keep _ (.keep _ (.keep _ (.keep _ (.keep _ (.pad _ rfl .nil))))))
  have hpreferred : (List.range' 1 3).map (preferred found) = [int 1, text 2, bare 3].map some := rfl
  obtain ⟨ps, hps, hfirst, -, hperm, hpadded⟩ := ofOccurrences_settles hnumbers
  obtain rfl : ps = [int 1, text 2, bare 3] :=
    List.map_injective_iff.mpr (Option.some_injective TypedParam) (hfirst.trans hpreferred)
  obtain ⟨ps', hps', hkept⟩ := hpadded _ 3 hpad hnumbers'
  exact ⟨hnumbers, hps, hperm, ps', hps', hkept (int 1) (by simp) rfl, hkept (text 2) (by simp) rfl⟩

end TypedSql.TypedParam
