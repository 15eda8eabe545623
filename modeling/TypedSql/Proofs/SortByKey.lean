import Mathlib.Data.List.Sort

/-!
# Sorting by a number

Edits are sorted by their places and parameters by their numbers. Both sorts are stable, so a sorted list of which
some elements are left out is the sorted list of the others, and inserting one element after the other gives the
same list.
-/

namespace TypedSql.SortByKey

variable {α : Type} (key : α → Nat)

theorem trans (a b c : α) (hab : decide (key a ≤ key b) = true) (hbc : decide (key b ≤ key c) = true) :
    decide (key a ≤ key c) = true := by
  simp only [decide_eq_true_eq] at hab hbc ⊢
  omega

theorem total (a b : α) : (decide (key a ≤ key b) || decide (key b ≤ key a)) = true := by
  simp only [Bool.or_eq_true, decide_eq_true_eq]
  omega

theorem pairwise_mergeSort (l : List α) :
    (l.mergeSort fun a b => key a ≤ key b).Pairwise fun a b => key a ≤ key b := by
  have hsorted := List.pairwise_mergeSort (trans key) (total key) l
  simpa only [decide_eq_true_eq] using hsorted

theorem exists_mergeSort_cons (a : α) (l : List α) :
    ∃ before after, (a :: l).mergeSort (fun a b => key a ≤ key b) = before ++ a :: after ∧
      l.mergeSort (fun a b => key a ≤ key b) = before ++ after ∧
      (∀ b ∈ before, key b < key a) ∧ ∀ b ∈ after, key a ≤ key b := by
  obtain ⟨before, after, hcons, hl, hbefore⟩ := List.mergeSort_cons (trans key) (total key) a l
  have hsorted := pairwise_mergeSort key (a :: l)
  rw [hcons] at hsorted
  obtain ⟨-, hafter, -⟩ := List.pairwise_append.mp hsorted
  refine ⟨before, after, hcons, hl, fun b hb => ?_, (List.pairwise_cons.mp hafter).1⟩
  simpa using hbefore b hb

theorem eq_of_append_eq {k : Nat} {before after before' after' : List α} (h : before ++ after = before' ++ after')
    (hbefore : ∀ b ∈ before, key b < k) (hafter : ∀ b ∈ after, k ≤ key b)
    (hbefore' : ∀ b ∈ before', key b < k) (hafter' : ∀ b ∈ after', k ≤ key b) :
    before = before' ∧ after = after' := by
  have hfirst : ∀ {l r : List α}, (∀ b ∈ l, key b < k) → (∀ b ∈ r, k ≤ key b) →
      (l ++ r).filter (key · < k) = l := by
    intro l r hl hr
    rw [List.filter_append, List.filter_eq_self.mpr fun b hb => decide_eq_true (hl b hb),
      List.filter_eq_nil_iff.mpr fun b hb => by simpa using hr b hb, List.append_nil]
  have heq : before = before' := by
    rw [← hfirst hbefore hafter, h, hfirst hbefore' hafter']
  exact ⟨heq, List.append_cancel_left (heq ▸ h)⟩

theorem filter_mergeSort (p : α → Bool) (l : List α) :
    (l.mergeSort fun a b => key a ≤ key b).filter p = (l.filter p).mergeSort fun a b => key a ≤ key b := by
  induction l with
  | nil => simp
  | cons a l ih =>
    obtain ⟨before, after, hcons, hl, hbefore, hafter⟩ := exists_mergeSort_cons key a l
    rw [hl, List.filter_append] at ih
    rw [hcons, List.filter_append]
    cases hp : p a with
    | false =>
      rw [List.filter_cons_of_neg (by simp [hp]), List.filter_cons_of_neg (by simp [hp]), ih]
    | true =>
      obtain ⟨before', after', hcons', hl', hbefore', hafter'⟩ := exists_mergeSort_cons key a (l.filter p)
      obtain ⟨rfl, rfl⟩ := eq_of_append_eq key (ih.trans hl')
        (fun b hb => hbefore b (List.mem_of_mem_filter hb)) (fun b hb => hafter b (List.mem_of_mem_filter hb))
        hbefore' hafter'
      rw [List.filter_cons_of_pos hp, List.filter_cons_of_pos hp, hcons']

theorem orderedInsert_append {a : α} {before after : List α} (hbefore : ∀ b ∈ before, key b < key a)
    (hafter : ∀ b ∈ after, key a ≤ key b) :
    (before ++ after).orderedInsert (fun a b => key a ≤ key b) a = before ++ a :: after := by
  induction before with
  | nil =>
    cases after with
    | nil => rfl
    | cons b after => rw [List.nil_append, List.orderedInsert_cons, if_pos (hafter b List.mem_cons_self), List.nil_append]
  | cons b before ih =>
    obtain ⟨hb, hbefore⟩ := List.forall_mem_cons.mp hbefore
    rw [List.cons_append, List.orderedInsert_cons, if_neg (Nat.not_le.mpr hb), ih hbefore, List.cons_append]

theorem mergeSort_eq_insertionSort (l : List α) :
    (l.mergeSort fun a b => key a ≤ key b) = l.insertionSort fun a b => key a ≤ key b := by
  induction l with
  | nil => simp
  | cons a l ih =>
    obtain ⟨before, after, hcons, hl, hbefore, hafter⟩ := exists_mergeSort_cons key a l
    rw [List.insertionSort_cons, ← ih, hl, hcons, orderedInsert_append key hbefore hafter]

end TypedSql.SortByKey
