import TypedSql.Dict

/-!
# What a dictionary answers

Each operation on a dictionary is described by what it does to lookups.
-/

namespace TypedSql

namespace Entries

variable {β : Type}

theorem lookup_head (k j : String) (v : β) (l : List (String × β)) :
    List.lookup j ((k, v) :: l) = if j = k then some v else l.lookup j := by
  by_cases h : j = k
  · simp [h]
  · simp [List.lookup_cons, beq_false_of_ne h, h]

theorem lookup_insert (k j : String) (v : β) (l : List (String × β)) :
    (insert k v l).lookup j = if j = k then some v else l.lookup j := by
  induction l with
  | nil => simp [insert, lookup_head]
  | cons e l ih =>
    obtain ⟨a, w⟩ := e
    simp only [insert]
    split
    · rw [lookup_head]
    · split
      · rename_i hk
        subst hk
        simp only [lookup_head]
        split <;> rfl
      · rename_i hk
        simp only [lookup_head, ih]
        by_cases ha : j = a
        · subst ha
          simp [Ne.symm hk]
        · simp [ha]

theorem lookup_filter (p : String → Bool) (j : String) (l : List (String × β)) :
    (l.filter (p ·.1)).lookup j = if p j then l.lookup j else none := by
  induction l with
  | nil => simp
  | cons e l ih =>
    obtain ⟨a, w⟩ := e
    by_cases hj : j = a
    · subst hj
      cases hp : p j <;> simp [hp, ih]
    · cases hp : p a <;> simp [hp, ih, lookup_head, hj]

theorem lookup_erase (k j : String) (l : List (String × β)) :
    (erase k l).lookup j = if j = k then none else l.lookup j := by
  refine (lookup_filter (fun a => decide (a ≠ k)) j l).trans ?_
  by_cases hj : j = k <;> simp [hj]

theorem sorted_mapValues (f : String → β → β) {l : List (String × β)} (h : Sorted l) :
    Sorted (l.map fun e => (e.1, f e.1 e.2)) := by
  rw [Sorted, List.pairwise_map]
  exact h

theorem lookup_mapValues (f : String → β → β) (j : String) (l : List (String × β)) :
    (l.map fun e => (e.1, f e.1 e.2)).lookup j = (l.lookup j).map (f j) := by
  induction l with
  | nil => simp
  | cons e l ih =>
    rw [List.map_cons, lookup_head, lookup_head, ih]
    split
    · rename_i hj
      rw [hj, Option.map_some]
    · rfl

theorem lookup_eq_none_of_lt {k : String} {l : List (String × β)} (h : ∀ e ∈ l, k < e.1) :
    l.lookup k = none := by
  refine List.lookup_eq_none_iff.mpr fun e he => ?_
  have hlt := h e he
  simp only [bne_iff_ne, ne_eq]
  rintro rfl
  exact String.lt_irrefl _ hlt

theorem lookup_cons_ne_none (e : String × β) (l : List (String × β)) : (e :: l).lookup e.1 ≠ none := by
  rw [lookup_head, if_pos rfl]
  nofun

theorem not_lt_of_lookup {k : String} {e : String × β} {l : List (String × β)} (h : Sorted (e :: l))
    (hk : (e :: l).lookup k ≠ none) : ¬ k < e.1 := by
  obtain ⟨he, -⟩ := List.pairwise_cons.mp h
  intro hlt
  refine hk (lookup_eq_none_of_lt fun a ha => ?_)
  rcases List.mem_cons.mp ha with rfl | ha
  · exact hlt
  · exact String.lt_trans hlt (he a ha)

theorem eq_of_lookup_eq {l l' : List (String × β)} (hl : Sorted l) (hl' : Sorted l')
    (h : ∀ k, l.lookup k = l'.lookup k) : l = l' := by
  induction l generalizing l' with
  | nil =>
    cases l' with
    | nil => rfl
    | cons b l' => exact absurd (h b.1).symm (lookup_cons_ne_none b l')
  | cons a l ih =>
    cases l' with
    | nil => exact absurd (h a.1) (lookup_cons_ne_none a l)
    | cons b l' =>
      have hle := not_lt_of_lookup hl' (h a.1 ▸ lookup_cons_ne_none a l)
      have hle' := not_lt_of_lookup hl (h b.1 ▸ lookup_cons_ne_none b l')
      have hfirst : a.1 = b.1 := String.le_antisymm (String.not_lt.mp hle') (String.not_lt.mp hle)
      have hvalue := h a.1
      rw [lookup_head, lookup_head, if_pos rfl, if_pos hfirst] at hvalue
      have hab : a = b := Prod.ext hfirst (Option.some.inj hvalue)
      subst hab
      obtain ⟨ha, htail⟩ := List.pairwise_cons.mp hl
      obtain ⟨ha', htail'⟩ := List.pairwise_cons.mp hl'
      congr 1
      refine ih htail htail' fun k => ?_
      have hk := h k
      rw [lookup_head, lookup_head] at hk
      by_cases hka : k = a.1
      · rw [hka, lookup_eq_none_of_lt ha, lookup_eq_none_of_lt ha']
      · rwa [if_neg hka, if_neg hka] at hk

end Entries

namespace Dict

variable {β : Type}

def filter (d : Dict β) (p : String → Bool) : Dict β :=
  ⟨d.entries.filter (p ·.1), d.sorted.filter _⟩

def mapValues (d : Dict β) (f : String → β → β) : Dict β :=
  ⟨d.entries.map fun e => (e.1, f e.1 e.2), Entries.sorted_mapValues f d.sorted⟩

@[simp] theorem get?_empty (k : String) : (empty : Dict β).get? k = none := rfl

theorem get?_insert (d : Dict β) (k j : String) (v : β) :
    (d.insert k v).get? j = if j = k then some v else d.get? j :=
  Entries.lookup_insert k j v d.entries

@[simp] theorem get?_insert_self (d : Dict β) (k : String) (v : β) :
    (d.insert k v).get? k = some v := by
  simp [get?_insert]

theorem get?_erase (d : Dict β) (k j : String) :
    (d.erase k).get? j = if j = k then none else d.get? j :=
  Entries.lookup_erase k j d.entries

theorem get?_filter (d : Dict β) (p : String → Bool) (j : String) :
    (d.filter p).get? j = if p j then d.get? j else none :=
  Entries.lookup_filter p j d.entries

theorem get?_mapValues (d : Dict β) (f : String → β → β) (j : String) :
    (d.mapValues f).get? j = (d.get? j).map (f j) :=
  Entries.lookup_mapValues f j d.entries

theorem ext_get? {d d' : Dict β} (h : ∀ k, d.get? k = d'.get? k) : d = d' := by
  obtain ⟨l, hl⟩ := d
  obtain ⟨l', hl'⟩ := d'
  obtain rfl : l = l' := Entries.eq_of_lookup_eq hl hl' h
  rfl

theorem insert_insert (d : Dict β) (k : String) (v w : β) :
    (d.insert k v).insert k w = d.insert k w := by
  refine ext_get? fun j => ?_
  simp only [get?_insert]
  split <;> rfl

theorem insert_get? {d : Dict β} {k : String} {v : β} (h : d.get? k = some v) : d.insert k v = d := by
  refine ext_get? fun j => ?_
  rw [get?_insert]
  split
  · rename_i hj
    rw [hj, h]
  · rfl

theorem erase_insert (d : Dict β) (k : String) (v : β) : (d.insert k v).erase k = d.erase k := by
  refine ext_get? fun j => ?_
  simp only [get?_insert, get?_erase]
  split <;> rfl

theorem insert_erase (d : Dict β) (k : String) (v : β) : (d.erase k).insert k v = d.insert k v := by
  refine ext_get? fun j => ?_
  simp only [get?_insert, get?_erase]
  split <;> rfl

theorem erase_of_get?_eq_none {d : Dict β} {k : String} (h : d.get? k = none) : d.erase k = d := by
  refine ext_get? fun j => ?_
  rw [get?_erase]
  split
  · rename_i hj
    rw [hj, h]
  · rfl

theorem contains_iff {d : Dict β} {k : String} : d.contains k = true ↔ ∃ v, d.get? k = some v := by
  simp [contains, Option.isSome_iff_exists]

theorem contains_eq_false_iff {d : Dict β} {k : String} :
    d.contains k = false ↔ d.get? k = none := by
  simp [contains]

theorem mem_of_get? {d : Dict β} {k : String} {v : β} (h : d.get? k = some v) :
    (k, v) ∈ d.entries := by
  obtain ⟨l₁, l₂, hl, _⟩ := List.lookup_eq_some_iff.mp h
  simp [hl]

theorem mem_keys_iff {d : Dict β} {k : String} : k ∈ d.keys ↔ (d.get? k).isSome = true := by
  rw [get?, List.lookup_isSome_iff]
  simp [keys]

end Dict

end TypedSql
