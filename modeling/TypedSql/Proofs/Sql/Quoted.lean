import TypedSql.Sql.Render

/-!
# Quotes in printed texts

A text between quotes is printed with its lone quotes doubled. Quotes that come in pairs are taken for doubled
ones, and quotes behind a backslash stay, so a text is printed as it is exactly where no quote is left over.
-/

namespace TypedSql.Sql

/-- Every whole run of quotes has an even length or stands behind a backslash; `last` is the character in
front of the text. -/
def PairedFrom (quote last : Char) (t : Text) : Prop :=
  ∀ before n after, t = before ++ (List.replicate n quote ++ after) → before.getLast? ≠ some quote →
    after.head? ≠ some quote → before.getLastD last = '\\' ∨ n % 2 = 0

section

variable {quote last c : Char} {t before after : Text} {n : Nat}

theorem getLast?_cons_ne (hc : c ≠ quote) (h : before.getLast? ≠ some quote) :
    (c :: before).getLast? ≠ some quote := by
  cases before with
  | nil => simpa using hc
  | cons d before => simpa using h

theorem getLast?_ne_of_cons (h : (c :: before).getLast? ≠ some quote) : before.getLast? ≠ some quote := by
  intro hlast
  rw [List.getLast?_cons, hlast] at h
  exact h rfl

theorem pairedFrom_nil : PairedFrom quote last [] := by
  intro before n after h _ _
  cases n with
  | zero => exact Or.inr rfl
  | succ n => simp [List.replicate_succ] at h

theorem pairedFrom_cons (hc : c ≠ quote) : PairedFrom quote last (c :: t) ↔ PairedFrom quote c t := by
  constructor
  · intro h before n after ht hbefore hafter
    have hrun := h (c :: before) n after (by rw [ht]; rfl) (getLast?_cons_ne hc hbefore) hafter
    rwa [List.getLastD_cons] at hrun
  · intro h before n after ht hbefore hafter
    cases before with
    | nil =>
      cases n with
      | zero => exact Or.inr rfl
      | succ n =>
        rw [List.nil_append, List.replicate_succ] at ht
        exact absurd (List.cons.inj ht).1 hc
    | cons d before =>
      rw [List.cons_append] at ht
      obtain ⟨rfl, hrest⟩ := List.cons.inj ht
      rw [List.getLastD_cons]
      exact h before n after hrest (getLast?_ne_of_cons hbefore) hafter

theorem pairedFrom_escaped : PairedFrom quote '\\' (quote :: t) ↔ PairedFrom quote '\\' t := by
  constructor
  · intro h before n after ht hbefore hafter
    cases before with
    | nil => exact Or.inl rfl
    | cons d before =>
      have hrun := h (quote :: d :: before) n after (by rw [ht]; rfl) (by simpa using hbefore) hafter
      rwa [List.getLastD_cons] at hrun
  · intro h before n after ht hbefore hafter
    cases before with
    | nil => exact Or.inl rfl
    | cons d before =>
      rw [List.cons_append] at ht
      obtain ⟨rfl, hrest⟩ := List.cons.inj ht
      cases before with
      | nil => exact absurd rfl hbefore
      | cons e before =>
        have hrun := h (e :: before) n after hrest (getLast?_ne_of_cons hbefore) hafter
        simpa only [List.getLastD_cons] using hrun

theorem pairedFrom_pair (hquote : quote ≠ '\\') (hlast : last ≠ '\\') :
    PairedFrom quote last (quote :: quote :: t) ↔ PairedFrom quote quote t := by
  constructor
  · intro h before n after ht hbefore hafter
    cases before with
    | nil =>
      have hrun := h [] (n + 2) after (by rw [ht]; rfl) hbefore hafter
      rcases hrun with hrun | hrun
      · exact absurd hrun hlast
      · exact Or.inr (by omega)
    | cons d before =>
      have hrun := h (quote :: quote :: d :: before) n after (by rw [ht]; rfl) (by simpa using hbefore) hafter
      simpa only [List.getLastD_cons] using hrun
  · intro h before n after ht hbefore hafter
    rcases before with _ | ⟨d, _ | ⟨e, _ | ⟨f, before⟩⟩⟩
    · rcases n with _ | _ | n
      · exact Or.inr rfl
      · obtain ⟨-, rfl⟩ := List.cons.inj ht
        exact absurd rfl hafter
      · have ht' : t = List.replicate n quote ++ after := by simpa [List.replicate_succ] using ht
        rcases h [] n after ht' (by simp) hafter with hrun | hrun
        · exact absurd hrun hquote
        · exact Or.inr (by omega)
    · obtain ⟨rfl, -⟩ := List.cons.inj ht
      exact absurd rfl hbefore
    · simp only [List.cons_append, List.cons.injEq] at ht
      obtain ⟨-, rfl, -⟩ := ht
      exact absurd rfl hbefore
    · simp only [List.cons_append, List.cons.injEq] at ht
      have hrun := h (f :: before) n after ht.2.2 (by simpa using hbefore) hafter
      simpa only [List.getLastD_cons] using hrun

theorem not_pairedFrom (hlast : last ≠ '\\') (ht : t.head? ≠ some quote) :
    ¬ PairedFrom quote last (quote :: t) := by
  intro h
  rcases h [] 1 t rfl (by simp) ht with h | h
  · exact hlast h
  · cases h

theorem escapeQuotes_eq_self_iff (hquote : quote ≠ '\\') :
    escapeQuotes quote last t = t ↔ PairedFrom quote last t := by
  fun_induction escapeQuotes quote last t with
  | case1 last => simp [pairedFrom_nil]
  | case2 t ih => rw [List.cons_inj_right, ih, pairedFrom_escaped]
  | case3 last hlast t ih => rw [List.cons_inj_right, List.cons_inj_right, ih, pairedFrom_pair hquote hlast]
  | case4 last hlast d t hd ih =>
    have hlone : ¬ PairedFrom quote last (quote :: d :: t) := not_pairedFrom hlast (by simpa using hd)
    simp [hlone, Ne.symm hd]
  | case5 last hlast =>
    have hlone : ¬ PairedFrom quote last [quote] := not_pairedFrom hlast (by simp)
    simp [hlone]
  | case6 last c t hc ih => rw [List.cons_inj_right, ih, pairedFrom_cons hc]

theorem mem_of_mem_escapeQuotes (h : c ∈ escapeQuotes quote last t) : c ∈ t := by
  fun_induction escapeQuotes quote last t with
  | case1 => exact h
  | case2 t ih =>
    simp only [List.mem_cons] at h ⊢
    exact h.imp_right ih
  | case3 last hlast t ih =>
    simp only [List.mem_cons] at h ⊢
    exact h.imp_right (Or.imp_right ih)
  | case4 last hlast d t hd ih =>
    simp only [List.mem_cons] at h ih ⊢
    rcases h with h | h | h
    · exact Or.inl h
    · exact Or.inl h
    · exact Or.inr (ih h)
  | case5 last hlast => simpa using h
  | case6 last d t hd ih =>
    simp only [List.mem_cons] at h ⊢
    exact h.imp_right ih

theorem length_le_escapeQuotes (quote last : Char) (t : Text) : t.length ≤ (escapeQuotes quote last t).length := by
  fun_induction escapeQuotes quote last t with
  | case1 => exact Nat.le_refl _
  | case2 t ih => exact Nat.succ_le_succ ih
  | case3 last hlast t ih => exact Nat.succ_le_succ (Nat.succ_le_succ ih)
  | case4 last hlast d t hd ih => exact Nat.succ_le_succ (Nat.le_succ_of_le ih)
  | case5 last hlast => exact Nat.le_succ 1
  | case6 last d t hd ih => exact Nat.succ_le_succ ih

end

end TypedSql.Sql
