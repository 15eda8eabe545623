import TypedSql.Text.Basic

/-!
# Places of a text

A place of a text splits it in two. The byte at which a text is split is the length of what stands before
it, and a slice is what stands between two places.
-/

namespace TypedSql.Text

@[simp] theorem bytes_nil : bytes [] = 0 := rfl

theorem bytes_append (a b : Text) : (a ++ b).bytes = a.bytes + b.bytes := by
  induction a with
  | nil => simp
  | cons c a ih => rw [List.cons_append, bytes, bytes, ih, Nat.add_assoc]

theorem newlines_append (a b : Text) : (a ++ b).newlines = a.newlines + b.newlines :=
  List.count_append

theorem bytes_pos {t : Text} (h : t ≠ []) : 0 < t.bytes := by
  cases t with
  | nil => exact absurd rfl h
  | cons c t =>
    have hpos := c.utf8Size_pos
    rw [bytes]
    omega

theorem splitAtByte?_append (a b : Text) : splitAtByte? (a ++ b) a.bytes = some (a, b) := by
  induction a with
  | nil => cases b <;> rfl
  | cons c a ih =>
    have hpos := c.utf8Size_pos
    obtain ⟨n, hn⟩ : ∃ n, c.utf8Size + bytes a = n + 1 := ⟨c.utf8Size + bytes a - 1, by omega⟩
    have hrest : n + 1 - c.utf8Size = bytes a := by omega
    rw [bytes, hn, List.cons_append, splitAtByte?, if_pos (by omega), hrest, ih]
    rfl

theorem append_inj_of_bytes {a b p s : Text} (h : a ++ b = p ++ s) (hbytes : a.bytes = p.bytes) :
    a = p ∧ b = s := by
  have hsplit := splitAtByte?_append a b
  rw [h, hbytes, splitAtByte?_append] at hsplit
  cases hsplit
  exact ⟨rfl, rfl⟩

theorem append_of_splitAtByte? {t a b : Text} {n : Nat} (h : splitAtByte? t n = some (a, b)) :
    t = a ++ b ∧ a.bytes = n := by
  fun_induction splitAtByte? t n generalizing a b with
  | case1 t =>
    cases h
    exact ⟨rfl, rfl⟩
  | case2 => cases h
  | case3 c t n hle ih =>
    obtain ⟨⟨a', b'⟩, hsplit, heq⟩ := Option.map_eq_some_iff.mp h
    obtain ⟨rfl, hbytes⟩ := ih hsplit
    cases heq
    refine ⟨rfl, ?_⟩
    rw [bytes, hbytes]
    omega
  | case4 => cases h

theorem slice?_append (a b c : Text) :
    slice? (a ++ (b ++ c)) a.bytes (a.bytes + b.bytes) = some b := by
  rw [slice?, if_pos (Nat.le_add_right _ _), splitAtByte?_append]
  dsimp only
  rw [Nat.add_sub_cancel_left, splitAtByte?_append]
  rfl

theorem slice?_eq_some_iff {t m : Text} {start stop : Nat} :
    slice? t start stop = some m ↔
      ∃ a b, t = a ++ (m ++ b) ∧ a.bytes = start ∧ start + m.bytes = stop := by
  constructor
  · intro h
    unfold slice? at h
    split at h
    · rename_i hle
      split at h
      · rename_i a rest hstart
        obtain ⟨⟨m', b⟩, hstop, rfl⟩ := Option.map_eq_some_iff.mp h
        obtain ⟨rfl, hbytes⟩ := append_of_splitAtByte? hstart
        obtain ⟨rfl, hlength⟩ := append_of_splitAtByte? hstop
        exact ⟨a, b, rfl, hbytes, by dsimp only; omega⟩
      · cases h
    · cases h
  · rintro ⟨a, b, rfl, rfl, rfl⟩
    exact slice?_append a m b

theorem append_of_bytes_le {a b p s : Text} (h : a ++ b = p ++ s) (hle : a.bytes ≤ p.bytes) :
    ∃ gap, p = a ++ gap ∧ b = gap ++ s := by
  rcases List.append_eq_append_iff.mp h with ⟨gap, hp, hb⟩ | ⟨v, ha, hs⟩
  · exact ⟨gap, hp, hb⟩
  · cases v with
    | nil => exact ⟨[], by simpa using ha.symm, by simpa using hs.symm⟩
    | cons c v =>
      have hpos := c.utf8Size_pos
      rw [ha, bytes_append, bytes] at hle
      omega

end TypedSql.Text
