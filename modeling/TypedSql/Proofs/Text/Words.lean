import Mathlib.Data.List.TakeWhile
import TypedSql.Text.Basic

/-!
# Words of a text

A text is read as words with blanks between them, and trimming takes the blanks off its ends. Each word of a
text is found by cutting off the blanks before it and going on behind it.
-/

namespace TypedSql.Text

def AllBlank (t : Text) : Prop :=
  ∀ c ∈ t, isBlank c = true

def Solid (t : Text) : Prop :=
  ∀ c ∈ t, isBlank c = false

def AtWordEnd (t : Text) : Prop :=
  ∀ c, t.head? = some c → isBlank c = true

def EndsSolid (t : Text) : Prop :=
  ∀ c, t.getLast? = some c → isBlank c = false

structure IsWord (t : Text) : Prop where
  ne_nil : t ≠ []
  solid : Solid t

instance (t : Text) : Decidable (AllBlank t) :=
  List.decidableBAll (fun c => isBlank c = true) t

instance (t : Text) : Decidable (Solid t) :=
  List.decidableBAll (fun c => isBlank c = false) t

instance (t : Text) : Decidable (IsWord t) :=
  decidable_of_iff (t ≠ [] ∧ Solid t) ⟨fun ⟨hne, hsolid⟩ => ⟨hne, hsolid⟩, fun h => ⟨h.ne_nil, h.solid⟩⟩

instance (t : Text) : Decidable (EndsSolid t) :=
  decidable_of_iff (t.getLast?.all (!isBlank ·) = true) (by simp [EndsSolid, Option.all_eq_true])

theorem allBlank_nil : AllBlank [] := by
  simp [AllBlank]

theorem atWordEnd_nil : AtWordEnd [] := by
  simp [AtWordEnd]

theorem atWordEnd_of_allBlank {t : Text} (h : AllBlank t) : AtWordEnd t :=
  fun c hc => h c (List.mem_of_mem_head? hc)

theorem atWordEnd_append {gap : Text} (h : AllBlank gap) (hne : gap ≠ []) (t : Text) : AtWordEnd (gap ++ t) := by
  obtain ⟨b, gap, rfl⟩ := List.exists_cons_of_ne_nil hne
  intro c hc
  cases hc
  exact h b List.mem_cons_self

theorem IsWord.not_atWordEnd {w : Text} (h : IsWord w) (t : Text) : ¬ AtWordEnd (w ++ t) := by
  intro hend
  obtain ⟨c, w, rfl⟩ := List.exists_cons_of_ne_nil h.ne_nil
  have hsolid := h.solid c List.mem_cons_self
  rw [hend c rfl] at hsolid
  cases hsolid

theorem IsWord.endsSolid_append {w : Text} (h : IsWord w) (t : Text) : EndsSolid (t ++ w) := by
  intro c hc
  rw [List.getLast?_append, List.getLast?_eq_some_getLast h.ne_nil] at hc
  cases hc
  exact h.solid _ (List.getLast_mem h.ne_nil)

theorem words_blank_append {gap : Text} (h : AllBlank gap) (t : Text) : words (gap ++ t) = words t := by
  induction gap with
  | nil => rfl
  | cons c gap ih =>
    obtain ⟨hc, hgap⟩ := List.forall_mem_cons.mp h
    rw [List.cons_append, words, words.go, if_pos hc]
    exact ih hgap

theorem words_of_allBlank {t : Text} (h : AllBlank t) : words t = [] := by
  have hwords := words_blank_append h []
  rwa [List.append_nil] at hwords

theorem go_solid_append {w : Text} (h : Solid w) (current t : Text) :
    words.go current (w ++ t) = words.go (w.reverse ++ current) t := by
  induction w generalizing current with
  | nil => rfl
  | cons c w ih =>
    obtain ⟨hc, hw⟩ := List.forall_mem_cons.mp h
    rw [List.cons_append, words.go, if_neg (by simp [hc]), ih hw]
    simp

theorem words_word_append {w rest : Text} (h : IsWord w) (hrest : AtWordEnd rest) :
    words (w ++ rest) = w :: words rest := by
  have hcurrent : w.reverse.isEmpty = false := by simpa using h.ne_nil
  rw [words, go_solid_append h.solid, List.append_nil]
  cases rest with
  | nil => simp [words.go, words, hcurrent]
  | cons b rest => simp [words.go, words, hcurrent, hrest b rfl]

theorem words_of_isWord {w : Text} (h : IsWord w) : words w = [w] := by
  simpa [words_of_allBlank allBlank_nil] using words_word_append h atWordEnd_nil

theorem isBlank_of_dropWhile {t body : Text} {c : Char} (h : t.dropWhile isBlank = c :: body) :
    isBlank c = false := by
  have hhead := List.head?_dropWhile_not isBlank t
  simpa [h] using hhead

theorem words_cases (t : Text) :
    (AllBlank t ∧ words t = []) ∨
      ∃ gap w rest, t = gap ++ (w ++ rest) ∧ AllBlank gap ∧ IsWord w ∧ AtWordEnd rest ∧
        words t = w :: words rest := by
  have hgap : AllBlank (t.takeWhile isBlank) := fun c hc => List.mem_takeWhile_imp hc
  have hsplit : t = t.takeWhile isBlank ++ t.dropWhile isBlank := List.takeWhile_append_dropWhile.symm
  cases hbody : t.dropWhile isBlank with
  | nil =>
    rw [hbody, List.append_nil] at hsplit
    rw [← hsplit] at hgap
    exact Or.inl ⟨hgap, words_of_allBlank hgap⟩
  | cons c body =>
    have hc := isBlank_of_dropWhile hbody
    have hword : IsWord ((c :: body).takeWhile (!isBlank ·)) :=
      ⟨by simp [hc], fun d hd => by simpa using List.mem_takeWhile_imp hd⟩
    have hend : AtWordEnd ((c :: body).dropWhile (!isBlank ·)) := by
      intro d hd
      have := List.head?_dropWhile_not (!isBlank ·) (c :: body)
      simpa [hd] using this
    rw [hbody, ← List.takeWhile_append_dropWhile (p := (!isBlank ·)) (l := c :: body)] at hsplit
    refine Or.inr ⟨_, _, _, hsplit, hgap, hword, hend, ?_⟩
    rw [hsplit, words_blank_append hgap, words_word_append hword hend]

theorem words_eq_pair_iff {t w v : Text} :
    words t = [w, v] ↔
      ∃ gap between tail, t = gap ++ (w ++ (between ++ (v ++ tail))) ∧ AllBlank gap ∧ IsWord w ∧
        AllBlank between ∧ between ≠ [] ∧ IsWord v ∧ AllBlank tail := by
  constructor
  · intro h
    rcases words_cases t with ⟨-, hnil⟩ | ⟨gap, w, rest, rfl, hgap, hw, hend, hwords⟩
    · rw [hnil] at h
      cases h
    rw [hwords] at h
    obtain ⟨rfl, hrest⟩ := List.cons.inj h
    rcases words_cases rest with ⟨-, hnil⟩ | ⟨between, v, tail, rfl, hbetween, hv, -, hwords⟩
    · rw [hnil] at hrest
      cases hrest
    rw [hwords] at hrest
    obtain ⟨rfl, htail⟩ := List.cons.inj hrest
    refine ⟨gap, between, tail, rfl, hgap, hw, hbetween, ?_, hv, ?_⟩
    · -- without a blank between them the two words would be one
      rintro rfl
      exact hv.not_atWordEnd tail hend
    · rcases words_cases tail with ⟨hblank, -⟩ | ⟨_, _, _, -, -, -, -, hwords⟩
      · exact hblank
      · rw [htail] at hwords
        cases hwords
  · rintro ⟨gap, between, tail, rfl, hgap, hw, hbetween, hne, hv, htail⟩
    rw [words_blank_append hgap, words_word_append hw (atWordEnd_append hbetween hne _),
      words_blank_append hbetween, words_word_append hv (atWordEnd_of_allBlank htail), words_of_allBlank htail]

theorem trimEnd_of_endsSolid {t : Text} (h : EndsSolid t) : trimEnd t = t := by
  cases hlast : t.reverse with
  | nil =>
    rw [List.reverse_eq_nil_iff.mp hlast]
    rfl
  | cons c r =>
    have hc : isBlank c = false := h c (by rw [← List.head?_reverse, hlast]; rfl)
    rw [trimEnd, hlast, List.dropWhile_cons_of_neg (by simp [hc]), ← hlast, List.reverse_reverse]

theorem trimEnd_cons {c : Char} (h : isBlank c = false) (t : Text) : trimEnd (c :: t) = c :: trimEnd t := by
  have hc : List.dropWhile isBlank [c] = [c] := by simp [h]
  rw [trimEnd, trimEnd, List.reverse_cons, List.dropWhile_append, hc]
  split
  · rename_i hnil
    simp [List.isEmpty_iff.mp hnil]
  · simp

theorem trim_cons {c : Char} (h : isBlank c = false) (t : Text) : trim (c :: t) = c :: trimEnd t := by
  rw [trim, trimStart, List.dropWhile_cons_of_neg (by simp [h]), trimEnd_cons h]

theorem endsSolid_trim (t : Text) : EndsSolid (trim t) := by
  intro c h
  rw [trim, trimEnd, List.getLast?_reverse] at h
  simpa [h] using List.head?_dropWhile_not isBlank (trimStart t).reverse

theorem eq_nil_of_endsSolid {t tail : Text} (h : EndsSolid (t ++ tail)) (htail : AllBlank tail) : tail = [] := by
  by_contra hne
  have hlast : (t ++ tail).getLast? = some (tail.getLast hne) := by
    rw [List.getLast?_append, List.getLast?_eq_some_getLast hne]
    rfl
  have hsolid := h _ hlast
  rw [htail _ (List.getLast_mem hne)] at hsolid
  cases hsolid

theorem trim_eq_nil_iff {t : Text} : trim t = [] ↔ AllBlank t := by
  rw [AllBlank, ← List.dropWhile_eq_nil_iff, trim, trimStart]
  cases hbody : t.dropWhile isBlank with
  | nil => simp [trimEnd]
  | cons c body =>
    have hc := isBlank_of_dropWhile hbody
    simp [trimEnd_cons hc]

end TypedSql.Text
