import TypedSql.Proofs.Text.Words
import TypedSql.Text.Case
import TypedSql.Text.Numeric

/-!
# Blanks among the other characters

No letter or digit is a blank, and lower case neither makes a blank of another character nor changes one.
The tables of the classes are compared range by range.
-/

namespace TypedSql.Text

def apart (rs ss : List (Nat × Nat)) : Bool :=
  rs.all fun r => ss.all fun s => decide (r.2 < s.1) || decide (s.2 < r.1)

theorem inRanges_iff {rs : List (Nat × Nat)} {c : Char} :
    inRanges rs c = true ↔ ∃ r ∈ rs, r.1 ≤ c.toNat ∧ c.toNat ≤ r.2 := by
  simp [inRanges]

theorem inRanges_of_apart {rs ss : List (Nat × Nat)} {c : Char} (h : apart rs ss = true)
    (hc : inRanges rs c = true) : inRanges ss c = false := by
  obtain ⟨r, hr, hlo, hhi⟩ := inRanges_iff.mp hc
  rw [Bool.eq_false_iff]
  intro hss
  obtain ⟨s, hs, hlo', hhi'⟩ := inRanges_iff.mp hss
  have hrs := List.all_eq_true.mp (List.all_eq_true.mp h r hr) s hs
  simp only [Bool.or_eq_true, decide_eq_true_eq] at hrs
  omega

def CaseRun.source (run : CaseRun) : Nat × Nat :=
  (run.first, run.last)

def CaseRun.target (run : CaseRun) : Nat × Nat :=
  ((run.first + run.shift).toNat, (run.last + run.shift).toNat)

theorem apart_blankRanges :
    apart alphabeticRanges blankRanges = true ∧ apart numericRanges blankRanges = true ∧
      apart (lowerRuns.map CaseRun.source) blankRanges = true ∧
      apart (lowerRuns.map CaseRun.target) blankRanges = true := by
  decide +kernel

theorem isBlank_toLower_ascii : ∀ n < 128,
    if isBlank (Char.ofNat n) then (Char.ofNat n).toLower = Char.ofNat n
    else isBlank (Char.ofNat n).toLower = false := by
  decide +kernel

theorem isBlank_of_ascii {c : Char} (hlo : 33 ≤ c.toNat) (hlt : c.toNat < 128) : isBlank c = false := by
  rw [Bool.eq_false_iff]
  intro h
  obtain ⟨r, hr, hlo', hhi⟩ := inRanges_iff.mp h
  have hends : ∀ r ∈ blankRanges, r.2 ≤ 32 ∨ 128 ≤ r.1 := by decide
  have := hends r hr
  omega

theorem toNat_of_isAlpha {c : Char} (h : c.isAlpha = true) : 65 ≤ c.toNat := by
  unfold Char.isAlpha Char.isUpper Char.isLower at h
  simp only [Bool.or_eq_true, Bool.and_eq_true, decide_eq_true_eq, UInt32.le_iff_toNat_le] at h
  simp only [Char.toNat]
  rcases h with h | h
  · exact h.1
  · exact Nat.le_trans (by decide) h.1

theorem toNat_of_isDigit {c : Char} (h : c.isDigit = true) : 48 ≤ c.toNat := by
  simp only [Char.isDigit, Bool.and_eq_true, decide_eq_true_eq, UInt32.le_iff_toNat_le] at h
  exact h.1

theorem isBlank_of_isAlphabetic {c : Char} (h : isAlphabetic c = true) : isBlank c = false := by
  unfold isAlphabetic at h
  split at h
  · rename_i hlt
    have hlo := toNat_of_isAlpha h
    exact isBlank_of_ascii (by omega) hlt
  · exact inRanges_of_apart apart_blankRanges.1 h

theorem isBlank_of_isNumeric {c : Char} (h : isNumeric c = true) : isBlank c = false := by
  unfold isNumeric at h
  split at h
  · rename_i hlt
    have hlo := toNat_of_isDigit h
    exact isBlank_of_ascii (by omega) hlt
  · exact inRanges_of_apart apart_blankRanges.2.1 h

theorem CaseRun.bounds_of_holds {run : CaseRun} {n : Nat} (h : run.holds n = true) :
    run.first ≤ n ∧ n ≤ run.last := by
  simp only [holds, Bool.and_eq_true, decide_eq_true_eq] at h
  exact h.1

theorem toNat_ofNat (n : Nat) : (Char.ofNat n).toNat = n ∨ (Char.ofNat n).toNat = 0 := by
  by_cases h : n.isValidChar
  · have hvalid : Char.ofNat n = Char.ofNatAux n h := dif_pos h
    rw [hvalid]
    exact Or.inl rfl
  · have hzero : Char.ofNat n = Char.ofNat 0 := dif_neg h
    rw [hzero]
    exact Or.inr rfl

theorem moveByRuns_cases (runs : List CaseRun) (n : Nat) :
    moveByRuns runs n = n ∨
      ∃ run ∈ runs, run.first ≤ n ∧ n ≤ run.last ∧ run.target.1 ≤ moveByRuns runs n ∧
        moveByRuns runs n ≤ run.target.2 := by
  unfold moveByRuns
  split
  · rename_i run hfound
    have hholds := List.find?_some hfound
    obtain ⟨hlo, hhi⟩ := CaseRun.bounds_of_holds hholds
    refine Or.inr ⟨run, List.mem_of_find?_eq_some hfound, hlo, hhi, ?_, ?_⟩ <;>
      · simp only [CaseRun.target]
        omega
  · exact Or.inl rfl

theorem solid_lowerChar {c : Char} (h : isBlank c = false) : Solid (lowerChar c) := by
  unfold lowerChar
  split
  · rename_i hlt
    have hc := isBlank_toLower_ascii c.toNat hlt
    rw [Char.ofNat_toNat, h, if_neg Bool.false_ne_true] at hc
    exact List.forall_mem_singleton.mpr hc
  · split
    · decide
    · refine List.forall_mem_singleton.mpr ?_
      rcases moveByRuns_cases lowerRuns c.toNat with hsame | ⟨run, hrun, -, -, hlo, hhi⟩
      · rwa [hsame, Char.ofNat_toNat]
      · rcases toNat_ofNat (moveByRuns lowerRuns c.toNat) with hmoved | hzero
        · rw [← hmoved] at hlo hhi
          exact inRanges_of_apart apart_blankRanges.2.2.2 (inRanges_iff.mpr ⟨_, List.mem_map_of_mem hrun, hlo, hhi⟩)
        · simp [isBlank, inRanges, hzero, blankRanges]

theorem lowerChar_of_isBlank {c : Char} (h : isBlank c = true) : lowerChar c = [c] := by
  unfold lowerChar
  split
  · rename_i hlt
    have hc := isBlank_toLower_ascii c.toNat hlt
    rw [Char.ofNat_toNat, h, if_pos rfl] at hc
    rw [hc]
  · split
    · rename_i hdotted
      rw [← Char.ofNat_toNat c, hdotted] at h
      exact absurd h (by decide)
    · rcases moveByRuns_cases lowerRuns c.toNat with hsame | ⟨run, hrun, hlo, hhi, -, -⟩
      · rw [hsame, Char.ofNat_toNat]
      · have hblank : isBlank c = false :=
          inRanges_of_apart apart_blankRanges.2.2.1 (inRanges_iff.mpr ⟨_, List.mem_map_of_mem hrun, hlo, hhi⟩)
        rw [hblank] at h
        cases h

theorem lowerChar_ne_nil (c : Char) : lowerChar c ≠ [] := by
  unfold lowerChar
  split
  · simp
  · split <;> simp

theorem lowerFrom_cons_cases (before : Text) (c : Char) (t : Text) :
    ∃ here, lowerFrom before (c :: t) = here ++ lowerFrom (c :: before) t ∧ here ≠ [] ∧
      (isBlank c = false → Solid here) ∧ (isBlank c = true → here = [c]) := by
  rw [lowerFrom]
  refine ⟨_, rfl, ?_⟩
  split
  · rename_i hsigma
    have hc : isBlank c = false := by
      rw [← Char.ofNat_toNat c, hsigma]
      decide
    rw [hc]
    split <;> exact ⟨by simp, fun _ => by decide, by simp⟩
  · exact ⟨lowerChar_ne_nil c, solid_lowerChar, lowerChar_of_isBlank⟩

theorem length_le_lowerFrom (before t : Text) : t.length ≤ (lowerFrom before t).length := by
  induction t generalizing before with
  | nil => exact Nat.zero_le _
  | cons c t ih =>
    obtain ⟨here, heq, hne, -, -⟩ := lowerFrom_cons_cases before c t
    have hpos := List.length_pos_iff.mpr hne
    have := ih (c :: before)
    rw [heq, List.length_append, List.length_cons]
    omega

theorem solid_lowerFrom_iff {before t : Text} : Solid (lowerFrom before t) ↔ Solid t := by
  induction t generalizing before with
  | nil => rfl
  | cons c t ih =>
    obtain ⟨here, heq, -, hsolid, hblank⟩ := lowerFrom_cons_cases before c t
    have hhere : Solid here ↔ isBlank c = false := by
      refine ⟨fun h => ?_, hsolid⟩
      by_contra hc
      rw [Bool.not_eq_false] at hc
      rw [hblank hc] at h
      exact absurd (h c List.mem_cons_self) (by simp [hc])
    rw [heq, Solid, List.forall_mem_append, Solid, List.forall_mem_cons]
    exact and_congr hhere ih

theorem length_le_lower (t : Text) : t.length ≤ t.lower.length :=
  length_le_lowerFrom [] t

theorem solid_lower_iff {t : Text} : Solid t.lower ↔ Solid t :=
  solid_lowerFrom_iff

end TypedSql.Text
