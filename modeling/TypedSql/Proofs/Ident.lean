import Mathlib.Data.List.Chain
import TypedSql.Proofs.Token.Reads

/-!
# Reading identifiers back

An identifier as it is written is one token, and the word that is read stands for the identifier again. So
no two identifiers are written alike, and a bare word is never one that the language reserves.
-/

namespace TypedSql.Ident

open Lexer

theorem length_le_doubleQuotes (t : Text) : t.length ≤ (doubleQuotes t).length := by
  induction t with
  | nil => simp
  | cons c t ih =>
    rw [doubleQuotes] at ih ⊢
    by_cases hc : c = '"' <;> simp [hc] at ih ⊢ <;> omega

theorem doubleQuotes_eq_self_iff {t : Text} : doubleQuotes t = t ↔ '"' ∉ t := by
  induction t with
  | nil => simp [doubleQuotes]
  | cons c t ih =>
    by_cases hc : c = '"'
    · subst hc
      refine iff_of_false (fun h => ?_) (fun h => h List.mem_cons_self)
      have hlength := congrArg List.length h
      have hle := length_le_doubleQuotes t
      simp only [doubleQuotes, List.flatMap_cons, if_pos, List.length_append, List.length_cons,
        List.length_nil] at hlength hle
      omega
    · have hcons : doubleQuotes (c :: t) = c :: doubleQuotes t := by simp [doubleQuotes, hc]
      rw [hcons, List.cons_inj_right, ih, List.mem_cons, not_or]
      exact (and_iff_right (Ne.symm hc)).symm

theorem isReserved_of_isPlain {t : Text} (h : isPlain t = true) :
    isReserved t = true ↔ t.toString ∈ reserved := by
  rw [isReserved, lower_of_isPlain h, List.contains_iff_mem]

theorem quote_eq_self_iff {t : Text} : quote t = t ↔ isPlain t = true ∧ t.toString ∉ reserved := by
  unfold quote
  split
  · rename_i hquoted
    constructor
    · intro h
      have hlength := congrArg List.length h
      have hle := length_le_doubleQuotes t
      simp at hlength
      omega
    · rintro ⟨hplain, hnot⟩
      simp [hplain, isReserved_of_isPlain hplain, hnot] at hquoted
  · rename_i hbare
    simp only [Bool.or_eq_true, not_or, Bool.not_eq_true', Bool.not_eq_false] at hbare
    simpa [hbare.2] using mt (isReserved_of_isPlain hbare.2).mpr hbare.1

theorem quoted_wordOf {t : Text} : (wordOf t).quoted = false ↔ quote t = t := by
  rw [quote_eq_self_iff, wordOf]
  split
  · rename_i hquoted
    simp only [Word.ofQuoted, Bool.true_eq_false, false_iff, not_and, not_not]
    intro hplain
    simpa [hplain, isReserved_of_isPlain hplain] using hquoted
  · rename_i hbare
    simp only [Bool.or_eq_true, not_or, Bool.not_eq_true', Bool.not_eq_false] at hbare
    simpa [Word.bare, hbare.2] using mt (isReserved_of_isPlain hbare.2).mpr hbare.1

theorem lex_quote (t : Text) : lex (quote t) = some [{ token := .word (wordOf t), text := quote t }] :=
  lex_eq_some_iff.mpr ⟨reads_quote t stops_nil, by simp [Lexeme.cover]⟩

theorem quote_injective : Function.Injective quote := by
  intro s t h
  have hlex := lex_quote s
  rw [h, lex_quote t] at hlex
  have hword : wordOf t = wordOf s := by
    simpa using hlex
  have hname := congrArg Word.name hword
  rw [name_wordOf, name_wordOf] at hname
  exact (String.ofList_injective hname).symm

theorem reserved_isChain : reserved.IsChain (· < ·) := by
  decide +kernel

/-- An identifier as it is written is read as one word that stands for it. The word is bare only if it is
plain and not reserved, where the reserved words are a sorted table that can be searched by halves. -/
theorem quote_read_back (t : Text) :
    (∃ w, lex (quote t) = some [{ token := .word w, text := quote t }] ∧ w.name = t.toString ∧
      (w.quoted = false ↔ quote t = t)) ∧
    (quote t = t ↔ isPlain t = true ∧ t.toString ∉ reserved) ∧ reserved.IsChain (· < ·) ∧
    ∀ s, quote s = quote t ↔ s = t :=
  ⟨⟨wordOf t, lex_quote t, name_wordOf t, quoted_wordOf⟩, quote_eq_self_iff, reserved_isChain,
    fun _ => quote_injective.eq_iff⟩

end TypedSql.Ident
