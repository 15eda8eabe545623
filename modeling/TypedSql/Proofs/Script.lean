import TypedSql.Lower
import TypedSql.Proofs.Fallible
import TypedSql.Proofs.Token.Reads

/-!
# The lexemes of a chunk

A chunk is cut out of its script between two lexemes. Read by itself, it has the lexemes that it has in
the script, so its sites are the ones that are found among them.
-/

namespace TypedSql.Script

open Lexer

theorem parts_flatten (ls : List Lexeme) : (parts ls).flatten = ls := by
  induction ls with
  | nil => rfl
  | cons l ls ih =>
    rw [parts]
    split
    · rw [List.flatten_cons, ih]
      rfl
    · split
      · rename_i hnil
        rw [hnil] at ih
        rw [← ih]
        rfl
      · rename_i p ps hcons
        rw [hcons, List.flatten_cons] at ih
        rw [List.flatten_cons, List.cons_append, ih]

theorem isInfix_of_mem_parts {ls part : List Lexeme} (h : part ∈ parts ls) : part <:+: ls := by
  obtain ⟨a, b, hab⟩ := List.append_of_mem h
  have hflat := parts_flatten ls
  rw [hab, List.flatten_append, List.flatten_cons] at hflat
  exact ⟨a.flatten, b.flatten, by rw [List.append_assoc, hflat]⟩

theorem body_isInfix (part : List Lexeme) : body part <:+: part := by
  have hrun : run part <:+: part := (List.takeWhile_prefix _).isInfix
  have hstart : (run part).dropWhile Lexeme.isTrivia <:+: run part := (List.dropWhile_suffix _).isInfix
  refine (List.IsInfix.trans ?_ hstart).trans hrun
  rw [body, ← List.reverse_infix, List.reverse_reverse]
  exact (List.dropWhile_suffix _).isInfix

theorem exists_part_of_mem_chunks {c : Chunk} {location line : Nat} {pending : List Text}
    {ps : List (List Lexeme)} (h : c ∈ chunks location line pending ps) :
    ∃ part ∈ ps, body part ≠ [] ∧ c.text = Lexeme.cover (body part) ∧ c.sites = Sites.scan (body part) := by
  induction ps generalizing location line pending with
  | nil => cases h
  | cons part rest ih =>
    rw [chunks] at h
    split at h
    · obtain ⟨p, hp, hc⟩ := ih h
      exact ⟨p, List.mem_cons_of_mem part hp, hc⟩
    · rename_i hfilled
      rcases List.mem_cons.mp h with rfl | h
      · exact ⟨part, by simp, by simpa using hfilled, rfl, rfl⟩
      · obtain ⟨p, hp, hc⟩ := ih h
        exact ⟨p, List.mem_cons_of_mem part hp, hc⟩

theorem exists_body_of_mem_split {t : Text} {cs : List Chunk} (h : split t = .ok cs) {c : Chunk}
    (hc : c ∈ cs) :
    ∃ part, body part ≠ [] ∧ lex c.text = some (body part) ∧ c.text = Lexeme.cover (body part) ∧
      c.sites = Sites.scan (body part) := by
  unfold split at h
  split at h
  · cases h
  rename_i all hall
  obtain rfl := pure_eq_ok_iff.mp h
  obtain ⟨part, hpart, hfilled, htext, hsites⟩ := exists_part_of_mem_chunks hc
  obtain ⟨a, b, hab⟩ := (body_isInfix part).trans (isInfix_of_mem_parts hpart)
  obtain ⟨hreads, -⟩ := lex_eq_some_iff.mp hall
  rw [← hab, List.append_assoc] at hreads
  obtain ⟨hbody, -⟩ := Reads.append_iff.mp (Reads.append_iff.mp hreads).2
  exact ⟨part, hfilled, lex_eq_some_iff.mpr ⟨hbody.replace (Or.inl rfl), htext.symm⟩, htext, hsites⟩

theorem lex_of_mem_split {t : Text} {cs : List Chunk} (h : split t = .ok cs) {c : Chunk} (hc : c ∈ cs) :
    ∃ ls, lex c.text = some ls ∧ c.sites = Sites.scan ls := by
  obtain ⟨part, -, hlex, -, hsites⟩ := exists_body_of_mem_split h hc
  exact ⟨body part, hlex, hsites⟩

theorem lex_of_single {t : Text} {c : Chunk} (h : single t = .ok c) :
    ∃ ls, lex c.text = some ls ∧ c.sites = Sites.scan ls := by
  obtain ⟨cs, hcs, h⟩ := bind_eq_ok.mp h
  split at h
  · obtain rfl := pure_eq_ok_iff.mp h
    exact lex_of_mem_split hcs (by simp)
  · cases h

theorem consistent_single (t : Text) : Consistent (single t) := by
  have hsplit : Consistent (split t) := by
    unfold split
    split
    · exact consistent_error rfl
    · exact consistent_ok _
  refine hsplit.bind fun cs _ => ?_
  split
  · exact consistent_ok _
  · exact consistent_error rfl

end TypedSql.Script
