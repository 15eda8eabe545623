import TypedSql.Proofs.Site
import TypedSql.Proofs.Splice

/-!
# The lexemes of an edited text

Edits that replace whole lexemes and keep apart from the text around them change the lexemes of a text
only where they stand. So the placeholders of the edited text are those that were there and those that
the edits bring.
-/

namespace TypedSql

namespace Text

def placeholders (t : Text) : List Nat :=
  Lexeme.placeholders ((Lexer.lex t).getD [])

end Text

namespace Edit

open Lexer

/-- The characters around an edit end no token and begin none, and something stands in its place. -/
def isApart (text : Text) (e : Edit) : Bool :=
  !e.new.isEmpty && (between text 0 e.location).getLast?.all isSeparator &&
    (between text e.stop text.bytes).head?.all isSeparator

def apart (text : Text) (edits : List Edit) : Bool :=
  edits.all fun e => e.isApart text && edits.all fun e' => e'.location != e.stop

structure Placed (ls : List Lexeme) (e : Edit) : Prop where
  spans : Lexeme.Spans ls e.location e.old
  fresh : e.new ≠ [] → ∃ c ∈ e.new.head?, isFresh c = true
  standalone : ∃ new, Standalone e.new new

/-- What edits make of the lexemes from byte `start` on: up to the first edit they stay, then come the
lexemes of the new text, and so on with the lexemes behind the edit. -/
inductive Replaced : Nat → List Edit → List Lexeme → List Lexeme → Prop
  | nil (start : Nat) (ls : List Lexeme) : Replaced start [] ls ls
  | cons {start : Nat} {e : Edit} {rest : List Edit} {gap old tail mid new : List Lexeme}
      (hgap : start + (Lexeme.cover gap).bytes = e.location) (hold : Lexeme.cover old = e.old)
      (hnone : ∀ l ∈ old, l.token.placeholder? = none) (hmid : Standalone e.new mid)
      (hrest : Replaced e.stop rest tail new) :
      Replaced start (e :: rest) (gap ++ (old ++ tail)) (gap ++ (mid ++ new))

theorem isPrefix_of_bytes_le {ls a b x y : List Lexeme} (hls : ∀ l ∈ ls, l.text ≠ []) (ha : ls = a ++ x)
    (hb : ls = b ++ y) (hle : (Lexeme.cover a).bytes ≤ (Lexeme.cover b).bytes) : a <+: b := by
  rcases List.append_eq_append_iff.mp (ha.symm.trans hb) with ⟨v, rfl, -⟩ | ⟨v, rfl, -⟩
  · exact List.prefix_append a v
  · cases v with
    | nil => simp
    | cons l v =>
      have hl := Text.bytes_pos (hls l (by simp [ha]))
      rw [Lexeme.cover_append, Lexeme.cover_cons, Text.bytes_append, Text.bytes_append] at hle
      omega

theorem between_cover (a v b : List Lexeme) :
    between (Lexeme.cover (a ++ (v ++ b))) (Lexeme.cover a).bytes (Lexeme.cover (a ++ v)).bytes =
      Lexeme.cover v := by
  rw [Lexeme.cover_append, Lexeme.cover_append, Lexeme.cover_append, Text.bytes_append, between_append]

theorem isApart_cover {p g s : List Lexeme} {e : Edit}
    (h : e.isApart (Lexeme.cover (p ++ (g ++ s))) = true) (hlocation : (Lexeme.cover p).bytes = e.location)
    (hstop : (Lexeme.cover (p ++ g)).bytes = e.stop) :
    e.new ≠ [] ∧ (∀ c ∈ (Lexeme.cover p).getLast?, isSeparator c = true) ∧
      ∀ c ∈ (Lexeme.cover s).head?, isSeparator c = true := by
  have hbefore := between_cover [] p (g ++ s)
  have hbehind := between_cover (p ++ g) s []
  rw [List.nil_append, List.nil_append, hlocation] at hbefore
  rw [List.append_nil, List.append_assoc p g s, hstop] at hbehind
  have hzero : (Lexeme.cover []).bytes = 0 := rfl
  rw [hzero] at hbefore
  rw [isApart, hbefore, hbehind, Bool.and_eq_true, Bool.and_eq_true] at h
  obtain ⟨⟨hne, hlast⟩, hhead⟩ := h
  refine ⟨by simpa using hne, fun c hc => ?_, fun c hc => ?_⟩
  · rwa [Option.mem_def.mp hc] at hlast
  · rwa [Option.mem_def.mp hc] at hhead

theorem cover_ne_nil {ls : List Lexeme} (hls : ls ≠ []) (h : ∀ l ∈ ls, l.text ≠ []) :
    Lexeme.cover ls ≠ [] := by
  obtain ⟨l, ls, rfl⟩ := List.exists_cons_of_ne_nil hls
  rw [Lexeme.cover_cons]
  exact List.append_ne_nil_of_left_ne_nil (h l (by simp)) _

theorem reads_replaced {a v g s mid new : List Lexeme} {t : Text}
    (hls : Reads (a ++ (v ++ (g ++ s))) []) (hg : g ≠ []) (hmid : Standalone t mid)
    (hfresh : ∃ c ∈ t.head?, isFresh c = true)
    (hbefore : ∀ c ∈ (Lexeme.cover (a ++ v)).getLast?, isSeparator c = true)
    (hnew : Reads new []) (hstops : Stops (Lexeme.cover new)) : Reads (v ++ (mid ++ new)) [] := by
  obtain ⟨-, hv⟩ := Reads.append_iff.mp hls
  obtain ⟨hv, hgs⟩ := Reads.append_iff.mp hv
  refine Reads.append_iff.mpr ⟨?_, Reads.append_iff.mpr ⟨?_, hnew⟩⟩
  · refine hv.replace (Or.inr ⟨?_, ?_, fun c hc => hbefore c ?_⟩)
    · rw [List.append_nil]
      exact cover_ne_nil (by simp [hg]) hgs.text_ne_nil
    · obtain ⟨c, hc, hfresh⟩ := hfresh
      obtain ⟨t, rfl⟩ := List.head?_eq_some_iff.mp hc
      rw [Lexeme.cover_append, hmid.1]
      exact ⟨c, rfl, hfresh⟩
    · rw [Lexeme.cover_append, List.getLast?_append, hc]
      rfl
  · rw [List.append_nil]
    exact hmid.2 _ hstops

theorem spliced_reads {ls : List Lexeme} (hls : Reads ls []) {edits : List Edit} {start : Nat} {out : Text}
    {a b : List Lexeme} (hplaced : ∀ e ∈ edits, e.Placed ls)
    (hapart : ∀ e ∈ edits, e.isApart (Lexeme.cover ls) = true)
    (hgap : ∀ e ∈ edits, ∀ e' ∈ edits, e'.location ≠ e.stop) (hab : ls = a ++ b)
    (hstart : (Lexeme.cover a).bytes = start) (h : Spliced start edits (Lexeme.cover b) out) :
    ∃ new, Reads new [] ∧ Lexeme.cover new = out ∧ Replaced start edits b new ∧
      ((∀ e ∈ edits, e.location ≠ start) → out.head? = (Lexeme.cover b).head?) := by
  induction edits generalizing start out a b with
  | nil =>
    cases h
    subst hab
    exact ⟨b, (Reads.append_iff.mp hls).2, rfl, .nil start b, fun _ => rfl⟩
  | cons e rest ih =>
    generalize hcut : Lexeme.cover b = whole at h
    obtain _ | @⟨_, _, _, gap, tail, behind, hlead, hbehind⟩ := h
    obtain ⟨⟨p, g, s, hpgs, hlocation, hold, hg, hnone⟩, hfresh, mid, hmid⟩ := hplaced e (by simp)
    have hstop : (Lexeme.cover (p ++ g)).bytes = e.stop := by
      rw [Lexeme.cover_append, Text.bytes_append, hlocation, hold]
      rfl
    obtain ⟨v, rfl⟩ := isPrefix_of_bytes_le hls.text_ne_nil hab hpgs
      (by rw [hstart, hlocation]; omega)
    obtain rfl : b = v ++ (g ++ s) := by
      have heq := hab.symm.trans hpgs
      rw [List.append_assoc] at heq
      exact List.append_cancel_left heq
    obtain ⟨rfl, rfl⟩ : gap = Lexeme.cover v ∧ tail = Lexeme.cover s := by
      rw [Lexeme.cover_append, Text.bytes_append, hstart] at hlocation
      rw [Lexeme.cover_append, Lexeme.cover_append, hold] at hcut
      obtain ⟨hgap, htail⟩ := Text.append_inj_of_bytes hcut.symm (by omega)
      exact ⟨hgap, List.append_cancel_left htail⟩
    obtain ⟨new, hreads, hcover, hreplaced, hhead⟩ := ih (fun e' he' => hplaced e' (by simp [he']))
      (fun e' he' => hapart e' (by simp [he']))
      (fun x hx y hy => hgap x (by simp [hx]) y (by simp [hy]))
      (show ls = (a ++ v ++ g) ++ s by simp [hpgs]) hstop hbehind
    have hhead := hhead fun e' he' => hgap e (by simp) e' (by simp [he'])
    obtain ⟨hne, hbefore, hbehind⟩ := isApart_cover (hpgs ▸ hapart e (by simp)) hlocation hstop
    refine ⟨v ++ (mid ++ new), ?_, ?_, .cons hlead hold hnone hmid hreplaced, fun hstart' => ?_⟩
    · refine reads_replaced (hab ▸ hls) hg hmid (hfresh hne) hbefore hreads fun c hc => Or.inl ?_
      rw [hcover, hhead] at hc
      exact hbehind c hc
    · rw [Lexeme.cover_append, Lexeme.cover_append, hmid.1, hcover]
    · have hv : v ≠ [] := by
        rintro rfl
        rw [List.append_nil, hstart] at hlocation
        exact hstart' e (by simp) hlocation.symm
      have hcover : Lexeme.cover v ≠ [] :=
        cover_ne_nil hv fun l hl => hls.text_ne_nil l (by simp [hab, hl])
      obtain ⟨c, t, ht⟩ := List.exists_cons_of_ne_nil hcover
      rw [ht]
      rfl

/-- Edits that keep apart from the text around them only change the lexemes where they stand. -/
theorem apply_replaced {text : Text} {ls : List Lexeme} {edits : List Edit} {out : Text}
    (hlex : lex text = some ls) (hplaced : ∀ e ∈ edits, e.Placed ls)
    (hapart : apart text edits = true) (h : apply text edits = .ok out) :
    ∃ new, lex out = some new ∧ Replaced 0 (sort edits) ls new := by
  obtain ⟨hls, rfl⟩ := lex_eq_some_iff.mp hlex
  have hspliced := (apply_eq_ok.mp h).2
  have hmem : ∀ e, e ∈ sort edits → e ∈ edits := fun e => List.mem_mergeSort.mp
  have happ := List.all_eq_true.mp hapart
  simp only [Bool.and_eq_true, List.all_eq_true, bne_iff_ne] at happ
  obtain ⟨new, hreads, hcover, hreplaced, -⟩ := spliced_reads hls (a := []) (b := ls)
    (fun e he => hplaced e (hmem e he)) (fun e he => (happ e (hmem e he)).1)
    (fun e he e' he' => (happ e (hmem e he)).2 e' (hmem e' he')) rfl rfl hspliced
  exact ⟨new, lex_eq_some_iff.mpr ⟨hreads, hcover⟩, hreplaced⟩

theorem Replaced.mem_placeholders {start : Nat} {edits : List Edit} {ls new : List Lexeme}
    (h : Replaced start edits ls new) (n : Nat) : n ∈ Lexeme.placeholders new ↔
      n ∈ Lexeme.placeholders ls ∨ ∃ e ∈ edits, n ∈ e.new.placeholders := by
  induction h with
  | nil => simp
  | @cons start e rest gap old tail mid new _ _ hnone hmid _ ih =>
    have hold := Lexeme.placeholders_eq_nil hnone
    have he : e.new.placeholders = Lexeme.placeholders mid := by
      rw [Text.placeholders, hmid.lex_eq]
      rfl
    simp only [Lexeme.placeholders_append, List.mem_append, hold, ih, List.mem_cons, he,
      List.nil_append, or_and_right, exists_or, exists_eq_left]
    grind

/-- The placeholders of an edited text are those of the text and those that the edits bring. -/
theorem apply_placeholders {text : Text} {ls : List Lexeme} {edits : List Edit} {out : Text}
    (hlex : lex text = some ls) (hplaced : ∀ e ∈ edits, e.Placed ls)
    (hapart : apart text edits = true) (h : apply text edits = .ok out) (n : Nat) :
    n ∈ out.placeholders ↔ n ∈ text.placeholders ∨ ∃ e ∈ edits, n ∈ e.new.placeholders := by
  obtain ⟨new, hnew, hreplaced⟩ := apply_replaced hlex hplaced hapart h
  rw [Text.placeholders, Text.placeholders, hnew, hlex]
  simpa only [Option.getD_some, sort, List.mem_mergeSort] using hreplaced.mem_placeholders n

end Edit

end TypedSql
