import TypedSql.Proofs.Token.Locality
import TypedSql.Proofs.Token.Tiling

/-!
# Reading lexemes in front of a text

Which lexemes a text has can be told from left to right: each is read in front of the ones after it. A
list of lexemes stays what is read when the text behind it is another that keeps apart from it, so parts
of a text can be put in place of others.
-/

namespace TypedSql

namespace Lexer

inductive Reads : List Lexeme → Text → Prop
  | nil (rest : Text) : Reads [] rest
  | cons {c : Char} {t rest : Text} {token : Token} {ls : List Lexeme} :
      step c (t ++ (Lexeme.cover ls ++ rest)) = some (token, t.length) → Reads ls rest →
      Reads ({ token, text := c :: t } :: ls) rest

namespace Reads

theorem single {c : Char} {t rest : Text} {token : Token}
    (h : step c (t ++ rest) = some (token, t.length)) : Reads [{ token, text := c :: t }] rest :=
  .cons h (.nil rest)

theorem text_ne_nil {ls : List Lexeme} {rest : Text} (h : Reads ls rest) : ∀ l ∈ ls, l.text ≠ [] := by
  induction h with
  | nil => nofun
  | cons _ _ ih =>
    intro l hl
    rcases List.mem_cons.mp hl with rfl | hl
    · simp
    · exact ih l hl

theorem append_iff {a b : List Lexeme} {rest : Text} :
    Reads (a ++ b) rest ↔ Reads a (Lexeme.cover b ++ rest) ∧ Reads b rest := by
  induction a with
  | nil => exact ⟨fun h => ⟨.nil _, h⟩, fun h => h.2⟩
  | cons l a ih =>
    rw [List.cons_append]
    constructor
    · intro h
      cases h with
      | cons hstep h =>
        rw [Lexeme.cover_append, List.append_assoc] at hstep
        exact ⟨.cons hstep (ih.mp h).1, (ih.mp h).2⟩
    · rintro ⟨ha, hb⟩
      cases ha with
      | cons hstep ha =>
        refine .cons ?_ (ih.mpr ⟨ha, hb⟩)
        rw [Lexeme.cover_append, List.append_assoc]
        exact hstep

/-- Another text may stand behind lexemes if it is empty, or if it begins like a name or a placeholder
and the lexemes end in a separator. -/
theorem replace {ls : List Lexeme} {x x' : Text} (h : Reads ls x)
    (hx : x' = [] ∨ x ≠ [] ∧ (∃ c ∈ x'.head?, isFresh c = true) ∧
      ∀ c ∈ (Lexeme.cover ls).getLast?, isSeparator c = true) : Reads ls x' := by
  induction ls with
  | nil => exact .nil x'
  | cons l ls ih =>
    cases h with
    | @cons c t _ token _ hstep h =>
      have hlast : ∀ d ∈ (Lexeme.cover ls).getLast?,
          d ∈ (Lexeme.cover ({ token, text := c :: t } :: ls)).getLast? := by
        intro d hd
        rw [Lexeme.cover_cons, List.getLast?_append, hd]
        rfl
      refine .cons ?_ (ih h (hx.imp_right fun hx => ⟨hx.1, hx.2.1, fun d hd => hx.2.2 d (hlast d hd)⟩))
      obtain ⟨u, r, hur, hlen, hu⟩ := step_local token t.length hstep
      obtain ⟨rfl, rfl⟩ := List.append_inj hur hlen.symm
      refine hu _ ⟨Lexeme.cover ls, x, x', rfl, rfl, hx.imp_right fun hx => ⟨hx.1, hx.2.1, ?_⟩⟩
      intro hnil
      refine hx.2.2 _ ?_
      rw [Lexeme.cover_cons, hnil, List.append_nil, List.getLast?_cons, List.getLastD_eq_getLast?]
      rfl

end Reads

theorem exists_reads_of_tokensFrom {fuel : Nat} {p : Text.Position} {t : Text} {located : List Located}
    (h : tokensFrom fuel p t = some located) :
    ∃ ls, Reads ls [] ∧ Lexeme.cover ls = t ∧ located = locate p ls := by
  fun_induction tokensFrom fuel p t generalizing located with
  | case1 =>
    cases h
    exact ⟨[], .nil _, rfl, rfl⟩
  | case2 => cases h
  | case3 => cases h
  | case4 => cases h
  | case5 fuel p c t token n hstep rest hrest ih =>
    cases h
    obtain ⟨ls, hreads, hcover, rfl⟩ := ih hrest
    obtain ⟨u, r, rfl, rfl, -⟩ := step_local token n hstep
    rw [List.drop_left] at hcover
    rw [List.take_left]
    refine ⟨{ token, text := c :: u } :: ls, .cons ?_ hreads, ?_, rfl⟩
    · rw [hcover, List.append_nil]
      exact hstep
    · rw [Lexeme.cover_cons, hcover]
      rfl

theorem tokensFrom_of_reads {ls : List Lexeme} (h : Reads ls []) (p : Text.Position) {fuel : Nat}
    (hfuel : (Lexeme.cover ls).length ≤ fuel) :
    tokensFrom fuel p (Lexeme.cover ls) = some (locate p ls) := by
  induction ls generalizing fuel p with
  | nil => cases fuel <;> rfl
  | cons l ls ih =>
    cases h with
    | @cons c t _ token _ hstep h =>
      rw [List.append_nil] at hstep
      rw [Lexeme.cover_cons] at hfuel ⊢
      obtain ⟨fuel, rfl⟩ : ∃ k, fuel = k + 1 := ⟨fuel - 1, by simp at hfuel; omega⟩
      rw [List.cons_append, tokensFrom, hstep]
      dsimp only
      rw [List.drop_left, List.take_left, ih h _ (by simp at hfuel; omega)]
      rfl

theorem lex_eq_some_iff {t : Text} {ls : List Lexeme} :
    lex t = some ls ↔ Reads ls [] ∧ Lexeme.cover ls = t := by
  constructor
  · intro h
    obtain ⟨located, hlocated, hls⟩ := Option.map_eq_some_iff.mp h
    obtain ⟨ms, hreads, rfl, rfl⟩ := exists_reads_of_tokensFrom hlocated
    rw [(tiles_locate ms).lexemes] at hls
    exact hls ▸ ⟨hreads, rfl⟩
  · rintro ⟨h, rfl⟩
    rw [lex, tokensFrom_of_reads h .start (Nat.le_refl _), Option.map_some, (tiles_locate ls).lexemes]

/-- A line and a column lead back to the place that they were counted for, at each character of a text and at its
end. Tokens that are read one behind the other therefore tile the text, and so do its lexemes. -/
theorem positions_tile (t : Text) :
    (∀ k, (Text.LineIndex.ofText t).offset
        ⟨1 + Text.newlines (t.take k), 1 + (Text.lastLine (t.take k)).length⟩ = Text.bytes (t.take k)) ∧
      (Text.LineIndex.ofText t).offset ⟨1 + t.newlines, 1 + t.lastLine.length⟩ = t.bytes ∧
      (∀ ls, Lexeme.cover ls = t → Tiles t ls (extents t (locate .start ls))) ∧
      ∀ ls, lex t = some ls →
        ∃ located, tokensFrom t.length .start t = some located ∧ Tiles t ls (extents t located) := by
  refine ⟨fun k => ?_, ?_, ?_, fun ls hls => ?_⟩
  · have hoffset := Text.offset_endPosition (t.take k) (t.drop k)
    rwa [List.take_append_drop] at hoffset
  · have hoffset := Text.offset_endPosition t []
    rwa [List.append_nil] at hoffset
  · rintro ls rfl
    exact tiles_locate ls
  · obtain ⟨hreads, rfl⟩ := lex_eq_some_iff.mp hls
    exact ⟨_, tokensFrom_of_reads hreads .start (Nat.le_refl _), tiles_locate ls⟩

theorem positions_tile_wide :
    let t := "a é\n\n*".toList
    ∃ ls located, lex t = some ls ∧ ls.map Lexeme.text = ["a", " ", "é", "\n", "\n", "*"].map String.toList ∧
      tokensFrom t.length .start t = some located ∧ Tiles t ls (extents t located) ∧
      located.map Located.start = [⟨1, 1⟩, ⟨1, 2⟩, ⟨1, 3⟩, ⟨1, 4⟩, ⟨2, 1⟩, ⟨3, 1⟩] ∧
      (extents t located).map (fun e => (e.start, e.stop)) =
        [(0, 1), (1, 2), (2, 4), (4, 5), (5, 6), (6, 7)] := by
  intro t
  have htexts : (lex t).map (List.map Lexeme.text) =
      some (["a", " ", "é", "\n", "\n", "*"].map String.toList) := by decide +kernel
  obtain ⟨ls, hls, htexts⟩ := Option.map_eq_some_iff.mp htexts
  obtain ⟨-, -, -, hlexed⟩ := positions_tile t
  obtain ⟨located, hlocated, htiles⟩ := hlexed ls hls
  have hplaces : (tokensFrom t.length .start t).map (fun located => (located.map Located.start,
      (extents t located).map fun e => (e.start, e.stop))) =
      some ([⟨1, 1⟩, ⟨1, 2⟩, ⟨1, 3⟩, ⟨1, 4⟩, ⟨2, 1⟩, ⟨3, 1⟩],
        [(0, 1), (1, 2), (2, 4), (4, 5), (5, 6), (6, 7)]) := by decide +kernel
  rw [hlocated, Option.map_some, Option.some.injEq, Prod.mk.injEq] at hplaces
  exact ⟨ls, located, hls, htexts, hlocated, htiles, hplaces⟩

def Stops (rest : Text) : Prop :=
  ∀ c ∈ rest.head?, isSeparator c = true ∨ c = '.'

theorem Stops.lacks {p : Char → Bool} {rest : Text} (h : Stops rest)
    (hp : ∀ c, p c = true → isSeparator c = false ∧ c ≠ '.') : Lacks p rest := by
  intro c hc
  refine Bool.eq_false_iff.mpr fun hpc => ?_
  obtain ⟨hsep, hdot⟩ := hp c hpc
  rcases h c hc with h | h
  · rw [hsep] at h
    cases h
  · exact hdot h

theorem Stops.lacks_char {q : Char} {rest : Text} (h : Stops rest) (hq : isSeparator q = false)
    (hdot : q ≠ '.') : Lacks (· == q) rest := by
  refine h.lacks fun c hc => ?_
  rw [eq_of_beq hc]
  exact ⟨hq, hdot⟩

theorem stops_nil : Stops [] := by
  simp [Stops]

/-- A text with lexemes that are read in front of everything that stops. -/
def Standalone (t : Text) (ls : List Lexeme) : Prop :=
  Lexeme.cover ls = t ∧ ∀ rest, Stops rest → Reads ls rest

theorem Standalone.lex_eq {t : Text} {ls : List Lexeme} (h : Standalone t ls) : lex t = some ls :=
  lex_eq_some_iff.mpr ⟨h.2 [] stops_nil, h.1⟩

theorem reads_placeholder {tag rest : Text} (htag : ∀ d ∈ tag, isTagPart d = true) (h : Stops rest) :
    Reads [{ token := .placeholder ('$' :: tag), text := '$' :: tag }] rest := by
  refine Reads.single ?_
  refine dollar_placeholder htag (h.lacks fun c hc => ⟨isSeparator_of_isTagPart hc, ?_⟩)
    (h.lacks_char rfl (by decide))
  rintro rfl
  cases hc

theorem isWordPart_of_isPlainPart {c : Char} (h : Ident.isPlainPart c = true) : isWordPart c = true := by
  simp only [Ident.isPlainPart, Bool.or_eq_true, beq_iff_eq] at h
  rcases h with ((h | h) | rfl) | rfl
  · have halpha : c.isAlpha = true := Bool.or_eq_true_iff.mpr (Or.inr h)
    simp [isWordPart, isAlphabetic_of_isAlpha halpha]
  · simp [isWordPart, h]
  · rfl
  · rfl

theorem isWordStart_of_isPlainStart {c : Char} (h : Ident.isPlainStart c = true) :
    isWordStart c = true := by
  simp only [Ident.isPlainStart, Bool.or_eq_true, beq_iff_eq] at h
  rcases h with h | rfl
  · have halpha : c.isAlpha = true := Bool.or_eq_true_iff.mpr (Or.inr h)
    simp [isWordStart, isAlphabetic_of_isAlpha halpha]
  · rfl

theorem reads_word {c : Char} {t rest : Text} (hc : isWordStart c = true)
    (ht : ∀ d ∈ t, isWordPart d = true) (h : Stops rest) :
    Reads [{ token := .word (.bare (c :: t)), text := c :: t }] rest := by
  have hend : Lacks isWordPart rest := by
    refine h.lacks fun d hd => ⟨isSeparator_of_isWordPart hd, ?_⟩
    rintro rfl
    cases hd
  have hquote : ∀ (q : Char) (m : Text), isWordPart q = false → isSeparator q = false → q ≠ '.' →
      ¬ q :: m <+: t ++ rest := by
    rintro q m hword hsep hdot ⟨x, hx⟩
    cases t with
    | nil =>
      rw [List.cons_append, List.nil_append] at hx
      rw [← hx] at h
      rcases h q rfl with h | h
      · rw [hsep] at h
        cases h
      · exact hdot h
    | cons d t =>
      obtain rfl : q = d := (List.cons.inj hx).1
      rw [ht q (by simp)] at hword
      cases hword
  have hmarks : ∀ mark ∈ [['\''], ['"'], ['&', '\'']], mark <+: t ++ rest → mark <+: [] := by
    intro mark hmark hpre
    rcases (by simpa using hmark : mark = ['\''] ∨ mark = ['"'] ∨ mark = ['&', '\'']) with
      rfl | rfl | rfl
    · exact absurd hpre (hquote '\'' _ rfl rfl (by decide))
    · exact absurd hpre (hquote '"' _ rfl rfl (by decide))
    · exact absurd hpre (hquote '&' _ rfl rfl (by decide))
  have hnil : wordOrString c [] = some (.word (.bare [c]), 0) := by
    rw [wordOrString.eq_def]
    split <;> simp_all [word]
  refine Reads.single ?_
  rw [step_of_isWordStart hc, wordOrString_eq_word hnil hmarks]
  simp only [word, takeWhile_eq_of_lacks ht hend]

theorem quotedBody_doubleQuotes {rest : Text} (h : NotHead '"' rest) (t : Text) :
    quotedBody '"' (Ident.doubleQuotes t ++ '"' :: rest) = some (t, (Ident.doubleQuotes t).length + 1) := by
  induction t with
  | nil => exact quotedBody_stop h
  | cons c t ih =>
    rw [Ident.doubleQuotes, List.flatMap_cons]
    rw [Ident.doubleQuotes] at ih
    by_cases hc : c = '"'
    · subst hc
      simp only [if_true, List.cons_append, List.nil_append]
      simp [quotedBody, ih]
    · rw [if_neg hc, List.singleton_append, List.cons_append, quotedBody.eq_def]
      simp [hc, ih]

theorem reads_quoted {t rest : Text} (h : Stops rest) :
    Reads [{ token := .word (.ofQuoted t), text := '"' :: (Ident.doubleQuotes t ++ ['"']) }] rest := by
  refine Reads.single ?_
  have hrest : NotHead '"' rest := notHead_iff_lacks.mpr (h.lacks_char rfl (by decide))
  have hstep : step '"' (Ident.doubleQuotes t ++ ['"'] ++ rest) =
      (quotedBody '"' (Ident.doubleQuotes t ++ ['"'] ++ rest)).map fun p => (.word (.ofQuoted p.1), p.2) := rfl
  rw [hstep, List.append_assoc, List.singleton_append, quotedBody_doubleQuotes hrest]
  simp

theorem exists_cons_of_plain {name : Text} (h : ¬ (Ident.isReserved name || !Ident.isPlain name) = true) :
    ∃ c t, name = c :: t ∧ Ident.isPlainStart c = true ∧ ∀ d ∈ t, Ident.isPlainPart d = true := by
  cases name with
  | nil => simp [Ident.isPlain] at h
  | cons c t =>
    simp only [Ident.isPlain, Bool.or_eq_true, not_or, Bool.not_eq_true', Bool.not_eq_false,
      Bool.and_eq_true, List.all_eq_true] at h
    exact ⟨c, t, rfl, h.2⟩

def wordOf (name : Text) : Word :=
  if Ident.isReserved name || !Ident.isPlain name then .ofQuoted name else .bare name

theorem reads_quote (name : Text) {rest : Text} (h : Stops rest) :
    Reads [{ token := .word (wordOf name), text := Ident.quote name }] rest := by
  unfold wordOf Ident.quote
  split
  · exact reads_quoted h
  · rename_i hplain
    obtain ⟨c, t, rfl, hstart, hparts⟩ := exists_cons_of_plain hplain
    exact reads_word (isWordStart_of_isPlainStart hstart)
      (fun d hd => isWordPart_of_isPlainPart (hparts d hd)) h

theorem isFresh_quote (name : Text) : ∃ c ∈ (Ident.quote name).head?, isFresh c = true := by
  unfold Ident.quote
  split
  · exact ⟨'"', rfl, rfl⟩
  · rename_i hplain
    obtain ⟨c, t, rfl, hstart, -⟩ := exists_cons_of_plain hplain
    exact ⟨c, rfl, by simp [isFresh, hstart]⟩

theorem toLower_of_isPlainPart {c : Char} (h : Ident.isPlainPart c = true) :
    c.toNat < 128 ∧ c.toLower = c := by
  have hlower : ∀ {c : Char}, c.toNat < 128 → ¬ (65 ≤ c.toNat ∧ c.toNat ≤ 90) →
      c.toNat < 128 ∧ c.toLower = c := by
    intro c hlt hupper
    refine ⟨hlt, ?_⟩
    unfold Char.toLower
    exact dif_neg hupper
  simp only [Ident.isPlainPart, Bool.or_eq_true, beq_iff_eq] at h
  rcases h with ((h | h) | rfl) | rfl
  · have h : 97 ≤ c.toNat ∧ c.toNat ≤ 122 := by
      unfold Char.isLower at h
      simpa [UInt32.le_iff_toNat_le] using h
    exact hlower (by omega) (by omega)
  · have h : 48 ≤ c.toNat ∧ c.toNat ≤ 57 := by
      simpa [Char.isDigit, UInt32.le_iff_toNat_le] using h
    exact hlower (by omega) (by omega)
  · exact ⟨by decide, by decide⟩
  · exact ⟨by decide, by decide⟩

theorem lowerFrom_of_isPlainPart {t : Text} (h : ∀ c ∈ t, Ident.isPlainPart c = true) (before : Text) :
    Text.lowerFrom before t = t := by
  induction t generalizing before with
  | nil => rfl
  | cons c t ih =>
    obtain ⟨hc, ht⟩ := List.forall_mem_cons.mp h
    obtain ⟨hlt, hlower⟩ := toLower_of_isPlainPart hc
    rw [Text.lowerFrom, ih ht, if_neg (by omega), Text.lowerChar, if_pos hlt, hlower]
    rfl

theorem lower_of_isPlain {name : Text} (h : Ident.isPlain name = true) : name.lower = name := by
  cases name with
  | nil => rfl
  | cons c t =>
    simp only [Ident.isPlain, Bool.and_eq_true, List.all_eq_true] at h
    have hpart : Ident.isPlainPart c = true := by
      have hstart := h.1
      simp only [Ident.isPlainStart, Bool.or_eq_true] at hstart
      rcases hstart with hstart | hstart <;> simp [Ident.isPlainPart, hstart]
    exact lowerFrom_of_isPlainPart (List.forall_mem_cons.mpr ⟨hpart, h.2⟩) []

theorem name_wordOf (name : Text) : (wordOf name).name = name.toString := by
  unfold wordOf
  split
  · rfl
  · rename_i hplain
    have hplain : Ident.isPlain name = true := by
      simp only [Bool.or_eq_true, not_or, Bool.not_eq_true', Bool.not_eq_false] at hplain
      exact hplain.2
    exact congrArg Text.toString (lower_of_isPlain hplain)

end Lexer

end TypedSql
