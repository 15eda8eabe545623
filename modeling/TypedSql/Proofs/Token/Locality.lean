import TypedSql.Ident
import TypedSql.Proofs.Token.Scan

/-!
# How far a token looks

A token depends on its own text and on little of what stands behind it. It stays the same when the text
behind it is cut off or goes on in another way, as long as the other way begins like a name or a
placeholder and the characters in front of it end no word, number or string.
-/

namespace TypedSql.Lexer

def isSeparator (c : Char) : Bool :=
  !(Text.isAlphanumeric c || ['_', '$', '\'', '"', '.', '&'].contains c)

def isFresh (c : Char) : Bool :=
  c == '$' || c == '"' || Ident.isPlainStart c

theorem isAlphabetic_of_isAlpha {c : Char} (h : c.isAlpha = true) : Text.isAlphabetic c = true := by
  have hlt : c.toNat < 128 := by
    unfold Char.isAlpha Char.isUpper Char.isLower at h
    simp only [Bool.or_eq_true, Bool.and_eq_true, decide_eq_true_eq, UInt32.le_iff_toNat_le] at h
    simp only [Char.toNat]
    rcases h with h | h
    · exact Nat.lt_of_le_of_lt h.2 (by decide)
    · exact Nat.lt_of_le_of_lt h.2 (by decide)
  rw [Text.isAlphabetic, if_pos hlt, h]

theorem isNumeric_of_isDigit {c : Char} (h : c.isDigit = true) : Text.isNumeric c = true := by
  have hlt : c.toNat < 128 := by
    simp only [Char.isDigit, Bool.and_eq_true, decide_eq_true_eq, UInt32.le_iff_toNat_le] at h
    exact Nat.lt_of_le_of_lt h.2 (by decide)
  rw [Text.isNumeric, if_pos hlt, h]

theorem isSeparator_of_isAlphabetic {c : Char} (h : Text.isAlphabetic c = true) :
    isSeparator c = false := by
  simp [isSeparator, Text.isAlphanumeric, h]

theorem isSeparator_of_isDigit {c : Char} (h : c.isDigit = true) : isSeparator c = false := by
  simp [isSeparator, Text.isAlphanumeric, isNumeric_of_isDigit h]

theorem isSeparator_of_isWordStart {c : Char} (h : isWordStart c = true) : isSeparator c = false := by
  rcases Bool.or_eq_true_iff.mp h with h | h
  · exact isSeparator_of_isAlphabetic h
  · simp [isSeparator, eq_of_beq h]

theorem isSeparator_of_isWordPart {c : Char} (h : isWordPart c = true) : isSeparator c = false := by
  simp only [isWordPart, Bool.or_eq_true, beq_iff_eq] at h
  rcases h with ((h | h) | rfl) | rfl
  · exact isSeparator_of_isAlphabetic h
  · exact isSeparator_of_isDigit h
  · rfl
  · rfl

theorem isSeparator_of_isHexDigit {c : Char} (h : isHexDigit c = true) : isSeparator c = false := by
  simp only [isHexDigit, Bool.or_eq_true, Bool.and_eq_true, decide_eq_true_eq] at h
  rcases h with (h | ⟨hlo, hhi⟩) | ⟨hlo, hhi⟩
  · exact isSeparator_of_isDigit h
  · refine isSeparator_of_isAlphabetic (isAlphabetic_of_isAlpha ?_)
    have hz : c ≤ 'z' := Char.le_trans hhi (by decide)
    have hlower : c.isLower = true := Bool.and_eq_true_iff.mpr ⟨decide_eq_true hlo, decide_eq_true hz⟩
    exact Bool.or_eq_true_iff.mpr (Or.inr hlower)
  · refine isSeparator_of_isAlphabetic (isAlphabetic_of_isAlpha ?_)
    have hz : c ≤ 'Z' := Char.le_trans hhi (by decide)
    have hupper : c.isUpper = true := decide_eq_true ⟨hlo, hz⟩
    exact Bool.or_eq_true_iff.mpr (Or.inl hupper)

theorem isSeparator_getLastD {c : Char} {u : Text} (hc : isSeparator c = false)
    (hu : ∀ d ∈ u, isSeparator d = false) : isSeparator (u.getLastD c) = false := by
  rcases List.mem_cons.mp List.getLastD_mem_cons with hmem | hmem
  · rw [hmem]
    exact hc
  · exact hu _ hmem

theorem isFresh_of_isDigit {c : Char} (h : c.isDigit = true) : isFresh c = false := by
  have h' : 48 ≤ c.toNat ∧ c.toNat ≤ 57 := by
    simpa [Char.isDigit, UInt32.le_iff_toNat_le] using h
  have hlower : c.isLower = false := by
    unfold Char.isLower
    simp only [Bool.and_eq_false_iff, decide_eq_false_iff_not, UInt32.le_iff_toNat_le]
    refine Or.inl (Nat.not_le.mpr (Nat.lt_of_le_of_lt h'.2 (by decide)))
  have hne : ∀ d : Char, ¬ (48 ≤ d.toNat ∧ d.toNat ≤ 57) → c ≠ d := by
    rintro _ hd rfl
    exact hd h'
  simp [isFresh, Ident.isPlainStart, hlower, hne '$' (by decide), hne '"' (by decide),
    hne '_' (by decide)]

theorem isFresh_of_isOperatorPart {c : Char} (h : isOperatorPart c = true) : isFresh c = false := by
  have hany : ['+', '-', '*', '/', '<', '>', '=', '~', '!', '@', '#', '%', '^', '&', '|', '\x60', '?'].any
      isFresh = false := by decide
  exact Bool.eq_false_iff.mpr (List.any_eq_false.mp hany c (List.contains_iff_mem.mp h))

def Lacks (p : Char → Bool) (t : Text) : Prop :=
  ∀ c ∈ t.head?, p c = false

theorem lacks_nil (p : Char → Bool) : Lacks p [] := by
  simp [Lacks]

theorem lacks_cons {p : Char → Bool} {c : Char} {t : Text} : Lacks p (c :: t) ↔ p c = false := by
  simp [Lacks]

theorem lacks_dropWhile (p : Char → Bool) (t : Text) : Lacks p (t.dropWhile p) := by
  intro c hc
  have h := List.head?_dropWhile_not p t
  rw [Option.mem_def.mp hc] at h
  simpa using h

theorem notHead_iff_lacks {q : Char} {t : Text} : NotHead q t ↔ Lacks (· == q) t := by
  cases t with
  | nil => simp [NotHead, Lacks]
  | cons c t => simp [NotHead, Lacks]

theorem lacks_of_not_isPrefix {q : Char} {t : Text} (h : ¬ [q] <+: t) : Lacks (· == q) t := by
  cases t with
  | nil => exact lacks_nil _
  | cons c t =>
    refine lacks_cons.mpr (Bool.eq_false_iff.mpr fun hc => h ?_)
    rw [eq_of_beq hc]
    exact ⟨t, rfl⟩

theorem takeWhile_eq_of_lacks {p : Char → Bool} {u r : Text} (hu : ∀ c ∈ u, p c = true)
    (hr : Lacks p r) : (u ++ r).takeWhile p = u := by
  rw [List.takeWhile_append_of_pos hu]
  cases r with
  | nil => simp
  | cons c r => simp [lacks_cons.mp hr]

/-- The text `r'` may stand where `r` stands, behind a token that ends in `last`: it is a part of `r`, or
it parts from `r` with the first character of a name or placeholder. -/
def Behind (last : Char) (r r' : Text) : Prop :=
  ∃ v x x', r = v ++ x ∧ r' = v ++ x' ∧
    (x' = [] ∨ x ≠ [] ∧ (∃ c ∈ x'.head?, isFresh c = true) ∧ (v = [] → isSeparator last = true))

namespace Behind

variable {last : Char} {r r' : Text}

theorem eq_nil (h : Behind last [] r') : r' = [] := by
  obtain ⟨v, x, x', hr, rfl, hx⟩ := h
  obtain ⟨rfl, rfl⟩ := List.append_eq_nil_iff.mp hr.symm
  rcases hx with rfl | ⟨hne, -⟩
  · rfl
  · exact absurd rfl hne

theorem lacks {p : Char → Bool} (h : Behind last r r')
    (hp : isSeparator last = false ∨ ∀ c, p c = true → isFresh c = false) (hr : Lacks p r) :
    Lacks p r' := by
  obtain ⟨v, x, x', rfl, rfl, hx⟩ := h
  cases v with
  | cons d v => exact hr
  | nil =>
    rcases hx with rfl | ⟨-, ⟨c, hc, hfresh⟩, hlast⟩
    · exact lacks_nil p
    · rcases hp with hp | hp
      · rw [hlast rfl] at hp
        cases hp
      · intro d hd
        obtain rfl : c = d := Option.some_inj.mp (hc.symm.trans hd)
        cases hpc : p c with
        | false => rfl
        | true =>
          rw [hp c hpc] at hfresh
          cases hfresh

theorem singleton_isPrefixOf {d : Char} {a : Text} (h : Behind last r r')
    (hlast : isSeparator last = false) (hpre : [d] <+: a ++ r') : [d] <+: a ++ r := by
  cases a with
  | cons c a => simpa using hpre
  | nil =>
    obtain ⟨v, x, x', rfl, rfl, hx⟩ := h
    cases v with
    | cons c v => simpa using hpre
    | nil =>
      rcases hx with rfl | ⟨-, -, hsep⟩
      · simp at hpre
      · rw [hsep rfl] at hlast
        cases hlast

theorem isPrefixOf {w a : Text} (h : Behind last r r') (hw : w.any isFresh = false)
    (hpre : w <+: a ++ r') : w <+: a ++ r := by
  obtain ⟨v, x, x', rfl, rfl, hx⟩ := h
  have hshort : w <+: a ++ v := by
    rcases hx with rfl | ⟨-, ⟨c, hc, hfresh⟩, -⟩
    · simpa using hpre
    · obtain ⟨t, rfl⟩ : ∃ t, x' = c :: t := by
        cases x' with
        | nil => cases hc
        | cons d t =>
          cases hc
          exact ⟨t, rfl⟩
      rw [← List.append_assoc] at hpre
      rcases Nat.lt_or_ge (a ++ v).length w.length with hlt | hge
      · -- `w` would hold the character that the texts part with
        have hmem : c ∈ w := by
          have hget := List.IsPrefix.getElem hpre hlt
          rw [List.getElem_append_right (Nat.le_refl _)] at hget
          simp only [Nat.sub_self, List.getElem_cons_zero] at hget
          rw [← hget]
          exact List.getElem_mem hlt
        exact absurd hfresh (List.any_eq_false.mp hw c hmem)
      · exact List.prefix_of_prefix_length_le hpre (List.prefix_append _ _) hge
  rw [← List.append_assoc]
  exact hshort.trans (List.prefix_append _ _)

end Behind

/-- A rule for tokens keeps to a token when the text behind it is another that may stand there. The
characters of the token stand behind `c`. -/
def Local (f : Text → Option (Token × Nat)) (c : Char) (t : Text) : Prop :=
  ∀ token n, f t = some (token, n) →
    ∃ u r, t = u ++ r ∧ u.length = n ∧
      ∀ r', Behind (u.getLastD c) r r' → f (u ++ r') = some (token, n)

theorem Local.of_pair {f : Text → Token × Nat} {c : Char} {t : Text}
    (h : ∃ u r, t = u ++ r ∧ u.length = (f t).2 ∧
      ∀ r', Behind (u.getLastD c) r r' → f (u ++ r') = f t) : Local (fun t => some (f t)) c t := by
  intro token n hf
  rw [Option.some_inj.mp hf] at h
  obtain ⟨u, r, ht, hn, hu⟩ := h
  exact ⟨u, r, ht, hn, fun r' hr' => congrArg some (hu r' hr')⟩

theorem Local.of_scans {f : Text → Option (Token × Nat)} {g : Nat → Text → Option (Text × Nat)}
    {last : Char} {ok : Text → Prop} {a t : Text} (token : Text → Token) (c : Char)
    (hf : ∀ x, f (a ++ x) = (g (x.length + 1) x).map fun p => (token p.1, p.2 + a.length))
    (hscan : ∀ v n, g (t.length + 1) t = some (v, n) → Scans g last ok t v n)
    (hok : ∀ r r', Behind last r r' → ok r → ok r') : Local f c (a ++ t) := by
  intro tok n h
  rw [hf] at h
  obtain ⟨⟨v, n⟩, hbody, ⟨⟩⟩ := Option.map_eq_some_iff.mp h
  obtain ⟨u, r, rfl, rfl, hlast, hr, hu⟩ := hscan v n hbody
  refine ⟨a ++ u, r, by simp, by simp [Nat.add_comm], fun r' hr' => ?_⟩
  have hbehind : Behind last r r' := by
    simpa [List.getLastD_eq_getLast?, List.getLast?_append, hlast] using hr'
  rw [List.append_assoc, hf, hu _ r' (by simp; omega) (hok r r' hbehind hr)]
  rfl

theorem notHead_of_behind {q : Char} (hq : isSeparator q = false) (r r' : Text) (h : Behind q r r')
    (hr : NotHead q r) : NotHead q r' :=
  notHead_iff_lacks.mpr (h.lacks (Or.inl hq) (notHead_iff_lacks.mp hr))

theorem wordOrString_eq_word {c : Char} {t t' : Text} {w : Word} {n : Nat}
    (h : wordOrString c t = some (.word w, n))
    (hmarks : ∀ mark ∈ [['\''], ['"'], ['&', '\'']], mark <+: t' → mark <+: t) :
    wordOrString c t' = some (word c t') := by
  have hquote := hmarks ['\''] (by simp)
  have hdouble := hmarks ['"'] (by simp)
  have hand := hmarks ['&', '\''] (by simp)
  fun_cases wordOrString c t' with
  | case13 => rfl
  | case1 | case2 | case5 | case6 | case7 | case8 | case11 | case12 =>
    obtain ⟨s, rfl⟩ := hquote (by simp)
    simp [wordOrString] at h
  | case3 | case4 =>
    obtain ⟨s, rfl⟩ := hdouble (by simp)
    simp [wordOrString] at h
  | case9 | case10 =>
    obtain ⟨s, rfl⟩ := hand (by simp)
    simp [wordOrString] at h

theorem word_local {c : Char} {t : Text} (hc : isWordStart c = true)
    (h : wordOrString c t = some (word c t)) : Local (wordOrString c) c t := by
  intro token n hword
  obtain ⟨rfl, rfl⟩ := Prod.mk.inj (Option.some_inj.mp (h.symm.trans hword))
  let u := t.takeWhile isWordPart
  let r := t.dropWhile isWordPart
  have ht : t = u ++ r := List.takeWhile_append_dropWhile.symm
  refine ⟨u, r, ht, rfl, fun r' hr' => ?_⟩
  have hu : ∀ d ∈ u, isWordPart d = true := List.all_eq_true.mp List.all_takeWhile
  have hlast : isSeparator (u.getLastD c) = false :=
    isSeparator_getLastD (isSeparator_of_isWordStart hc) fun d hd => isSeparator_of_isWordPart (hu d hd)
  have hr : Lacks isWordPart r' := hr'.lacks (Or.inl hlast) (lacks_dropWhile _ _)
  have heq : wordOrString c (u ++ r') = some (word c (u ++ r')) := by
    refine wordOrString_eq_word hword ?_
    intro mark hmark hpre
    rw [ht]
    by_cases hdouble : mark = ['"']
    · subst hdouble
      exact hr'.singleton_isPrefixOf hlast hpre
    · have hplain : ∀ m ∈ [['\''], ['"'], ['&', '\'']], m ≠ ['"'] → m.any isFresh = false := by
        decide
      exact hr'.isPrefixOf (hplain mark hmark hdouble) hpre
  rw [heq]
  simp only [word, takeWhile_eq_of_lacks hu hr]
  rfl

theorem wordOrString_local {c : Char} {t : Text} (hc : isWordStart c = true) :
    Local (wordOrString c) c t := by
  fun_cases wordOrString c t with
  | case1 t | case2 t | case3 t | case4 t =>
    exact Local.of_scans (a := [_]) (g := fun _ => quotedBody _) _ _ (fun x => rfl)
      (fun v n => quotedBody_scans) (notHead_of_behind rfl)
  | case5 t | case6 t | case11 t | case12 t =>
    exact Local.of_scans (a := ['\'']) (g := fun _ => backslashBody) _ _ (fun x => rfl)
      (fun v n => backslashBody_scans) (notHead_of_behind rfl)
  | case7 t | case8 t =>
    exact Local.of_scans (a := ['\'']) (g := escapedBody) _ _ (fun x => rfl)
      (fun v n => escapedBody_scans) (notHead_of_behind rfl)
  | case9 t | case10 t =>
    exact Local.of_scans (a := ['&', '\'']) (g := unicodeBody) _ _ (fun x => rfl)
      (fun v n => unicodeBody_scans) (notHead_of_behind rfl)
  | case13 =>
    refine word_local hc ?_
    rw [wordOrString.eq_def]
    split <;> simp_all

theorem takeWhile_eq_nil_iff {p : Char → Bool} {t : Text} : t.takeWhile p = [] ↔ Lacks p t := by
  cases t with
  | nil => simp [Lacks]
  | cons c t => simp [lacks_cons, List.takeWhile_cons]

section

variable {e s : Char} {x : Text}

theorem exponent_of_not_mark (he : ¬ (e = 'e' || e = 'E') = true) : exponent (e :: x) = [] := by
  rw [exponent.eq_def]
  exact if_neg he

theorem exponent_signed (he : (e = 'e' || e = 'E') = true) (hs : (s = '+' || s = '-') = true) :
    exponent (e :: s :: x) =
      if x.takeWhile Char.isDigit = [] then [] else e :: s :: x.takeWhile Char.isDigit := by
  simp only [exponent, if_pos he, if_pos hs, List.isEmpty_iff]

theorem exponent_unsigned (he : (e = 'e' || e = 'E') = true) (hs : ¬ (s = '+' || s = '-') = true) :
    exponent (e :: s :: x) = if (s :: x).takeWhile Char.isDigit = [] then []
      else e :: (s :: x).takeWhile Char.isDigit := by
  simp only [exponent, if_pos he, if_neg hs, List.isEmpty_iff]

end

theorem getLast?_append_digits (a : Text) {x : Text} (h : x.takeWhile Char.isDigit ≠ []) :
    ∃ d, (a ++ x.takeWhile Char.isDigit).getLast? = some d ∧ d.isDigit = true := by
  refine ⟨(x.takeWhile Char.isDigit).getLast h, ?_, ?_⟩
  · rw [List.getLast?_append, List.getLast?_eq_some_getLast h]
    rfl
  · exact List.all_eq_true.mp List.all_takeWhile _ (List.getLast_mem h)

theorem exponent_append {t : Text} (h : exponent t ≠ []) :
    (∃ r, t = exponent t ++ r ∧ Lacks Char.isDigit r) ∧
      (∃ d, (exponent t).getLast? = some d ∧ d.isDigit = true) ∧
      ∀ r', Lacks Char.isDigit r' → exponent (exponent t ++ r') = exponent t := by
  match t with
  | [] => exact absurd rfl h
  | [e] =>
    by_cases he : (e = 'e' || e = 'E') = true
    · simp [exponent, he] at h
    · exact absurd (exponent_of_not_mark he) h
  | e :: s :: x =>
    have hdigits : ∀ y : Text, ∀ d ∈ y.takeWhile Char.isDigit, d.isDigit = true :=
      fun y => List.all_eq_true.mp List.all_takeWhile
    by_cases he : (e = 'e' || e = 'E') = true
    · by_cases hs : (s = '+' || s = '-') = true
      · rw [exponent_signed he hs] at h ⊢
        have hne : x.takeWhile Char.isDigit ≠ [] := fun hnil => h (if_pos hnil)
        rw [if_neg hne]
        refine ⟨⟨x.dropWhile Char.isDigit, by simp, lacks_dropWhile _ _⟩,
          getLast?_append_digits [e, s] hne, fun r' hr' => ?_⟩
        rw [List.cons_append, List.cons_append, exponent_signed he hs,
          takeWhile_eq_of_lacks (hdigits x) hr', if_neg hne]
      · rw [exponent_unsigned he hs] at h ⊢
        have hne : (s :: x).takeWhile Char.isDigit ≠ [] := fun hnil => h (if_pos hnil)
        rw [if_neg hne]
        refine ⟨⟨(s :: x).dropWhile Char.isDigit, by simp, lacks_dropWhile _ _⟩,
          getLast?_append_digits [e] hne, fun r' hr' => ?_⟩
        have htake : ((s :: x).takeWhile Char.isDigit ++ r').takeWhile Char.isDigit =
            (s :: x).takeWhile Char.isDigit := takeWhile_eq_of_lacks (hdigits (s :: x)) hr'
        have hs' : (s :: x).takeWhile Char.isDigit = s :: x.takeWhile Char.isDigit := by
          rw [List.takeWhile_cons] at hne ⊢
          split
          · rfl
          · rename_i hdigit
            exact absurd (if_neg hdigit) hne
        rw [hs', List.cons_append] at htake
        rw [hs', List.cons_append, List.cons_append, exponent_unsigned he hs, htake, if_neg (by simp)]
    · exact absurd (exponent_of_not_mark he) h

theorem exponent_of_behind {last : Char} {r r' : Text} (hlast : isSeparator last = false)
    (h : Behind last r r') (hr : exponent r = []) : exponent r' = [] := by
  obtain ⟨v, x, x', rfl, rfl, hx⟩ := h
  have hdigit : ∀ w, Lacks Char.isDigit (w ++ x) → Lacks Char.isDigit (w ++ x') := by
    intro w
    have hbehind : Behind ' ' (w ++ x) (w ++ x') :=
      ⟨w, x, x', rfl, rfl, hx.imp_right fun hx => ⟨hx.1, hx.2.1, fun _ => rfl⟩⟩
    exact hbehind.lacks (Or.inr fun _ => isFresh_of_isDigit)
  match v with
  | [] =>
    rcases hx with rfl | ⟨-, -, hsep⟩
    · rfl
    · rw [hsep rfl] at hlast
      cases hlast
  | [e] =>
    by_cases he : (e = 'e' || e = 'E') = true
    · rcases hx with rfl | ⟨-, ⟨c, hc, hfresh⟩, -⟩
      · simp [exponent]
      · obtain ⟨t, rfl⟩ := List.head?_eq_some_iff.mp hc
        have hs : ¬ (c = '+' || c = '-') = true := by
          intro hs
          rcases (by simpa using hs : c = '+' ∨ c = '-') with rfl | rfl <;> cases hfresh
        have hc : c.isDigit = false := by
          refine Bool.eq_false_iff.mpr fun hdig => ?_
          rw [isFresh_of_isDigit hdig] at hfresh
          cases hfresh
        rw [List.singleton_append, exponent_unsigned he hs]
        exact if_pos (takeWhile_eq_nil_iff.mpr (lacks_cons.mpr hc))
    · exact exponent_of_not_mark he
  | e :: s :: v =>
    rw [List.cons_append, List.cons_append] at hr ⊢
    by_cases he : (e = 'e' || e = 'E') = true
    · by_cases hs : (s = '+' || s = '-') = true
      · rw [exponent_signed he hs] at hr ⊢
        have hnil : (v ++ x).takeWhile Char.isDigit = [] := by
          refine Decidable.byContradiction fun hne => ?_
          rw [if_neg hne] at hr
          cases hr
        exact if_pos (takeWhile_eq_nil_iff.mpr (hdigit v (takeWhile_eq_nil_iff.mp hnil)))
      · rw [exponent_unsigned he hs] at hr ⊢
        have hnil : (s :: (v ++ x)).takeWhile Char.isDigit = [] := by
          refine Decidable.byContradiction fun hne => ?_
          rw [if_neg hne] at hr
          cases hr
        exact if_pos (takeWhile_eq_nil_iff.mpr (hdigit (s :: v) (takeWhile_eq_nil_iff.mp hnil)))
    · exact exponent_of_not_mark he

structure NumberParts (whole point fraction exp long r : Text) : Prop where
  whole_digits : ∀ d ∈ whole, d.isDigit = true
  fraction_digits : ∀ d ∈ fraction, d.isDigit = true
  point_form : point = ['.'] ∨ point = [] ∧ fraction = [] ∧ Lacks (· == '.') (exp ++ (long ++ r))
  digits_end : Lacks Char.isDigit (exp ++ (long ++ r))
  exp_end : exp ≠ [] → Lacks Char.isDigit (long ++ r)
  exponent_eq : exponent (exp ++ (long ++ r)) = exp
  long_form : long = ['L'] ∨ long = [] ∧ Lacks (· == 'L') r
  not_hex : whole = ['0'] → Lacks (· == 'x') (point ++ (fraction ++ (exp ++ (long ++ r))))

namespace NumberParts

variable {whole point fraction exp long r : Text}

theorem number_eq (h : NumberParts whole point fraction exp long r) {c : Char} {t : Text}
    (ht : c :: t = whole ++ (point ++ (fraction ++ (exp ++ (long ++ r)))))
    (hdot : whole ++ point ++ fraction ≠ ['.']) :
    number c t = (.number (whole ++ point ++ fraction ++ exp) (decide (long = ['L'])),
      (whole ++ point ++ fraction ++ exp).length - 1 + long.length) := by
  have hend : Lacks Char.isDigit (point ++ (fraction ++ (exp ++ (long ++ r)))) := by
    rcases h.point_form with hp | ⟨hp, hf, -⟩
    · rw [hp]
      exact lacks_cons.mpr rfl
    · rw [hp, hf]
      exact h.digits_end
  have hwhole : (c :: t).takeWhile Char.isDigit = whole := by
    rw [ht, takeWhile_eq_of_lacks h.whole_digits hend]
  have hpoint : (if (point ++ (fraction ++ (exp ++ (long ++ r)))).head? = some '.' then ['.'] else []) =
      point := by
    rcases h.point_form with hp | ⟨hp, hf, hr⟩
    · rw [hp]
      rfl
    · rw [hp, hf, if_neg]
      intro hhead
      have hdot := hr '.' hhead
      cases hdot
  have hfraction : (fraction ++ (exp ++ (long ++ r))).takeWhile Char.isDigit = fraction :=
    takeWhile_eq_of_lacks h.fraction_digits h.digits_end
  have hexp : (whole ++ (point ++ (fraction ++ (exp ++ (long ++ r))))).drop
      (whole ++ point ++ fraction).length = exp ++ (long ++ r) := by
    rw [← List.append_assoc whole, ← List.append_assoc (whole ++ point), List.drop_left]
  have hlong : (whole ++ (point ++ (fraction ++ (exp ++ (long ++ r))))).drop
      (whole ++ point ++ fraction ++ exp).length = long ++ r := by
    rw [← List.append_assoc whole, ← List.append_assoc (whole ++ point),
      ← List.append_assoc (whole ++ point ++ fraction), List.drop_left]
  unfold number
  dsimp only
  rw [hwhole, ht, List.drop_left]
  split
  · rename_i rest hrest
    have hx := h.not_hex rfl 'x' (by rw [hrest]; rfl)
    cases hx
  · rw [hpoint, List.drop_left, hfraction, if_neg hdot, hexp, h.exponent_eq, hlong]
    rcases h.long_form with hl | ⟨hl, hr⟩
    · simp [hl]
    · have hhead : r.head? ≠ some 'L' := fun hhead => nomatch hr 'L' hhead
      simp [hl, hhead]

theorem behind (h : NumberParts whole point fraction exp long r) {last : Char} {r' : Text}
    (hlast : isSeparator last = false) (hr : Behind last r r') :
    NumberParts whole point fraction exp long r' := by
  have hlacks : ∀ (p : Char → Bool) (a : Text), Lacks p (a ++ r) → Lacks p (a ++ r') := by
    intro p a ha
    cases a with
    | nil => exact hr.lacks (Or.inl hlast) ha
    | cons d a => exact ha
  have hexp_end : exp ≠ [] → Lacks Char.isDigit (long ++ r') :=
    fun hexp => hlacks _ _ (h.exp_end hexp)
  refine ⟨h.whole_digits, h.fraction_digits, ?_, ?_, hexp_end, ?_, ?_, fun hzero => ?_⟩
  · refine h.point_form.imp_right fun ⟨hp, hf, hdot⟩ => ⟨hp, hf, ?_⟩
    rw [← List.append_assoc] at hdot ⊢
    exact hlacks _ _ hdot
  · have hdigit := h.digits_end
    rw [← List.append_assoc] at hdigit ⊢
    exact hlacks _ _ hdigit
  · by_cases hexp : exp = []
    · subst hexp
      rcases h.long_form with rfl | ⟨rfl, -⟩
      · rfl
      · exact exponent_of_behind hlast hr h.exponent_eq
    · have happend := (exponent_append (t := exp ++ (long ++ r)) (by rw [h.exponent_eq]; exact hexp)).2.2
      rw [h.exponent_eq] at happend
      exact happend _ (hexp_end hexp)
  · exact h.long_form.imp_right fun ⟨hl, hr'⟩ => ⟨hl, hr.lacks (Or.inl hlast) hr'⟩
  · have hx := h.not_hex hzero
    simp only [← List.append_assoc] at hx ⊢
    exact hlacks _ _ hx

theorem isSeparator_getLast (h : NumberParts whole point fraction exp long r) {d : Char}
    (hd : (whole ++ (point ++ (fraction ++ (exp ++ long)))).getLast? = some d) :
    isSeparator d = false := by
  have hdigits : ∀ x : Text, (∀ c ∈ x, c.isDigit = true) → x.getLast? = some d → isSeparator d = false :=
    fun x hx hlast => isSeparator_of_isDigit (hx d (List.mem_of_getLast? hlast))
  simp only [List.getLast?_append, Option.or_eq_some_iff] at hd
  rcases hd with ((((hd | ⟨-, hd⟩) | ⟨-, hd⟩) | ⟨-, hd⟩) | ⟨-, hd⟩)
  · rcases h.long_form with rfl | ⟨rfl, -⟩ <;> cases hd
    rfl
  · have hexp : exp ≠ [] := by
      rintro rfl
      cases hd
    obtain ⟨d', hd', hdigit⟩ :=
      (exponent_append (t := exp ++ (long ++ r)) (by rw [h.exponent_eq]; exact hexp)).2.1
    rw [h.exponent_eq, hd] at hd'
    cases hd'
    exact isSeparator_of_isDigit hdigit
  · exact hdigits _ h.fraction_digits hd
  · rcases h.point_form with rfl | ⟨rfl, -, -⟩ <;> cases hd
    rfl
  · exact hdigits _ h.whole_digits hd

theorem exists_of_text (s : Text) (hhex : ∀ x, s ≠ '0' :: 'x' :: x) :
    ∃ whole point fraction exp long r, NumberParts whole point fraction exp long r ∧
      s = whole ++ (point ++ (fraction ++ (exp ++ (long ++ r)))) := by
  let whole := s.takeWhile Char.isDigit
  let rest := s.dropWhile Char.isDigit
  have hs : s = whole ++ rest := List.takeWhile_append_dropWhile.symm
  have hdigits : ∀ x : Text, ∀ d ∈ x.takeWhile Char.isDigit, d.isDigit = true :=
    fun x => List.all_eq_true.mp List.all_takeWhile
  obtain ⟨point, fraction, rest', hrest, hfraction, hpoint, hrest'⟩ :
      ∃ point fraction rest', rest = point ++ (fraction ++ rest') ∧
        (∀ d ∈ fraction, d.isDigit = true) ∧
        (point = ['.'] ∨ point = [] ∧ fraction = [] ∧ Lacks (· == '.') rest') ∧
        Lacks Char.isDigit rest' := by
    by_cases hdot : ['.'] <+: rest
    · obtain ⟨x, hx⟩ := hdot
      exact ⟨['.'], x.takeWhile Char.isDigit, x.dropWhile Char.isDigit, by simp [← hx], hdigits x,
        Or.inl rfl, lacks_dropWhile _ _⟩
    · exact ⟨[], [], rest, rfl, nofun, Or.inr ⟨rfl, rfl, lacks_of_not_isPrefix hdot⟩,
        lacks_dropWhile _ _⟩
  obtain ⟨exp, r, hexp, hend, hexponent⟩ :
      ∃ exp r, rest' = exp ++ r ∧ (exp ≠ [] → Lacks Char.isDigit r) ∧ exponent rest' = exp := by
    by_cases hnil : exponent rest' = []
    · exact ⟨[], rest', rfl, fun h => absurd rfl h, hnil⟩
    · obtain ⟨r, hr, hlacks⟩ := (exponent_append hnil).1
      exact ⟨exponent rest', r, hr, fun _ => hlacks, rfl⟩
  obtain ⟨long, r', hlong, hform⟩ :
      ∃ long r', r = long ++ r' ∧ (long = ['L'] ∨ long = [] ∧ Lacks (· == 'L') r') := by
    by_cases hl : ['L'] <+: r
    · obtain ⟨x, hx⟩ := hl
      exact ⟨['L'], x, hx.symm, Or.inl rfl⟩
    · exact ⟨[], r, rfl, Or.inr ⟨rfl, lacks_of_not_isPrefix hl⟩⟩
  subst hlong hexp
  refine ⟨whole, point, fraction, exp, long, r', ⟨hdigits s, hfraction, hpoint, hrest', hend,
    hexponent, hform, fun hzero => ?_⟩, hs.trans (by rw [hrest])⟩
  rw [← hrest]
  refine lacks_of_not_isPrefix fun ⟨x, hx⟩ => hhex x ?_
  rw [hs, hzero, ← hx]
  rfl

end NumberParts

theorem number_point {t : Text} (h : Lacks Char.isDigit t) : number '.' t = (.symbol ".", 0) := by
  have hwhole : ('.' :: t).takeWhile Char.isDigit = [] := rfl
  unfold number
  dsimp only
  rw [hwhole]
  simp [takeWhile_eq_nil_iff.mpr h]

theorem number_hex {x : Text} : number '0' ('x' :: x) =
    (.string .hex (x.takeWhile isHexDigit), (x.takeWhile isHexDigit).length + 1) := by
  have hwhole : ('0' :: 'x' :: x).takeWhile Char.isDigit = ['0'] := rfl
  unfold number
  dsimp only
  rw [hwhole]
  rfl

theorem number_hex_local {x : Text} : Local (fun t => some (number '0' t)) '0' ('x' :: x) := by
  refine Local.of_pair ?_
  rw [number_hex]
  refine ⟨'x' :: x.takeWhile isHexDigit, x.dropWhile isHexDigit, by simp, by simp, fun r' hr' => ?_⟩
  have hdigits : ∀ d ∈ x.takeWhile isHexDigit, isHexDigit d = true :=
    List.all_eq_true.mp List.all_takeWhile
  have hlast : isSeparator (('x' :: x.takeWhile isHexDigit).getLastD '0') = false := by
    refine isSeparator_getLastD rfl fun d hd => ?_
    rcases List.mem_cons.mp hd with rfl | hd
    · rfl
    · exact isSeparator_of_isHexDigit (hdigits d hd)
  rw [List.cons_append, number_hex,
    takeWhile_eq_of_lacks hdigits (hr'.lacks (Or.inl hlast) (lacks_dropWhile _ _))]

theorem number_point_local {t : Text} (h : Lacks Char.isDigit t) :
    Local (fun t => some (number '.' t)) '.' t := by
  refine Local.of_pair ?_
  rw [number_point h]
  exact ⟨[], t, rfl, rfl, fun r' hr' => number_point (hr'.lacks (Or.inl rfl) h)⟩

namespace NumberParts

variable {whole point fraction exp long r : Text}

theorem digits_ne_nil (h : NumberParts whole point fraction exp long r) {c : Char} {t : Text}
    (hc : c.isDigit = true ∨ c = '.') (ht : c :: t = whole ++ point ++ fraction ++ (exp ++ (long ++ r))) :
    whole ++ point ++ fraction ≠ [] := by
  intro hnil
  rw [hnil, List.nil_append] at ht
  have hp : point = [] := (List.append_eq_nil_iff.mp (List.append_eq_nil_iff.mp hnil).1).2
  rcases h.point_form with hp' | ⟨-, -, hlacks⟩
  · rw [hp] at hp'
    cases hp'
  · have hdigit := h.digits_end
    rw [← ht, lacks_cons] at hlacks hdigit
    rcases hc with hc | rfl
    · rw [hc] at hdigit
      cases hdigit
    · cases hlacks

theorem number_local (h : NumberParts whole point fraction exp long r) {c : Char} {t : Text}
    (ht : c :: t = whole ++ (point ++ (fraction ++ (exp ++ (long ++ r)))))
    (hne : whole ++ point ++ fraction ≠ []) (hdot : whole ++ point ++ fraction ≠ ['.']) :
    Local (fun t => some (number c t)) c t := by
  refine Local.of_pair ?_
  rw [h.number_eq ht hdot]
  obtain ⟨u, hu⟩ : ∃ u, (whole ++ point ++ fraction) ++ (exp ++ long) = c :: u := by
    obtain ⟨d, w, hw⟩ := List.exists_cons_of_ne_nil hne
    rw [← List.append_assoc, ← List.append_assoc, hw] at ht
    rw [hw]
    cases ht
    exact ⟨w ++ (exp ++ long), rfl⟩
  have hu' : ∀ r, c :: (u ++ r) = whole ++ (point ++ (fraction ++ (exp ++ (long ++ r)))) := by
    intro r
    rw [← List.cons_append, ← hu]
    simp only [List.append_assoc]
  refine ⟨u, r, List.cons_inj_right c |>.mp (ht.trans (hu' r).symm), ?_, fun r' hr' => ?_⟩
  · have hlen := congrArg List.length hu
    have hpos := List.length_pos_iff.mpr hne
    simp only [List.length_append, List.length_cons] at hlen hpos ⊢
    omega
  · have hlast : isSeparator (u.getLastD c) = false := by
      refine h.isSeparator_getLast ?_
      have hnil := hu' []
      simp only [List.append_nil] at hnil
      rw [← hnil, List.getLast?_cons, List.getLastD_eq_getLast?]
    exact (h.behind hlast hr').number_eq (hu' r') hdot

end NumberParts

theorem number_local {c : Char} {t : Text} (hc : c.isDigit = true ∨ c = '.') :
    Local (fun t => some (number c t)) c t := by
  by_cases hhex : ∃ x, c :: t = '0' :: 'x' :: x
  · obtain ⟨x, ⟨⟩⟩ := hhex
    exact number_hex_local
  by_cases hpoint : c = '.' ∧ Lacks Char.isDigit t
  · obtain ⟨rfl, ht⟩ := hpoint
    exact number_point_local ht
  · obtain ⟨whole, point, fraction, exp, long, r, hparts, ht⟩ :=
      NumberParts.exists_of_text (c :: t) fun x hx => hhex ⟨x, hx⟩
    have ht' : c :: t = whole ++ point ++ fraction ++ (exp ++ (long ++ r)) := by
      simpa only [List.append_assoc] using ht
    have hdot : whole ++ point ++ fraction ≠ ['.'] := by
      intro hdot
      rw [hdot] at ht'
      cases ht'
      exact hpoint ⟨rfl, hparts.digits_end⟩
    exact hparts.number_local ht (hparts.digits_ne_nil hc ht') hdot

def isTagPart (c : Char) : Bool :=
  Text.isAlphanumeric c || c == '_'

theorem isSeparator_of_isTagPart {c : Char} (h : isTagPart c = true) : isSeparator c = false := by
  rcases Bool.or_eq_true_iff.mp h with h | h
  · simp [isSeparator, h]
  · simp [isSeparator, eq_of_beq h]

theorem lacks_dollar_of_tag {tag r : Text} (htag : ∀ d ∈ tag, isTagPart d = true)
    (hr : tag = [] → Lacks (· == '$') r) : Lacks (· == '$') (tag ++ r) := by
  cases tag with
  | nil => exact hr rfl
  | cons d tag =>
    refine lacks_cons.mpr (Bool.eq_false_iff.mpr fun hd => ?_)
    rw [eq_of_beq hd] at htag
    cases htag '$' (by simp)

theorem dollar_tagged {tag : Text} (htag : ∀ d ∈ tag, isTagPart d = true) (hne : tag ≠ []) (x : Text) :
    dollar (tag ++ '$' :: x) = (taggedBody tag (x.length + 1) x).map fun p =>
      (.string (.dollar tag) p.1, p.2 + tag.length + 1) := by
  have htake : (tag ++ '$' :: x).takeWhile (fun c => Text.isAlphanumeric c || c == '_') = tag :=
    takeWhile_eq_of_lacks htag (lacks_cons.mpr rfl)
  have hhead := lacks_dollar_of_tag (r := '$' :: x) htag fun hnil => absurd hnil hne
  unfold dollar
  split
  · rename_i t ht
    rw [ht] at hhead
    cases lacks_cons.mp hhead
  · dsimp only
    rw [htake, List.drop_left]
    rfl

theorem dollar_placeholder {tag r : Text} (htag : ∀ d ∈ tag, isTagPart d = true)
    (hr : Lacks isTagPart r) (hdollar : Lacks (· == '$') r) :
    dollar (tag ++ r) = some (.placeholder ('$' :: tag), tag.length) := by
  have htake : (tag ++ r).takeWhile (fun c => Text.isAlphanumeric c || c == '_') = tag :=
    takeWhile_eq_of_lacks htag hr
  have hhead := lacks_dollar_of_tag htag fun _ => hdollar
  unfold dollar
  split
  · rename_i t ht
    rw [ht] at hhead
    cases lacks_cons.mp hhead
  · dsimp only
    rw [htake, List.drop_left]
    split
    · cases lacks_cons.mp hdollar
    · rfl

theorem dollar_local {t : Text} : Local dollar '$' t := by
  by_cases hdollar : ['$'] <+: t
  · obtain ⟨t, rfl⟩ := hdollar
    exact Local.of_scans (a := ['$']) (g := fun _ => dollarBody false) _ _ (fun x => rfl)
      (fun v n => dollarBody_scans) (fun _ _ _ _ => trivial)
  let tag := t.takeWhile isTagPart
  have htag : ∀ d ∈ tag, isTagPart d = true := List.all_eq_true.mp List.all_takeWhile
  have ht : t = tag ++ t.dropWhile isTagPart := List.takeWhile_append_dropWhile.symm
  by_cases hquote : ['$'] <+: t.dropWhile isTagPart
  · obtain ⟨x, hx⟩ := hquote
    have hne : tag ≠ [] := by
      intro hnil
      rw [hnil, ← hx] at ht
      exact hdollar ⟨x, ht.symm⟩
    rw [ht, ← hx, ← List.append_assoc]
    have hf : ∀ x, dollar (tag ++ ['$'] ++ x) = (taggedBody tag (x.length + 1) x).map fun p =>
        (.string (.dollar tag) p.1, p.2 + (tag ++ ['$']).length) := by
      intro x
      rw [List.append_assoc, List.singleton_append, dollar_tagged htag hne]
      simp [Nat.add_assoc]
    exact Local.of_scans (.string (.dollar tag)) '$' hf (fun v n => taggedBody_scans) (fun _ _ _ _ => trivial)
  · have hend : Lacks isTagPart (t.dropWhile isTagPart) := lacks_dropWhile _ _
    have hdollar := lacks_of_not_isPrefix hquote
    intro token n h
    rw [ht, dollar_placeholder htag hend hdollar] at h
    cases h
    refine ⟨tag, t.dropWhile isTagPart, ht, rfl, fun r' hr' => ?_⟩
    have hlast : isSeparator (tag.getLastD '$') = false :=
      isSeparator_getLastD rfl fun d hd => isSeparator_of_isTagPart (htag d hd)
    exact dollar_placeholder htag (hr'.lacks (Or.inl hlast) hend) (hr'.lacks (Or.inl hlast) hdollar)

theorem isFresh_of_mem_operators {op : Text} {glues : Bool} (h : (op, glues) ∈ operators) :
    op ≠ [] ∧ op.any isFresh = false := by
  have hall : ∀ o ∈ operators, o.1 ≠ [] ∧ o.1.any isFresh = false := by decide
  exact hall _ h

theorem find_operator {s s' : Text} {o : Text × Bool}
    (h : operators.find? (fun (op, _) => op.isPrefixOf s) = some o) (ho : o.1 <+: s')
    (hback : ∀ o ∈ operators, o.1 <+: s' → o.1 <+: s) :
    operators.find? (fun (op, _) => op.isPrefixOf s') = some o := by
  obtain ⟨-, before, after, hlist, hbefore⟩ := List.find?_eq_some_iff_append.mp h
  refine List.find?_eq_some_iff_append.mpr
    ⟨List.isPrefixOf_iff_prefix.mpr ho, before, after, hlist, fun x hx => ?_⟩
  have hx' : x.1.isPrefixOf s = false := (Bool.not_eq_true' _).mp (hbefore x hx)
  refine (Bool.not_eq_true' _).mpr (Bool.eq_false_iff.mpr fun hpre => ?_)
  have hmem : x ∈ operators := by
    rw [hlist]
    exact List.mem_append_left _ hx
  rw [List.isPrefixOf_iff_prefix.mpr (hback x hmem (List.isPrefixOf_iff_prefix.mp hpre))] at hx'
  cases hx'

theorem operator_of_find {c : Char} {t op more r : Text} {glues : Bool}
    (h : operators.find? (fun (op, _) => op.isPrefixOf (c :: t)) = some (op, glues))
    (ht : c :: t = op ++ (more ++ r))
    (hmore : if glues then (∀ d ∈ more, isOperatorPart d = true) ∧ Lacks isOperatorPart r else more = []) :
    operator c t = (.symbol (op ++ more).toString, (op ++ more).length - 1) := by
  unfold operator
  rw [h, ht]
  dsimp only
  rw [List.drop_left]
  cases glues with
  | false =>
    obtain rfl := hmore
    rfl
  | true => rw [if_pos rfl, takeWhile_eq_of_lacks hmore.1 hmore.2]

theorem operator_local {c : Char} {t : Text} : Local (fun t => some (operator c t)) c t := by
  refine Local.of_pair ?_
  have hback : ∀ {last u r r'}, Behind last r r' → ∀ o ∈ operators, o.1 <+: c :: (u ++ r') →
      o.1 <+: c :: (u ++ r) := by
    intro last u r r' hr o ho hpre
    exact hr.isPrefixOf (a := c :: u) (isFresh_of_mem_operators ho).2 hpre
  rcases hfind : operators.find? (fun (op, _) => op.isPrefixOf (c :: t)) with _ | ⟨op, glues⟩
  · have hnone := List.find?_eq_none.mp hfind
    refine ⟨[], t, rfl, by simp [operator, hfind], fun r' hr' => ?_⟩
    have hfind' : operators.find? (fun (op, _) => op.isPrefixOf (c :: r')) = none :=
      List.find?_eq_none.mpr fun o ho hpre => hnone o ho
        (List.isPrefixOf_iff_prefix.mpr (hback (u := []) hr' o ho (List.isPrefixOf_iff_prefix.mp hpre)))
    simp [operator, hfind, hfind']
  · obtain ⟨hop, -⟩ := List.find?_eq_some_iff_append.mp hfind
    obtain ⟨rest, hrest⟩ := List.isPrefixOf_iff_prefix.mp hop
    obtain ⟨hne, -⟩ := isFresh_of_mem_operators (List.mem_of_find?_eq_some hfind)
    obtain ⟨more, r, rfl, hmore⟩ : ∃ more r, rest = more ++ r ∧
        if glues then (∀ d ∈ more, isOperatorPart d = true) ∧ Lacks isOperatorPart r else more = [] := by
      cases glues with
      | false => exact ⟨[], rest, rfl, rfl⟩
      | true => exact ⟨rest.takeWhile isOperatorPart, rest.dropWhile isOperatorPart, by simp,
          List.all_eq_true.mp List.all_takeWhile, lacks_dropWhile _ _⟩
    obtain ⟨d, op', rfl⟩ := List.exists_cons_of_ne_nil hne
    cases hrest
    rw [operator_of_find hfind rfl hmore]
    refine ⟨op' ++ more, r, by simp, by simp, fun r' hr' => ?_⟩
    have hfind' : operators.find? (fun (op, _) => op.isPrefixOf (c :: (op' ++ more ++ r'))) =
        some (c :: op', glues) :=
      find_operator hfind (by simp) fun o ho hpre => by simpa using hback hr' o ho hpre
    refine operator_of_find (r := r') hfind' (by simp) ?_
    cases glues with
    | false => exact hmore
    | true => exact ⟨hmore.1, hr'.lacks (Or.inr fun _ => isFresh_of_isOperatorPart) hmore.2⟩

theorem lineComment_append (t : Text) :
    ∃ r, t = lineComment t ++ r ∧ (r = [] ∨ ∀ r', lineComment (lineComment t ++ r') = lineComment t) := by
  induction t with
  | nil => exact ⟨[], rfl, Or.inl rfl⟩
  | cons c t ih =>
    by_cases hc : c = '\n'
    · refine ⟨t, ?_, Or.inr fun r' => ?_⟩
      · rw [lineComment, if_pos hc]
        rfl
      · simp [lineComment, hc]
    · obtain ⟨r, hr, hend⟩ := ih
      refine ⟨r, ?_, hend.imp_right fun hend r' => ?_⟩
      · rw [lineComment, if_neg hc, List.cons_append, ← hr]
      · rw [lineComment, if_neg hc, List.cons_append, lineComment, if_neg hc, hend]

theorem questionMark_local {t : Text} : Local (fun t => some (questionMark t)) '?' t := by
  refine Local.of_pair ?_
  cases t with
  | nil =>
    refine ⟨[], [], rfl, rfl, fun r' hr' => ?_⟩
    rw [hr'.eq_nil]
    rfl
  | cons c t =>
    refine ⟨[c], t, rfl, ?_, fun r' _ => ?_⟩
    · unfold questionMark
      split <;> first | rfl | contradiction
    · rw [List.singleton_append]
      unfold questionMark
      split <;> simp_all

theorem Local.of_eq {f g : Text → Option (Token × Nat)} {c : Char} {t : Text} (h : ∀ t, f t = g t)
    (hg : Local g c t) : Local f c t := by
  rwa [funext h]

theorem Local.of_prefix {f g : Text → Option (Token × Nat)} {c : Char} {t : Text} (marks : List Text)
    (hmarks : ∀ m ∈ marks, m.any isFresh = false)
    (h : ∀ t, (∀ m ∈ marks, ¬ m <+: t) → f t = g t) (ht : ∀ m ∈ marks, ¬ m <+: t)
    (hg : Local g c t) : Local f c t := by
  intro token n hf
  rw [h t ht] at hf
  obtain ⟨u, r, rfl, hn, hu⟩ := hg token n hf
  refine ⟨u, r, rfl, hn, fun r' hr' => ?_⟩
  rw [h (u ++ r') fun m hm hpre => ht m hm (hr'.isPrefixOf (hmarks m hm) hpre)]
  exact hu r' hr'

theorem head?_eq_some_iff_isPrefix {q : Char} {t : Text} : t.head? = some q ↔ [q] <+: t := by
  cases t with
  | nil => simp
  | cons c t => simp [eq_comm]

theorem blank_local {c : Char} {t : Text} : Local (fun _ => some (.blank, 0)) c t :=
  Local.of_pair ⟨[], t, rfl, rfl, fun _ _ => rfl⟩

theorem return_local {t : Text} : Local (step '\r') '\r' t := by
  by_cases hline : ['\n'] <+: t
  · obtain ⟨t, rfl⟩ := hline
    rintro token n ⟨⟩
    exact ⟨['\n'], t, rfl, rfl, fun r' _ => rfl⟩
  · have hstep : ∀ t : Text, ¬ ['\n'] <+: t → step '\r' t = some (.blank, 0) := by
      intro t ht
      have hhead : t.head? ≠ some '\n' := fun h => ht (head?_eq_some_iff_isPrefix.mp h)
      rw [step, if_neg (by decide), if_pos rfl, if_neg hhead]
    exact Local.of_prefix [['\n']] (by decide) (fun t ht => hstep t (ht _ (by simp)))
      (by simpa using hline) blank_local

theorem hyphen_local {t : Text} : Local (step '-') '-' t := by
  by_cases hcomment : ['-'] <+: t
  · obtain ⟨t, rfl⟩ := hcomment
    rintro token n ⟨⟩
    obtain ⟨r, hr, hend⟩ := lineComment_append t
    refine ⟨'-' :: lineComment t, r, congrArg ('-' :: ·) hr, rfl, fun r' hr' => ?_⟩
    have hcomment : lineComment (lineComment t ++ r') = lineComment t := by
      rcases hend with rfl | hend
      · rw [hr'.eq_nil, List.append_nil]
        rw [List.append_nil] at hr
        rw [← hr, ← hr]
      · exact hend r'
    have hstep : step '-' ('-' :: (lineComment t ++ r')) =
        some (.comment (lineComment (lineComment t ++ r')),
          (lineComment (lineComment t ++ r')).length + 1) := rfl
    rw [List.cons_append, hstep, hcomment]
    rfl
  · have hstep : ∀ t : Text, ¬ ['-'] <+: t → step '-' t = some (operator '-' t) := by
      intro t ht
      have hhead : t.head? ≠ some '-' := fun h => ht (head?_eq_some_iff_isPrefix.mp h)
      simp [step, hhead, show isWordStart '-' = false from rfl, show Text.isBlank '-' = false from rfl]
    exact Local.of_prefix [['-']] (by decide) (fun t ht => hstep t (ht _ (by simp)))
      (by simpa using hcomment) operator_local

theorem slash_local {t : Text} : Local (step '/') '/' t := by
  by_cases hcomment : ['*'] <+: t
  · obtain ⟨t, rfl⟩ := hcomment
    exact Local.of_scans (a := ['*']) (g := fun _ => blockComment 1 ' ') (fun v => .comment v.dropLast) _
      (fun x => rfl) (fun v n => blockComment_scans) (fun _ _ _ _ => trivial)
  · have hstep : ∀ t : Text, ¬ ['*'] <+: t → step '/' t = some (operator '/' t) := by
      intro t ht
      have hhead : t.head? ≠ some '*' := fun h => ht (head?_eq_some_iff_isPrefix.mp h)
      simp [step, hhead, show isWordStart '/' = false from rfl, show Text.isBlank '/' = false from rfl]
    exact Local.of_prefix [['*']] (by decide) (fun t ht => hstep t (ht _ (by simp)))
      (by simpa using hcomment) operator_local

theorem step_of_isWordStart {c : Char} (h : isWordStart c = true) (t : Text) :
    step c t = wordOrString c t := by
  have hne : ∀ d : Char, isWordStart d = false → c ≠ d := by
    rintro d hd rfl
    rw [h] at hd
    cases hd
  rw [step, if_neg (by simp [hne ' ' rfl, hne '\t' rfl, hne '\n' rfl]), if_neg (hne '\r' rfl), if_pos h]

theorem step_local {c : Char} {t : Text} : Local (step c) c t := by
  by_cases hblank : (c = ' ' || c = '\t' || c = '\n') = true
  · exact Local.of_eq (fun t => if_pos hblank) blank_local
  by_cases hreturn : c = '\r'
  · subst hreturn
    exact return_local
  by_cases hword : isWordStart c = true
  · exact Local.of_eq (step_of_isWordStart hword) (wordOrString_local hword)
  by_cases hsingle : c = '\''
  · subst hsingle
    exact Local.of_scans (a := []) (g := fun _ => quotedBody '\'') _ _ (fun x => rfl)
      (fun v n => quotedBody_scans) (notHead_of_behind rfl)
  by_cases hdouble : c = '"'
  · subst hdouble
    exact Local.of_scans (a := []) (g := fun _ => quotedBody '"') (fun v => .word (.ofQuoted v)) _
      (fun x => rfl) (fun v n => quotedBody_scans) (notHead_of_behind rfl)
  by_cases hnumber : (c.isDigit || c = '.') = true
  · refine Local.of_eq (fun t => ?_) (number_local (by simpa using hnumber))
    rw [step, if_neg hblank, if_neg hreturn, if_neg hword, if_neg hsingle, if_neg hdouble, if_pos hnumber]
  by_cases hhyphen : c = '-'
  · subst hhyphen
    exact hyphen_local
  by_cases hslash : c = '/'
  · subst hslash
    exact slash_local
  by_cases hdollar : c = '$'
  · subst hdollar
    exact Local.of_eq (fun t => rfl) dollar_local
  by_cases hquestion : c = '?'
  · subst hquestion
    exact Local.of_eq (fun t => rfl) questionMark_local
  have hstep : ∀ t, step c t =
      if Text.isBlank c = true then some (.blank, 0) else some (operator c t) := by
    intro t
    rw [step, if_neg hblank, if_neg hreturn, if_neg hword, if_neg hsingle, if_neg hdouble,
      if_neg hnumber, if_neg (by simp [hhyphen]), if_neg (by simp [hslash]), if_neg hdollar,
      if_neg hquestion]
  by_cases hspace : Text.isBlank c = true
  · exact Local.of_eq (fun t => (hstep t).trans (if_pos hspace)) blank_local
  · exact Local.of_eq (fun t => (hstep t).trans (if_neg hspace)) operator_local

end TypedSql.Lexer
