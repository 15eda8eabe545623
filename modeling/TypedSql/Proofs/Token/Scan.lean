import TypedSql.Token.Lexer

/-!
# How far a scanner looks

The scanners of the lexer read a text from left to right. What one answers depends on the characters that
it takes and at most on the character behind them, so the text after a quoted text, a string or a comment
may be any other that does not go on with it.
-/

namespace TypedSql.Lexer

/-- The scanner `f` takes a part of `t` that ends in `last`, and would take the same part if another
admissible text stood behind it. Scanners with a limit on their steps have it as the first argument. -/
def Scans (f : Nat → Text → Option (Text × Nat)) (last : Char) (ok : Text → Prop) (t v : Text)
    (n : Nat) : Prop :=
  ∃ u r, t = u ++ r ∧ u.length = n ∧ u.getLast? = some last ∧ ok r ∧
    ∀ fuel r', n ≤ fuel → ok r' → f fuel (u ++ r') = some (v, n)

def NotHead (q : Char) (t : Text) : Prop :=
  t.head? ≠ some q

theorem notHead_iff {q : Char} {t : Text} : NotHead q t ↔ ∀ t', t = q :: t' → False := by
  cases t with
  | nil => simp [NotHead]
  | cons c t => simp [NotHead]

section

variable {f g : Nat → Text → Option (Text × Nat)} {last : Char} {ok : Text → Prop} {t v : Text} {n : Nat}

theorem Scans.prepend (h : Scans g last ok t v n) {a : Text} (w : Text → Text) (ha : a ≠ [])
    (hf : ∀ fuel x, x.head? = t.head? →
      f (fuel + 1) (a ++ x) = (g fuel x).map fun p => (w p.1, p.2 + a.length)) :
    Scans f last ok (a ++ t) (w v) (n + a.length) := by
  obtain ⟨u, r, rfl, rfl, hlast, hok, hscan⟩ := h
  have hne : u ≠ [] := by
    rintro rfl
    cases hlast
  refine ⟨a ++ u, r, by simp, by simp [Nat.add_comm], ?_, hok, ?_⟩
  · rw [List.getLast?_append, hlast]
    rfl
  · intro fuel r' hfuel hok'
    have hpos : 0 < a.length := List.length_pos_iff.mpr ha
    obtain ⟨fuel, rfl⟩ : ∃ k, fuel = k + 1 := ⟨fuel - 1, by omega⟩
    have hhead : (u ++ r').head? = (u ++ r).head? := by
      cases u with
      | nil => exact absurd rfl hne
      | cons c u => rfl
    rw [List.append_assoc, hf fuel _ hhead, hscan fuel r' (by omega) hok']
    rfl

theorem Scans.stop {a r : Text} (ha : a.getLast? = some last) (hok : ok r)
    (hf : ∀ fuel r', ok r' → f (fuel + 1) (a ++ r') = some (v, a.length)) :
    Scans f last ok (a ++ r) v a.length := by
  refine ⟨a, r, rfl, rfl, ha, hok, ?_⟩
  intro fuel r' hfuel hok'
  have hpos : 0 < a.length := by
    cases a with
    | nil => cases ha
    | cons c a => simp
  obtain ⟨fuel, rfl⟩ : ∃ k, fuel = k + 1 := ⟨fuel - 1, by omega⟩
  exact hf fuel r' hok'

end

theorem quotedBody_stop {q : Char} {r : Text} (hr : NotHead q r) :
    quotedBody q (q :: r) = some ([], 1) := by
  cases r with
  | nil => simp [quotedBody]
  | cons e r =>
    have he : e ≠ q := by simpa [NotHead] using hr
    simp [quotedBody, he]

theorem quotedBody_scans {q : Char} {t v : Text} {n : Nat} (h : quotedBody q t = some (v, n)) :
    Scans (fun _ => quotedBody q) q (NotHead q) t v n := by
  fun_induction quotedBody q t generalizing v n with
  | case1 => cases h
  | case2 t ih =>
    obtain ⟨⟨v, n⟩, hbody, ⟨⟩⟩ := Option.map_eq_some_iff.mp h
    refine (ih hbody).prepend (a := [q, q]) (q :: ·) (by simp) fun _ x _ => ?_
    simp [quotedBody]
  | case3 d t hd =>
    cases h
    exact Scans.stop (a := [q]) rfl (by simpa [NotHead] using hd) fun _ r hr => quotedBody_stop hr
  | case4 =>
    cases h
    exact Scans.stop (a := [q]) (r := []) rfl nofun fun _ r hr => quotedBody_stop hr
  | case5 c t hc ih =>
    obtain ⟨⟨v, n⟩, hbody, ⟨⟩⟩ := Option.map_eq_some_iff.mp h
    refine (ih hbody).prepend (a := [c]) (c :: ·) (by simp) fun _ x _ => ?_
    rw [List.singleton_append, quotedBody.eq_def]
    simp [hc]

theorem backslashBody_scans {t v : Text} {n : Nat} (h : backslashBody t = some (v, n)) :
    Scans (fun _ => backslashBody) '\'' (NotHead '\'') t v n := by
  fun_induction backslashBody t generalizing v n with
  | case1 => cases h
  | case2 t ih =>
    obtain ⟨⟨v, n⟩, hbody, ⟨⟩⟩ := Option.map_eq_some_iff.mp h
    refine (ih hbody).prepend (a := ['\'', '\'']) ('\'' :: ·) (by simp) fun _ x _ => ?_
    simp [backslashBody]
  | case3 t ht =>
    cases h
    refine Scans.stop (a := ['\'']) rfl (notHead_iff.mpr ht) fun _ r hr => ?_
    have hr := notHead_iff.mp hr
    simp [backslashBody]
  | case4 c t ih =>
    obtain ⟨⟨v, n⟩, hbody, ⟨⟩⟩ := Option.map_eq_some_iff.mp h
    refine (ih hbody).prepend (a := ['\\', c]) (simpleEscape c :: ·) (by simp) fun _ x _ => ?_
    simp [backslashBody]
  | case5 => cases h
  | case6 c t _ hq hcons hnil ih =>
    obtain ⟨⟨v, n⟩, hbody, ⟨⟩⟩ := Option.map_eq_some_iff.mp h
    have hslash : c ≠ '\\' := by
      rintro rfl
      cases t with
      | nil => exact hnil rfl rfl
      | cons d t => exact hcons d t rfl rfl
    refine (ih hbody).prepend (a := [c]) (c :: ·) (by simp) fun _ x _ => ?_
    rw [List.singleton_append, backslashBody.eq_def]
    split <;> simp_all

theorem dollarBody_scans {dollar : Bool} {t v : Text} {n : Nat}
    (h : dollarBody dollar t = some (v, n)) :
    Scans (fun _ => dollarBody dollar) '$' (fun _ => True) t v n := by
  fun_induction dollarBody dollar t generalizing v n with
  | case1 => cases h
  | case2 t =>
    cases h
    exact Scans.stop (a := ['$']) rfl trivial fun _ r _ => by simp [dollarBody]
  | case3 c t hc ih =>
    obtain ⟨⟨v, n⟩, hbody, ⟨⟩⟩ := Option.map_eq_some_iff.mp h
    refine (ih hbody).prepend (a := [c]) ('$' :: c :: ·) (by simp) fun _ x _ => ?_
    simp [dollarBody, hc]
  | case4 dollar t hdollar ih =>
    obtain ⟨⟨v, n⟩, hbody, ⟨⟩⟩ := Option.map_eq_some_iff.mp h
    refine (ih hbody).prepend (a := ['$']) id (by simp) fun _ x _ => ?_
    simp [dollarBody, hdollar]
  | case5 dollar c t hdollar hc ih =>
    obtain ⟨⟨v, n⟩, hbody, ⟨⟩⟩ := Option.map_eq_some_iff.mp h
    refine (ih hbody).prepend (a := [c]) (c :: ·) (by simp) fun _ x _ => ?_
    simp [dollarBody, hdollar, hc]

theorem blockComment_scans {depth : Nat} {last : Char} {t v : Text} {n : Nat}
    (h : blockComment depth last t = some (v, n)) :
    Scans (fun _ => blockComment depth last) '/' (fun _ => True) t v n := by
  fun_induction blockComment depth last t generalizing v n with
  | case1 => cases h
  | case2 depth last c t hopen ih =>
    obtain ⟨⟨v, n⟩, hbody, ⟨⟩⟩ := Option.map_eq_some_iff.mp h
    refine (ih hbody).prepend (a := [c]) (c :: ·) (by simp) fun _ x _ => ?_
    rw [List.singleton_append, blockComment, if_pos hopen]
    rfl
  | case3 depth last c t hopen hclose hdepth =>
    cases h
    have hc : c = '/' := by
      simp only [Bool.and_eq_true, decide_eq_true_eq] at hclose
      exact hclose.2
    refine Scans.stop (a := [c]) (by rw [hc]; rfl) trivial fun _ r _ => ?_
    rw [List.singleton_append, blockComment, if_neg hopen, if_pos hclose, if_pos hdepth]
    rfl
  | case4 depth last c t hopen hclose hdepth ih =>
    obtain ⟨⟨v, n⟩, hbody, ⟨⟩⟩ := Option.map_eq_some_iff.mp h
    refine (ih hbody).prepend (a := [c]) (c :: ·) (by simp) fun _ x _ => ?_
    rw [List.singleton_append, blockComment, if_neg hopen, if_pos hclose, if_neg hdepth]
    rfl
  | case5 depth last c t hopen hclose ih =>
    obtain ⟨⟨v, n⟩, hbody, ⟨⟩⟩ := Option.map_eq_some_iff.mp h
    refine (ih hbody).prepend (a := [c]) (c :: ·) (by simp) fun _ x _ => ?_
    rw [List.singleton_append, blockComment, if_neg hopen, if_neg hclose]
    rfl

theorem takeWhile_take_scan {p : Char → Bool} {t b : Text} {m : Nat}
    (hb : b.head? = (t.drop ((t.take m).takeWhile p).length).head?) :
    (((t.take m).takeWhile p ++ b).take m).takeWhile p = (t.take m).takeWhile p := by
  induction m generalizing t with
  | zero => simp
  | succ m ih =>
    cases t with
    | nil =>
      have hb : b = [] := by simpa using hb
      simp [hb]
    | cons c t =>
      by_cases hc : p c = true
      · simp only [List.take_succ_cons, List.takeWhile_cons, hc, if_true, List.length_cons,
          List.drop_succ_cons, List.cons_append] at hb ⊢
        rw [ih hb]
      · have hb : b.head? = some c := by simpa [hc] using hb
        cases b with
        | nil => cases hb
        | cons d b =>
          cases hb
          simp [hc]

theorem takeWhile_take_append (p : Char → Bool) (t : Text) (m : Nat) :
    (t.take m).takeWhile p ++ t.drop ((t.take m).takeWhile p).length = t :=
  List.prefix_iff_eq_append.mp ((List.takeWhile_prefix p).trans (List.take_prefix m t))

theorem unicodeEscape_take {count : Nat} {t t' : Text} (h : t.take count = t'.take count) :
    unicodeEscape count t = unicodeEscape count t' := by
  simp only [unicodeEscape, h]

theorem unicodeEscape_count {count : Nat} {t : Text} {d : Char} {k : Nat}
    (h : unicodeEscape count t = some (d, k)) : k = count ∧ count ≤ t.length := by
  unfold unicodeEscape at h
  dsimp only at h
  split at h
  · cases h
  · rename_i hlen
    rw [List.length_take] at hlen
    split at h
    all_goals
      split at h
      · cases h
      · obtain ⟨_, _, ⟨⟩⟩ := Option.map_eq_some_iff.mp h
        exact ⟨rfl, by omega⟩

theorem take_take_append {t b : Text} {m : Nat} (h : m ≤ t.length) :
    (t.take m ++ b).take m = t.take m := by
  rw [List.take_append_of_le_length (by rw [List.length_take]; omega), List.take_take, Nat.min_self]

theorem escape_octal {c : Char} (hc : isOctalDigit c = true) (t : Text) :
    escape (c :: t) = (byteEscape 8 (c :: (t.take 2).takeWhile isOctalDigit)).map
      (·, (c :: (t.take 2).takeWhile isOctalDigit).length) := by
  rw [escape.eq_def]
  dsimp only
  split
  case h_9 => rw [if_pos hc]
  all_goals cases hc

def Escapes (t : Text) (d : Char) (k : Nat) : Prop :=
  ∃ a b, t = a ++ b ∧ a.length = k ∧ a ≠ [] ∧ ∀ b', b'.head? = b.head? → escape (a ++ b') = some (d, k)

theorem escapes_one {c d : Char} (h : ∀ t, escape (c :: t) = some (d, 1)) (t : Text) :
    Escapes (c :: t) d 1 :=
  ⟨[c], t, rfl, rfl, by simp, fun b' _ => h b'⟩

theorem escapes_unicode {c d : Char} {count k : Nat} {t : Text}
    (hc : ∀ t, escape (c :: t) = (unicodeEscape count t).map fun p => (p.1, p.2 + 1))
    (h : (unicodeEscape count t).map (fun p => (p.1, p.2 + 1)) = some (d, k)) : Escapes (c :: t) d k := by
  obtain ⟨⟨d, k⟩, hcode, ⟨⟩⟩ := Option.map_eq_some_iff.mp h
  obtain ⟨rfl, hcount⟩ := unicodeEscape_count hcode
  refine ⟨c :: t.take k, t.drop k, by simp, by simp [hcount], by simp, fun b' _ => ?_⟩
  rw [List.cons_append, hc, unicodeEscape_take (take_take_append hcount), hcode]
  rfl

theorem escape_scan {t : Text} {d : Char} {k : Nat} (h : escape t = some (d, k)) : Escapes t d k := by
  revert h
  fun_cases escape t with
  | case1 => rintro ⟨⟩
  | case2 t | case3 t | case4 t | case5 t | case6 t =>
    rintro ⟨⟩
    exact escapes_one (fun t => by simp [escape]) t
  | case7 t => exact escapes_unicode fun t => by simp [escape]
  | case8 t => exact escapes_unicode fun t => by simp [escape]
  | case9 t digits hdigits =>
    rintro ⟨⟩
    refine ⟨['x'], t, rfl, rfl, by simp, fun b' hb' => ?_⟩
    have hnil : digits = [] := List.isEmpty_iff.mp hdigits
    have htake : (b'.take 2).takeWhile isHexDigit = [] := by
      have hscan := takeWhile_take_scan (p := isHexDigit) (t := t) (b := b') (m := 2)
      rw [show (t.take 2).takeWhile isHexDigit = [] from hnil] at hscan
      exact hscan hb'
    simp [escape, htake]
  | case10 t digits hdigits =>
    intro h
    obtain ⟨d, hbyte, ⟨⟩⟩ := Option.map_eq_some_iff.mp h
    refine ⟨'x' :: digits, t.drop digits.length, ?_, by simp, by simp, fun b' hb' => ?_⟩
    · rw [List.cons_append, takeWhile_take_append]
    · have htake : ((digits ++ b').take 2).takeWhile isHexDigit = digits := takeWhile_take_scan hb'
      simp only [List.cons_append, escape, htake, if_neg hdigits, hbyte]
      rfl
  | case11 t c _ _ _ _ _ _ _ _ hoctal digits =>
    intro h
    obtain ⟨_, _, ⟨⟩⟩ := Option.map_eq_some_iff.mp h
    let more := (t.take 2).takeWhile isOctalDigit
    refine ⟨c :: more, t.drop more.length, ?_, rfl, by simp, fun b' hb' => ?_⟩
    · rw [List.cons_append, takeWhile_take_append]
    · have htake : ((more ++ b').take 2).takeWhile isOctalDigit = more := takeWhile_take_scan hb'
      rw [List.cons_append, escape_octal hoctal, htake]
      exact h
  | case12 t c _ _ _ _ _ _ _ _ hoctal =>
    rintro ⟨⟩
    refine escapes_one (fun b' => ?_) t
    rw [escape.eq_def]
    split <;> simp_all

theorem escapedBody_scans {fuel : Nat} {t v : Text} {n : Nat} (h : escapedBody fuel t = some (v, n)) :
    Scans escapedBody '\'' (NotHead '\'') t v n := by
  fun_induction escapedBody fuel t generalizing v n with
  | case1 => cases h
  | case2 => cases h
  | case3 fuel t ih =>
    obtain ⟨⟨v, n⟩, hbody, ⟨⟩⟩ := Option.map_eq_some_iff.mp h
    refine (ih hbody).prepend (a := ['\'', '\'']) ('\'' :: ·) (by simp) fun _ x _ => ?_
    simp [escapedBody]
  | case4 fuel t ht =>
    cases h
    refine Scans.stop (a := ['\'']) rfl (notHead_iff.mpr ht) fun _ r hr => ?_
    have hr := notHead_iff.mp hr
    simp [escapedBody]
  | case5 fuel t hescape =>
    rw [hescape] at h
    cases h
  | case6 fuel t k hescape =>
    rw [hescape] at h
    cases h
  | case7 fuel t d k hescape hd ih =>
    rw [hescape] at h
    dsimp only at h
    rw [if_neg hd] at h
    obtain ⟨⟨v, n⟩, hbody, ⟨⟩⟩ := Option.map_eq_some_iff.mp h
    obtain ⟨a, b, rfl, rfl, -, hscan⟩ := escape_scan hescape
    rw [List.drop_left] at ih hbody
    refine (ih hbody).prepend (a := '\\' :: a) (d :: ·) (by simp) fun _ x hx => ?_
    simp only [List.cons_append, escapedBody, hscan x hx, if_neg hd, List.drop_left, List.length_cons]
    rfl
  | case8 fuel t c hq hslash _ ih =>
    obtain ⟨⟨v, n⟩, hbody, ⟨⟩⟩ := Option.map_eq_some_iff.mp h
    refine (ih hbody).prepend (a := [c]) (c :: ·) (by simp) fun _ x _ => ?_
    rw [List.singleton_append, escapedBody.eq_def]
    split <;> simp_all

theorem codePoint_scan {count : Nat} {t : Text} {d : Char} (h : codePoint count t = some d) :
    ∃ a b, t = a ++ b ∧ a.length = count ∧ ∀ b', codePoint count (a ++ b') = some d := by
  have hlen : count ≤ t.length := by
    unfold codePoint at h
    dsimp only at h
    split at h
    · cases h
    · rename_i hdigits
      simp at hdigits
      omega
  refine ⟨t.take count, t.drop count, by simp, by simp [hlen], fun b' => ?_⟩
  rw [← h]
  simp only [codePoint, take_take_append hlen]

theorem unicodeBody_scans {fuel : Nat} {t v : Text} {n : Nat} (h : unicodeBody fuel t = some (v, n)) :
    Scans unicodeBody '\'' (NotHead '\'') t v n := by
  fun_induction unicodeBody fuel t generalizing v n with
  | case1 => cases h
  | case2 => cases h
  | case3 fuel t ih =>
    obtain ⟨⟨v, n⟩, hbody, ⟨⟩⟩ := Option.map_eq_some_iff.mp h
    refine (ih hbody).prepend (a := ['\'', '\'']) ('\'' :: ·) (by simp) fun _ x _ => ?_
    simp [unicodeBody]
  | case4 fuel t ht =>
    cases h
    refine Scans.stop (a := ['\'']) rfl (notHead_iff.mpr ht) fun _ r hr => ?_
    have hr := notHead_iff.mp hr
    simp [unicodeBody]
  | case5 fuel t ih =>
    obtain ⟨⟨v, n⟩, hbody, ⟨⟩⟩ := Option.map_eq_some_iff.mp h
    refine (ih hbody).prepend (a := ['\\', '\\']) ('\\' :: ·) (by simp) fun _ x _ => ?_
    simp [unicodeBody]
  | case6 => cases h
  | case7 fuel t d hcode ih =>
    obtain ⟨⟨v, n⟩, hbody, ⟨⟩⟩ := Option.map_eq_some_iff.mp h
    obtain ⟨a, b, rfl, ha, hscan⟩ := codePoint_scan hcode
    rw [← ha, List.drop_left] at ih hbody
    have hlen : ('\\' :: '+' :: a).length = 8 := by simp [ha]
    rw [← hlen]
    refine (ih hbody).prepend (a := '\\' :: '+' :: a) (d :: ·) (by simp) fun _ x _ => ?_
    have hdrop : (a ++ x).drop 6 = x := by rw [← ha, List.drop_left]
    rw [hlen]
    simp only [List.cons_append, unicodeBody, hscan, hdrop]
  | case8 fuel t hcode =>
    rw [hcode] at h
    cases h
  | case9 fuel t d hcode hslash hplus ih =>
    rw [hcode] at h
    obtain ⟨⟨v, n⟩, hbody, ⟨⟩⟩ := Option.map_eq_some_iff.mp h
    obtain ⟨a, b, rfl, ha, hscan⟩ := codePoint_scan hcode
    rw [← ha, List.drop_left] at ih hbody
    have hlen : ('\\' :: a).length = 5 := by simp [ha]
    rw [← hlen]
    refine (ih hbody).prepend (a := '\\' :: a) (d :: ·) (by simp) fun _ x _ => ?_
    have hdrop : (a ++ x).drop 4 = x := by rw [← ha, List.drop_left]
    have hscan := hscan x
    rw [hlen, List.cons_append]
    obtain ⟨c, a, rfl⟩ : ∃ c a', a = c :: a' := List.exists_cons_of_length_eq_add_one ha
    have hc : c ≠ '\\' := fun hc => hslash (a ++ b) (by rw [hc]; rfl)
    have hc' : c ≠ '+' := fun hc => hplus (a ++ b) (by rw [hc]; rfl)
    rw [unicodeBody.eq_def]
    rw [List.cons_append] at hscan hdrop ⊢
    simp only [hscan, hdrop]
    split <;> simp_all
  | case10 fuel t c hq hslash _ _ _ ih =>
    obtain ⟨⟨v, n⟩, hbody, ⟨⟩⟩ := Option.map_eq_some_iff.mp h
    refine (ih hbody).prepend (a := [c]) (c :: ·) (by simp) fun _ x _ => ?_
    rw [List.singleton_append, unicodeBody.eq_def]
    split <;> simp_all

theorem closingTag_true {tag t : Text} {k : Nat} (h : closingTag tag t = some (k, true)) :
    ∃ u r, t = u ++ r ∧ u.length = k ∧ u.getLast? = some '$' ∧
      ∀ r', closingTag tag (u ++ r') = some (k, true) := by
  fun_induction closingTag tag t generalizing k with
  | case1 r =>
    cases h
    exact ⟨['$'], r, rfl, rfl, rfl, fun r' => rfl⟩
  | case2 => cases h
  | case3 => cases h
  | case4 tag c t ih =>
    obtain ⟨⟨k, b⟩, hbelow, ⟨⟩⟩ := Option.map_eq_some_iff.mp h
    obtain ⟨u, r, rfl, rfl, hlast, hscan⟩ := ih hbelow
    refine ⟨c :: u, r, rfl, rfl, ?_, fun r' => ?_⟩
    · rw [List.getLast?_cons, hlast]
      rfl
    · rw [List.cons_append, closingTag, if_pos rfl, hscan]
      rfl
  | case5 => cases h

theorem closingTag_false {tag t : Text} {k : Nat} (h : closingTag tag t = some (k, false)) :
    ∃ u r, t = u ++ r ∧ u.length = k ∧
      ∀ r', r'.head? = r.head? → closingTag tag (u ++ r') = some (k, false) := by
  fun_induction closingTag tag t generalizing k with
  | case1 => cases h
  | case2 t ht =>
    cases h
    refine ⟨[], t, rfl, rfl, fun r' hr' => ?_⟩
    have ht' := notHead_iff.mpr ht
    rw [NotHead, ← hr'] at ht'
    have hr := notHead_iff.mp ht'
    rw [List.nil_append, closingTag.eq_def]
    dsimp only
    split
    · exact absurd rfl (hr _)
    · rfl
  | case3 => cases h
  | case4 tag c t ih =>
    obtain ⟨⟨k, b⟩, hbelow, ⟨⟩⟩ := Option.map_eq_some_iff.mp h
    obtain ⟨u, r, rfl, rfl, hscan⟩ := ih hbelow
    refine ⟨c :: u, r, rfl, rfl, fun r' hr' => ?_⟩
    rw [List.cons_append, closingTag, if_pos rfl, hscan r' hr']
    rfl
  | case5 c tag d t hd =>
    cases h
    refine ⟨[d], t, rfl, rfl, fun r' _ => ?_⟩
    rw [List.singleton_append, closingTag, if_neg hd]

theorem taggedBody_scans {tag : Text} {fuel : Nat} {t v : Text} {n : Nat}
    (h : taggedBody tag fuel t = some (v, n)) :
    Scans (taggedBody tag) '$' (fun _ => True) t v n := by
  fun_induction taggedBody tag fuel t generalizing v n with
  | case1 => cases h
  | case2 => cases h
  | case3 fuel t hclose => cases h
  | case4 fuel t k hclose =>
    cases h
    obtain ⟨u, r, rfl, rfl, hlast, hscan⟩ := closingTag_true hclose
    refine Scans.stop (a := '$' :: u) ?_ trivial fun _ r' _ => ?_
    · rw [List.getLast?_cons, hlast]
      rfl
    · rw [List.cons_append, taggedBody, if_pos rfl, hscan]
      rfl
  | case5 fuel t k hclose ih =>
    obtain ⟨⟨v, n⟩, hbody, ⟨⟩⟩ := Option.map_eq_some_iff.mp h
    obtain ⟨u, r, rfl, rfl, hscan⟩ := closingTag_false hclose
    rw [List.drop_left] at ih hbody
    rw [List.take_left]
    refine (ih hbody).prepend (a := '$' :: u) ('$' :: u ++ ·) (by simp) fun _ x hx => ?_
    simp only [List.cons_append, taggedBody, if_true, hscan x hx, List.drop_left, List.take_left,
      List.length_cons]
    rfl
  | case6 fuel c t hc ih =>
    obtain ⟨⟨v, n⟩, hbody, ⟨⟩⟩ := Option.map_eq_some_iff.mp h
    refine (ih hbody).prepend (a := [c]) (c :: ·) (by simp) fun _ x _ => ?_
    rw [List.singleton_append, taggedBody, if_neg hc]
    rfl

end TypedSql.Lexer
