import TypedSql.Proofs.Site.Order

/-!
# Sites of a segment

From each lexeme the scan looks ahead for the rest of a call and back for the name in front of a star.
Neither look goes beyond a semicolon. So the lexemes between two semicolons have by themselves the sites
that they have among all others, moved by the place where they begin.
-/

namespace TypedSql

def StarSite.shift (n : Nat) (s : StarSite) : StarSite :=
  { s with location := n + s.location }

def NamedSite.shift (n : Nat) (s : NamedSite) : NamedSite :=
  { s with location := n + s.location }

def PositionalSite.shift (n : Nat) (s : PositionalSite) : PositionalSite :=
  { s with location := n + s.location }

namespace Sites

def shift (n : Nat) (s : Sites) : Sites :=
  { stars := s.stars.map (·.shift n)
    named := s.named.map (·.shift n)
    positional := s.positional.map (·.shift n) }

def append (a b : Sites) : Sites :=
  { stars := a.stars ++ b.stars
    named := a.named ++ b.named
    positional := a.positional ++ b.positional }

theorem append_assoc (a b c : Sites) : (a.append b).append c = a.append (b.append c) := by
  simp [append]

variable {location : Nat} {before rest run outer after : List Lexeme} {l : Lexeme} {s : Sites}

theorem shift_append (n : Nat) (a b : Sites) : (a.append b).shift n = (a.shift n).append (b.shift n) := by
  simp [append, shift]

theorem addAt_eq_append : addAt location before l rest s = (addAt location before l rest {}).append s := by
  have hpositional : ∀ site, addPositional site s = (addPositional site {}).append s := by
    rintro (_ | _) <;> rfl
  have hnamed : ∀ site, addNamed site s = (addNamed site {}).append s := by
    rintro (_ | _) <;> rfl
  have hstar : ∀ site, addStar site s = (addStar site {}).append s := by
    rintro (_ | _) <;> rfl
  unfold addAt
  split
  · exact hpositional _
  · exact hnamed _
  · exact hstar _
  · split
    · split
      · exact hnamed _
      · exact hstar _
    · rfl
  · rfl

@[simp] theorem isSemicolon_symbol (x : String) : (Token.symbol x).isSemicolon = (x == ";") := rfl

@[simp] theorem isSemicolon_word (w : Word) : (Token.word w).isSemicolon = false := rfl

theorem eq_of_isSemicolon {t : Token} (h : t.isSemicolon = true) : t = .symbol ";" := by
  cases t with
  | symbol x => rw [eq_of_beq h]
  | _ => cases h

def Bars (ts : List Token) : Prop :=
  ∀ t ∈ ts.head?, t.isSemicolon = true

theorem bars_nil : Bars [] := by
  simp [Bars]

theorem Bars.eq_cons {t : Token} {ts : List Token} (h : Bars (t :: ts)) : t = .symbol ";" :=
  eq_of_isSemicolon (h t rfl)

theorem Bars.trivia_append {a b : List Lexeme} (ha : ∀ l ∈ a, l.isTrivia = true)
    (hb : Bars (significant b)) : Bars (significant (a ++ b)) := by
  have hnil : significant a = [] := by simpa [significant] using ha
  rwa [significant_append, hnil, List.nil_append]

theorem bars_of_isSemicolon (h : l.token.isSemicolon = true) (ls : List Lexeme) :
    Bars (significant (l :: ls)) := by
  have htrivia : l.isTrivia = false := by
    rw [Lexeme.isTrivia, eq_of_isSemicolon h]
    rfl
  rw [significant_cons, htrivia]
  rintro t ⟨⟩
  exact h

theorem takeSignificant_append_right {n : Nat} (h : takeSignificant n rest = some run) (tail : List Lexeme) :
    takeSignificant n (rest ++ tail) = some run := by
  obtain ⟨more, rfl⟩ := takeSignificant_isPrefix h
  rw [List.append_assoc]
  exact takeSignificant_append h _

theorem length_lt_of_takeSignificant {n : Nat} (h : takeSignificant n rest = none) :
    (significant rest).length < n := by
  fun_induction takeSignificant n rest with
  | case1 => cases h
  | case2 => simp [significant]
  | case3 n l ls htrivia ih =>
    rw [significant_cons, if_pos htrivia]
    exact ih (Option.map_eq_none_iff.mp h)
  | case4 n l ls htrivia ih =>
    rw [significant_cons, if_neg htrivia, List.length_cons]
    exact Nat.succ_lt_succ (ih (Option.map_eq_none_iff.mp h))

theorem exists_of_append_eq {a b us : List Token} (ts : List Token) (hb : Bars b) (h : a ++ b = ts ++ us)
    (hts : ∀ t ∈ ts, t.isSemicolon = false) : ∃ more, a = ts ++ more ∧ us = more ++ b := by
  rcases List.append_eq_append_iff.mp h with ⟨m, rfl, rfl⟩ | hmore
  · cases m with
    | nil => exact ⟨[], by simp, rfl⟩
    | cons t m =>
      have hsemicolon := hb t rfl
      rw [hts t (by simp)] at hsemicolon
      cases hsemicolon
  · exact hmore

theorem namedCall?_append (h : Bars (significant after)) :
    namedCall? location l (rest ++ after) = namedCall? location l rest := by
  cases hrun : takeSignificant 5 rest with
  | some run =>
    unfold namedCall?
    rw [hrun, takeSignificant_append_right hrun after]
  | none =>
    have hnone : namedCall? location l rest = none := by
      unfold namedCall?
      rw [hrun]
    rw [hnone]
    -- a call that goes on behind the semicolon has the semicolon among its five tokens
    have hfew : ∀ {run : List Lexeme} {f : String} {arg : Token},
        takeSignificant 5 (rest ++ after) = some run → arg.isSemicolon = false →
          call? (significant run) ≠ some (f, [arg, .symbol ")"]) := by
      intro run f arg htake harg hcall
      obtain ⟨w, hw⟩ := call?_eq_some hcall
      rw [significant_takeSignificant htake, significant_append] at hw
      have hsplit := (List.take_append_drop 5 (significant rest ++ significant after)).symm
      rw [hw] at hsplit
      obtain ⟨more, hrest, -⟩ := exists_of_append_eq _ h hsplit (by simp [harg])
      have hlt := length_lt_of_takeSignificant hrun
      rw [hrest, List.length_append] at hlt
      exact absurd hlt (by simp)
    unfold namedCall?
    split
    · rfl
    rename_i run htake
    dsimp only
    split
    · rename_i hcall
      exact absurd hcall (hfew htake rfl)
    · rename_i hcall
      exact absurd hcall (hfew htake rfl)
    · rfl

theorem call?_append {a b : List Token} (h : Bars b) :
    call? (a ++ b) = (call? a).map fun found => (found.1, found.2 ++ b) := by
  cases hcall : call? a with
  | some found =>
    obtain ⟨f, args⟩ := found
    unfold call? at hcall
    split at hcall
    · cases hcall
      rfl
    · cases hcall
  | none =>
    refine Option.eq_none_iff_forall_ne_some.mpr fun found hfound => ?_
    obtain ⟨f, args⟩ := found
    obtain ⟨w, hw⟩ := call?_eq_some hfound
    obtain ⟨more, rfl, -⟩ := exists_of_append_eq [.symbol ".", .word w, .symbol "("] h hw
      (by simp)
    cases hcall

theorem embedded?_append {a b : List Token} (h : Bars b) : embedded? (a ++ b) = embedded? a := by
  fun_induction embedded? a with
  | case1 w rest => simp [embedded?]
  | case2 w rest _ ih => simp [embedded?, ih]
  | case3 w x rest hclose hperiod => simp [embedded?, hclose, hperiod]
  | case4 ts hts =>
    rcases ts with - | ⟨t, - | ⟨u, ts⟩⟩
    · cases b with
      | nil => rfl
      | cons t b =>
        rw [h.eq_cons]
        rfl
    · cases b with
      | nil => cases t <;> simp [embedded?]
      | cons u b =>
        rw [h.eq_cons]
        cases t <;> simp [embedded?]
    · unfold embedded?
      split
      · rename_i heq
        simp only [List.cons_append, List.cons.injEq] at heq
        obtain ⟨rfl, rfl, -⟩ := heq
        exact absurd rfl (hts _ _ _)
      · rfl

theorem two_mul_length_le_of_embedded? {args : List Token} {qualifier : List String}
    (h : embedded? args = some qualifier) : 2 * qualifier.length ≤ args.length := by
  fun_induction embedded? args generalizing qualifier with
  | case1 w rest =>
    cases h
    simp
  | case2 w rest _ ih =>
    obtain ⟨qualifier, hrest, rfl⟩ := Option.map_eq_some_iff.mp h
    have hle := ih hrest
    simp only [List.length_cons]
    omega
  | case3 => cases h
  | case4 => cases h

theorem embedCall?_append (h : Bars (significant after)) :
    embedCall? location l (rest ++ after) = embedCall? location l rest := by
  unfold embedCall?
  rw [significant_append, call?_append h]
  cases hcall : call? (significant rest) with
  | none => rfl
  | some found =>
    obtain ⟨f, args⟩ := found
    rw [Option.map_some]
    dsimp only
    rw [embedded?_append h]
    split
    · cases hqualifier : embedded? args with
      | none => rfl
      | some qualifier =>
        dsimp only
        split
        · obtain ⟨w, hw⟩ := call?_eq_some hcall
          have hle := two_mul_length_le_of_embedded? hqualifier
          cases hrun : takeSignificant (3 + 2 * qualifier.length) rest with
          | some run => rw [takeSignificant_append_right hrun]
          | none =>
            have hlt := length_lt_of_takeSignificant hrun
            rw [hw] at hlt
            simp only [List.length_cons] at hlt
            omega
        · rfl
    · rfl

theorem sigil?_append (h : Bars (significant after)) :
    sigil? location l (rest ++ after) = sigil? location l rest := by
  cases rest with
  | cons next rest => rfl
  | nil =>
    cases after with
    | nil => rfl
    | cons next after =>
      unfold sigil?
      dsimp only [List.nil_append]
      cases hnext : next.token with
      | word w =>
        have htrivia : next.isTrivia = false := by
          rw [Lexeme.isTrivia, hnext]
          rfl
        rw [significant_cons, htrivia, hnext] at h
        cases h.eq_cons
      | _ => rfl

theorem spanTrivia_eq_iff {ls gap : List Lexeme} :
    spanTrivia ls = (gap, rest) ↔ ls = gap ++ rest ∧ (∀ l ∈ gap, l.isTrivia = true) ∧
      ∀ l ∈ rest.head?, l.isTrivia = false := by
  rw [spanTrivia, List.span_eq_takeWhile_dropWhile]
  constructor
  · rintro ⟨⟩
    refine ⟨List.takeWhile_append_dropWhile.symm, List.all_eq_true.mp List.all_takeWhile, fun l hl => ?_⟩
    have hnot := List.head?_dropWhile_not Lexeme.isTrivia ls
    rw [hl] at hnot
    exact hnot
  · rintro ⟨rfl, hgap, hrest⟩
    rw [List.takeWhile_append_of_pos hgap, List.dropWhile_append_of_pos hgap]
    cases rest with
    | nil => simp
    | cons l rest => simp [hrest l rfl]

theorem spanTrivia_append_cons {ls gap : List Lexeme} (h : spanTrivia ls = (gap, l :: rest))
    (outer : List Lexeme) : spanTrivia (ls ++ outer) = (gap, l :: (rest ++ outer)) := by
  obtain ⟨rfl, hgap, hl⟩ := spanTrivia_eq_iff.mp h
  exact spanTrivia_eq_iff.mpr ⟨by simp, hgap, hl⟩

theorem spanTrivia_append_nil {ls gap : List Lexeme} (h : spanTrivia ls = (gap, []))
    (houter : Bars (significant outer)) :
    ∃ gap' rest, spanTrivia (ls ++ outer) = (gap', rest) ∧ ∀ l ∈ rest.head?, l.token = .symbol ";" := by
  obtain ⟨rfl, hgap, -⟩ := spanTrivia_eq_iff.mp h
  obtain ⟨⟨gap', rest⟩, hspan⟩ : ∃ span, spanTrivia outer = span := ⟨_, rfl⟩
  obtain ⟨rfl, htrivia, hrest⟩ := spanTrivia_eq_iff.mp hspan
  refine ⟨gap ++ gap', rest, spanTrivia_eq_iff.mpr ⟨by simp, fun l hl => ?_, hrest⟩, fun l hl => ?_⟩
  · rcases List.mem_append.mp hl with hl | hl
    · exact hgap l hl
    · exact htrivia l hl
  · obtain ⟨more, rfl⟩ := List.head?_eq_some_iff.mp hl
    have hbars := houter
    rw [significant_append, show significant gap' = [] by simpa [significant] using htrivia, List.nil_append,
      significant_cons, hrest l rfl] at hbars
    exact hbars.eq_cons

theorem dottedBefore_of_semicolon {ls gap : List Lexeme} (h : spanTrivia ls = (gap, rest))
    (hrest : ∀ l ∈ rest.head?, l.token = .symbol ";") (fuel : Nat) : dottedBefore fuel ls = ([], []) := by
  cases fuel with
  | zero => rfl
  | succ fuel =>
    rw [dottedBefore, h]
    cases rest with
    | nil => rfl
    | cons l rest =>
      dsimp only
      rw [hrest l rfl]

theorem length_of_spanTrivia {ls gap : List Lexeme} (h : spanTrivia ls = (gap, rest)) :
    ls.length = gap.length + rest.length := by
  rw [(spanTrivia_eq_iff.mp h).1, List.length_append]

theorem dottedBefore_append (houter : Bars (significant outer)) {fuel fuel' : Nat}
    (hfuel : before.length ≤ fuel) (hfuel' : before.length + outer.length ≤ fuel') :
    dottedBefore fuel' (before ++ outer) = dottedBefore fuel before := by
  induction fuel generalizing before fuel' with
  | zero =>
    obtain rfl := List.length_eq_zero_iff.mp (Nat.le_zero.mp hfuel)
    obtain ⟨gap, rest, hspan, hrest⟩ := spanTrivia_append_nil (show spanTrivia [] = ([], []) from rfl) houter
    exact dottedBefore_of_semicolon hspan hrest fuel'
  | succ fuel ih =>
    obtain ⟨⟨gap, rest⟩, hspan⟩ : ∃ span, spanTrivia before = span := ⟨_, rfl⟩
    cases rest with
    | nil =>
      obtain ⟨gap', rest, hspan', hrest⟩ := spanTrivia_append_nil hspan houter
      rw [dottedBefore_of_semicolon hspan' hrest, dottedBefore_of_semicolon hspan (by simp)]
    | cons l rest =>
      have hlength := length_of_spanTrivia hspan
      simp only [List.length_cons] at hlength
      obtain ⟨fuel', rfl⟩ : ∃ k, fuel' = k + 1 := ⟨fuel' - 1, by omega⟩
      rw [dottedBefore, dottedBefore, hspan, spanTrivia_append_cons hspan outer]
      dsimp only
      cases l.token with
      | word w =>
        dsimp only
        obtain ⟨⟨gap', rest'⟩, hspan'⟩ : ∃ span, spanTrivia rest = span := ⟨_, rfl⟩
        cases rest' with
        | nil =>
          obtain ⟨outside, rest, hnext, hrest⟩ := spanTrivia_append_nil hspan' houter
          rw [hspan', hnext]
          cases rest with
          | nil => rfl
          | cons p rest =>
            dsimp only
            rw [hrest p rfl]
            rfl
        | cons p rest' =>
          have hlength' := length_of_spanTrivia hspan'
          simp only [List.length_cons] at hlength'
          rw [hspan', spanTrivia_append_cons hspan' outer]
          dsimp only
          have hrest : dottedBefore fuel' (rest' ++ outer) = dottedBefore fuel rest' :=
            ih (by omega) (by omega)
          rw [hrest]
      | _ => rfl

theorem star?_append (houter : Bars (significant outer)) :
    star? location l (before ++ outer) = star? location l before := by
  unfold star?
  obtain ⟨⟨gap, rest⟩, hspan⟩ : ∃ span, spanTrivia before = span := ⟨_, rfl⟩
  rw [hspan]
  cases rest with
  | nil =>
    obtain ⟨gap', rest, hspan', hrest⟩ := spanTrivia_append_nil hspan houter
    rw [hspan']
    cases rest with
    | nil => rfl
    | cons p rest =>
      dsimp only
      rw [hrest p rfl]
      rfl
  | cons p rest =>
    have hlength := length_of_spanTrivia hspan
    simp only [List.length_cons] at hlength
    rw [spanTrivia_append_cons hspan outer]
    dsimp only
    have hdotted : dottedBefore (before ++ outer).length (rest ++ outer) = dottedBefore before.length rest :=
      dottedBefore_append houter (by omega) (by rw [List.length_append]; omega)
    rw [hdotted]

theorem namedCall?_shift (n : Nat) :
    namedCall? (n + location) l rest = (namedCall? location l rest).map (·.shift n) := by
  unfold namedCall?
  cases takeSignificant 5 rest with
  | none => rfl
  | some run =>
    dsimp only
    split <;> simp [NamedSite.shift, Function.comp_def]

theorem embedCall?_shift (n : Nat) :
    embedCall? (n + location) l rest = (embedCall? location l rest).map (·.shift n) := by
  unfold embedCall?
  cases call? (significant rest) with
  | none => rfl
  | some found =>
    dsimp only
    split
    · cases embedded? found.2 with
      | none => rfl
      | some qualifier =>
        dsimp only
        split <;> simp [StarSite.shift, Function.comp_def]
    · rfl

theorem sigil?_shift (n : Nat) : sigil? (n + location) l rest = (sigil? location l rest).map (·.shift n) := by
  unfold sigil?
  cases rest with
  | nil => rfl
  | cons next rest =>
    dsimp only
    cases next.token <;> rfl

theorem star?_shift (hlocation : (Lexeme.cover before.reverse).bytes = location) (n : Nat) :
    star? (n + location) l before = (star? location l before).map (·.shift n) := by
  unfold star?
  obtain ⟨⟨gap, rest⟩, hspan⟩ : ∃ span, spanTrivia before = span := ⟨_, rfl⟩
  rw [hspan]
  cases rest with
  | nil => rfl
  | cons p rest =>
    dsimp only
    split
    · obtain ⟨⟨qualifier, ls⟩, hdotted⟩ : ∃ dotted, dottedBefore before.length rest = dotted := ⟨_, rfl⟩
      rw [hdotted]
      cases qualifier with
      | nil => rfl
      | cons name qualifier =>
        obtain ⟨a, hrest, -⟩ := dottedBefore_eq before.length rest
        rw [hdotted] at hrest
        have hle : (Lexeme.cover (ls ++ p :: gap.reverse)).bytes ≤ location := by
          rw [← hlocation, (spanTrivia_eq_iff.mp hspan).1, hrest]
          simp only [List.reverse_append, List.reverse_cons, List.reverse_reverse, List.append_assoc,
            List.singleton_append, Lexeme.cover_append, Text.bytes_append]
          omega
        simp [StarSite.shift, Nat.add_sub_assoc hle]
    · split <;> rfl

theorem addAt_segment (houter : Bars (significant outer)) (hafter : Bars (significant after))
    (hlocation : (Lexeme.cover before.reverse).bytes = location) (n : Nat) :
    addAt (n + location) (before ++ outer) l (rest ++ after) {} =
      (addAt location before l rest {}).shift n := by
  have hnamed : ∀ site, addNamed (site.map (·.shift n)) {} = (addNamed site {}).shift n := by
    rintro (_ | _) <;> rfl
  have hstar : ∀ site, addStar (site.map (·.shift n)) {} = (addStar site {}).shift n := by
    rintro (_ | _) <;> rfl
  unfold addAt
  split
  · cases placeholderNumber? _ <;> rfl
  · rw [sigil?_append hafter, sigil?_shift, hnamed]
  · rw [star?_append houter, star?_shift hlocation, hstar]
  · split
    · rw [namedCall?_append hafter, namedCall?_shift, embedCall?_append hafter, embedCall?_shift]
      cases namedCall? location l rest with
      | none => exact hstar _
      | some site => exact hnamed (some site)
    · rfl
  · rfl

theorem scanFrom_segment (houter : Bars (significant outer)) (hafter : Bars (significant after))
    (hlocation : (Lexeme.cover before.reverse).bytes = location) (n : Nat) :
    scanFrom (n + location) (before ++ outer) (rest ++ after) =
      ((scanFrom location before rest).shift n).append
        (scanFrom (n + location + (Lexeme.cover rest).bytes) (rest.reverse ++ (before ++ outer)) after) := by
  induction rest generalizing before location with
  | nil => rfl
  | cons l rest ih =>
    have hnext : (Lexeme.cover (l :: before).reverse).bytes = location + l.text.bytes := by
      rw [List.reverse_cons, Lexeme.cover_append, Text.bytes_append, hlocation]
      simp [Lexeme.cover]
    have hrest := ih hnext
    rw [← Nat.add_assoc, List.cons_append] at hrest
    rw [List.cons_append, scanFrom, addAt_eq_append, addAt_segment houter hafter hlocation, hrest,
      ← append_assoc, ← shift_append, ← addAt_eq_append, ← scanFrom, Lexeme.cover_cons, Text.bytes_append,
      List.reverse_cons, List.append_assoc, List.singleton_append, Nat.add_assoc (n + location)]

/-- A segment between semicolons is scanned as it is by itself. -/
theorem scanFrom_between (houter : Bars (significant outer)) (hafter : Bars (significant after)) (n : Nat)
    (segment : List Lexeme) :
    scanFrom n outer (segment ++ after) =
      ((scan segment).shift n).append
        (scanFrom (n + (Lexeme.cover segment).bytes) (segment.reverse ++ outer) after) :=
  @scanFrom_segment 0 [] segment outer after houter hafter rfl n

theorem addAt_of_isTrivia (h : l.isTrivia = true) : addAt location before l rest s = s := by
  unfold Lexeme.isTrivia at h
  unfold addAt
  cases htoken : l.token with
  | blank | comment | number | string => rfl
  | placeholder | symbol | word =>
    rw [htoken] at h
    cases h

theorem scanFrom_of_trivia (h : ∀ l ∈ run, l.isTrivia = true) :
    scanFrom location before (run ++ rest) =
      scanFrom (location + (Lexeme.cover run).bytes) (run.reverse ++ before) rest := by
  induction run generalizing location before with
  | nil => rfl
  | cons l run ih =>
    obtain ⟨hl, hrun⟩ := List.forall_mem_cons.mp h
    rw [List.cons_append, scanFrom, addAt_of_isTrivia hl, ih hrun, Lexeme.cover_cons, Text.bytes_append,
      List.reverse_cons, List.append_assoc, List.singleton_append, Nat.add_assoc]

theorem scanFrom_of_isSemicolon (h : l.token.isSemicolon = true) :
    scanFrom location before (l :: rest) = scanFrom (location + l.text.bytes) (l :: before) rest := by
  rw [scanFrom, addAt, eq_of_isSemicolon h]
  simp

end Sites

end TypedSql
