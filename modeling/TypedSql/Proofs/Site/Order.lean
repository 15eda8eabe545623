import Mathlib.Data.List.Perm.Basic
import Mathlib.Logic.Basic
import TypedSql.Proofs.Site

/-!
# Sites that overlap

The scan finds the sites of a text from left to right, and each ends before the next one begins. There is one
exception: the word behind a sigil belongs to the parameter, but it may also be the first word of a wildcard
or of a call.
-/

namespace TypedSql

structure Place where
  location : Nat
  text : Text
  sigil : Bool
  deriving Repr, DecidableEq

namespace Place

def stop (p : Place) : Nat :=
  p.location + p.text.bytes

/-- A place ends before another one begins, or the other one begins right behind the sign of the sigil. -/
def Before (p q : Place) : Prop :=
  p.stop ≤ q.location ∨ p.sigil = true ∧ q.location = p.location + 1

end Place

def NamedSite.place (s : NamedSite) : Place :=
  { location := s.location, text := s.text, sigil := s.style = .sigil }

def StarSite.place (s : StarSite) : Place :=
  { location := s.location, text := s.text, sigil := false }

def Sites.places (s : Sites) : List Place :=
  s.named.map NamedSite.place ++ s.stars.map StarSite.place

namespace Lexer

theorem wordOrString_ne_symbol {c : Char} {t : Text} {x : String} {n : Nat} :
    wordOrString c t ≠ some (.symbol x, n) := by
  fun_cases wordOrString c t
  case case13 =>
    intro h
    cases h
  all_goals
    intro h
    obtain ⟨_, -, h⟩ := Option.map_eq_some_iff.mp h
    cases h

theorem number_ne_sigil {c : Char} {t : Text} {n : Nat} : number c t ≠ (.symbol "@", n) := by
  intro h
  unfold number at h
  dsimp only at h
  split at h
  · simp at h
  · rcases ite_eq_iff.mp h with ⟨-, h⟩ | ⟨-, h⟩ <;> simp at h

theorem dollar_ne_symbol {t : Text} {x : String} {n : Nat} : dollar t ≠ some (.symbol x, n) := by
  intro h
  unfold dollar at h
  split at h
  · simp at h
  · dsimp only at h
    split at h <;> simp at h

theorem questionMark_ne_sigil {t : Text} {n : Nat} : questionMark t ≠ (.symbol "@", n) := by
  intro h
  unfold questionMark at h
  split at h <;> simp at h

theorem operator_sigil {c : Char} {t : Text} {n : Nat} (h : operator c t = (.symbol "@", n)) :
    c = '@' ∧ n = 0 := by
  unfold operator at h
  split at h
  · rename_i op glues hfind
    have hstarts := List.find?_some hfind
    have hne : ∀ o ∈ operators, o.1 ≠ [] := by decide
    have hop := hne _ (List.mem_of_find?_eq_some hfind)
    dsimp only at h
    generalize (if glues = true then ((c :: t).drop op.length).takeWhile isOperatorPart else []) = more at h
    obtain ⟨hsymbol, hn⟩ := Prod.mk.inj h
    have htext : op ++ more = ['@'] := by
      simpa [Text.toString] using congrArg String.toList (Token.symbol.inj hsymbol)
    rw [htext] at hn
    obtain ⟨d, op, rfl⟩ := List.exists_cons_of_ne_nil hop
    obtain ⟨rfl, -⟩ := List.cons.inj htext
    simp only [List.isPrefixOf_cons_cons, Bool.and_eq_true, beq_iff_eq] at hstarts
    exact ⟨hstarts.1.symm, hn.symm⟩
  · obtain ⟨hsymbol, hn⟩ := Prod.mk.inj h
    have htext : [c] = ['@'] := by simpa using congrArg String.toList (Token.symbol.inj hsymbol)
    exact ⟨(List.cons.inj htext).1, hn.symm⟩

theorem step_sigil {c : Char} {t : Text} {n : Nat} (h : step c t = some (.symbol "@", n)) :
    c = '@' ∧ n = 0 := by
  revert h
  fun_cases step c t with
  | case1 | case2 | case7 | case11 => nofun
  | case3 => exact fun h => absurd h wordOrString_ne_symbol
  | case4 | case5 | case8 =>
    intro h
    obtain ⟨_, -, h⟩ := Option.map_eq_some_iff.mp h
    cases h
  | case6 => exact fun h => absurd (Option.some.inj h) number_ne_sigil
  | case9 => exact fun h => absurd h dollar_ne_symbol
  | case10 => exact fun h => absurd (Option.some.inj h) questionMark_ne_sigil
  | case12 => exact fun h => operator_sigil (Option.some.inj h)

theorem Reads.text_of_sigil {ls : List Lexeme} {rest : Text} (h : Reads ls rest) :
    ∀ l ∈ ls, l.token = .symbol "@" → l.text = ['@'] := by
  induction h with
  | nil => nofun
  | @cons c t rest token ls hstep _ ih =>
    intro l hl htoken
    rcases List.mem_cons.mp hl with rfl | hl
    · dsimp only at htoken
      rw [htoken] at hstep
      obtain ⟨rfl, hlen⟩ := step_sigil hstep
      rw [List.length_eq_zero_iff.mp hlen]
    · exact ih l hl htoken

end Lexer

namespace Sites

variable {location : Nat} {before rest run : List Lexeme} {l : Lexeme} {s : Sites}

def opens (t : Token) (ts : List Token) : Bool :=
  t.isSymbol "@" || t.isSymbol "*" || t.isWord && (call? ts).isSome

def Calm : Nat → List Token → Prop
  | 0, _ => True
  | _ + 1, [] => True
  | n + 1, t :: ts => opens t ts = false ∧ Calm n ts

theorem namedCall?_shape {site : NamedSite} (h : namedCall? location l rest = some site) :
    ∃ run f arg ts, takeSignificant 5 rest = some run ∧ site.location = location ∧
      site.text = l.text ++ Lexeme.cover run ∧ site.style ≠ .sigil ∧ opens arg [.symbol ")"] = false ∧
      significant rest = .symbol "." :: .word f :: .symbol "(" :: arg :: .symbol ")" :: ts := by
  unfold namedCall? at h
  split at h
  · cases h
  rename_i run hrun
  have hshape : ∀ {f name : String} {arg : Token}, opens arg [.symbol ")"] = false →
      call? (significant run) = some (f, [arg, .symbol ")"]) →
      (namedStyle? f).map (fun style =>
        ({ location, text := l.text ++ Lexeme.cover run, name, style } : NamedSite)) = some site →
      ∃ run f arg ts, takeSignificant 5 rest = some run ∧ site.location = location ∧
        site.text = l.text ++ Lexeme.cover run ∧ site.style ≠ .sigil ∧ opens arg [.symbol ")"] = false ∧
        significant rest = .symbol "." :: .word f :: .symbol "(" :: arg :: .symbol ")" :: ts := by
    intro f name arg hopens hcall hsite
    obtain ⟨style, hstyle, rfl⟩ := Option.map_eq_some_iff.mp hsite
    obtain ⟨w, hw⟩ := call?_eq_some hcall
    rw [significant_takeSignificant hrun] at hw
    refine ⟨run, w, arg, (significant rest).drop 5, hrun, rfl, rfl, ?_, hopens, ?_⟩
    · rintro rfl
      unfold namedStyle? at hstyle
      split at hstyle
      · cases hstyle
      split at hstyle
      · cases hstyle
      split at hstyle <;> cases hstyle
    · rw [← List.take_append_drop 5 (significant rest), hw]
      simp
  dsimp only at h
  split at h
  · rename_i hcall
    exact hshape rfl hcall h
  · rename_i hcall
    exact hshape rfl hcall h
  · cases h

theorem addAt_of_opens (h : l.isTrivia = true ∨ opens l.token (significant rest) = false) :
    (addAt location before l rest s).named = s.named ∧ (addAt location before l rest s).stars = s.stars := by
  have hsymbol : ∀ x, x = "@" ∨ x = "*" → l.token ≠ .symbol x := by
    rintro x hx htoken
    rw [Lexeme.isTrivia, htoken] at h
    rcases hx with rfl | rfl <;> simp [Token.isTrivia, opens, Token.isSymbol] at h
  have hcall : ∀ f ts, l.token.isWord = true →
      significant rest ≠ .symbol "." :: .word f :: .symbol "(" :: ts := by
    intro f ts hword hrest
    rw [hrest, Lexeme.isTrivia] at h
    cases htoken : l.token <;>
      simp_all [Token.isTrivia, opens, Token.isSymbol, Token.isWord, call?]
  obtain hsame | ⟨site, -, -, ⟨hl, -⟩ | ⟨hl, hfound⟩⟩ | ⟨site, -, -, ⟨hl, -⟩ | ⟨hl, hfound⟩⟩ :=
    @addAt_cases location before rest l s
  · exact hsame
  · exact absurd hl (hsymbol _ (.inl rfl))
  · obtain ⟨-, f, arg, ts, -, -, -, -, -, hrest⟩ := namedCall?_shape hfound
    exact absurd hrest (hcall f _ hl)
  · exact absurd hl (hsymbol _ (.inr rfl))
  · obtain ⟨f, args, hrest⟩ := significant_of_embedCall? hfound
    exact absurd hrest (hcall f args hl)

theorem scanFrom_of_calm {n : Nat} (hrun : takeSignificant n rest = some run)
    (hcalm : Calm n (significant rest)) (location : Nat) (before : List Lexeme) :
    ∃ tail, rest = run ++ tail ∧
      (scanFrom location before rest).named =
        (scanFrom (location + (Lexeme.cover run).bytes) (run.reverse ++ before) tail).named ∧
      (scanFrom location before rest).stars =
        (scanFrom (location + (Lexeme.cover run).bytes) (run.reverse ++ before) tail).stars := by
  have hstep : ∀ {l : Lexeme} {ls run : List Lexeme} {location : Nat} {before : List Lexeme},
      (l.isTrivia = true ∨ opens l.token (significant ls) = false) →
      (∃ tail, ls = run ++ tail ∧
        (scanFrom (location + l.text.bytes) (l :: before) ls).named =
          (scanFrom (location + l.text.bytes + (Lexeme.cover run).bytes) (run.reverse ++ l :: before)
            tail).named ∧
        (scanFrom (location + l.text.bytes) (l :: before) ls).stars =
          (scanFrom (location + l.text.bytes + (Lexeme.cover run).bytes) (run.reverse ++ l :: before)
            tail).stars) →
      ∃ tail, l :: ls = l :: run ++ tail ∧
        (scanFrom location before (l :: ls)).named =
          (scanFrom (location + (Lexeme.cover (l :: run)).bytes) ((l :: run).reverse ++ before) tail).named ∧
        (scanFrom location before (l :: ls)).stars =
          (scanFrom (location + (Lexeme.cover (l :: run)).bytes) ((l :: run).reverse ++ before) tail).stars := by
    rintro l ls run location before hl ⟨tail, rfl, hnamed, hstars⟩
    obtain ⟨haddNamed, haddStars⟩ := @addAt_of_opens location before (run ++ tail) l
      (scanFrom (location + l.text.bytes) (l :: before) (run ++ tail)) hl
    refine ⟨tail, rfl, ?_, ?_⟩
    · rw [scanFrom, haddNamed, hnamed, Lexeme.cover_cons, Text.bytes_append, List.reverse_cons,
        List.append_assoc, List.singleton_append, Nat.add_assoc]
    · rw [scanFrom, haddStars, hstars, Lexeme.cover_cons, Text.bytes_append, List.reverse_cons,
        List.append_assoc, List.singleton_append, Nat.add_assoc]
  fun_induction takeSignificant n rest generalizing run location before with
  | case1 ls =>
    cases hrun
    exact ⟨ls, rfl, rfl, rfl⟩
  | case2 => cases hrun
  | case3 n l ls htrivia ih =>
    obtain ⟨run, hls, rfl⟩ := Option.map_eq_some_iff.mp hrun
    rw [significant_cons, if_pos htrivia] at hcalm
    exact hstep (.inl htrivia) (ih hls hcalm _ _)
  | case4 n l ls htrivia ih =>
    obtain ⟨run, hls, rfl⟩ := Option.map_eq_some_iff.mp hrun
    rw [significant_cons, if_neg htrivia] at hcalm
    exact hstep (.inr hcalm.1) (ih hls hcalm.2 _ _)

/-- A call at a lexeme, with a text that ends with its closing parenthesis, and no site in its interior. -/
def Encloses (l : Lexeme) (rest : List Lexeme) (text : Text) : Prop :=
  ∃ n run init, takeSignificant n rest = some run ∧ text = l.text ++ Lexeme.cover run ∧
    Calm n (significant rest) ∧ significant run = init ++ [.symbol ")"]

theorem namedCall?_encloses {site : NamedSite} (h : namedCall? location l rest = some site) :
    site.location = location ∧ Encloses l rest site.text := by
  obtain ⟨run, f, arg, ts, hrun, hlocation, htext, -, hopens, hrest⟩ := namedCall?_shape h
  refine ⟨hlocation, 5, run, [.symbol ".", .word f, .symbol "(", arg], hrun, htext, ?_, ?_⟩
  · rw [hrest]
    have harg : opens arg (.symbol ")" :: ts) = false := by
      cases arg <;> simp_all [opens, Token.isSymbol, Token.isWord, call?]
    exact ⟨rfl, rfl, rfl, harg, rfl, trivial⟩
  · rw [significant_takeSignificant hrun, hrest]
    rfl

theorem embedded?_shape {args : List Token} {qualifier : List String}
    (h : embedded? args = some qualifier) :
    (∃ w x ts, args = .word w :: .symbol x :: ts ∧ (x = ")" ∨ x = ".")) ∧
      Calm (2 * qualifier.length) args ∧
      ∃ init, args.take (2 * qualifier.length) = init ++ [.symbol ")"] := by
  fun_induction embedded? args generalizing qualifier with
  | case1 w rest =>
    cases h
    exact ⟨⟨w, ")", rest, rfl, .inl rfl⟩, ⟨rfl, rfl, trivial⟩, [.word w], rfl⟩
  | case2 w rest _ ih =>
    obtain ⟨qualifier, hrest, rfl⟩ := Option.map_eq_some_iff.mp h
    obtain ⟨⟨v, x, ts, rfl, hx⟩, hcalm, init, hinit⟩ := ih hrest
    refine ⟨⟨w, ".", _, rfl, .inr rfl⟩, ⟨?_, rfl, hcalm⟩, .word w :: .symbol "." :: init, ?_⟩
    · rcases hx with rfl | rfl <;> rfl
    · rw [List.length_cons, Nat.mul_add, List.take_succ_cons, List.take_succ_cons, hinit]
      rfl
  | case3 => cases h
  | case4 => cases h

theorem embedCall?_encloses {site : StarSite} (h : embedCall? location l rest = some site) :
    site.location = location ∧ Encloses l rest site.text := by
  unfold embedCall? at h
  split at h
  · cases h
  rename_i f args hcall
  split at h
  · split at h
    · cases h
    rename_i qualifier hqualifier
    split at h
    · obtain ⟨run, hrun, rfl⟩ := Option.map_eq_some_iff.mp h
      obtain ⟨w, hw⟩ := call?_eq_some hcall
      obtain ⟨-, hcalm, init, hinit⟩ := embedded?_shape hqualifier
      refine ⟨rfl, _, run, .symbol "." :: .word w :: .symbol "(" :: init, hrun, rfl, ?_, ?_⟩
      · rw [hw, Nat.add_comm]
        exact ⟨rfl, rfl, rfl, hcalm⟩
      · rw [significant_takeSignificant hrun, hw, Nat.add_comm, List.take_succ_cons, List.take_succ_cons,
          List.take_succ_cons, hinit]
        rfl
    · cases h
  · cases h

theorem length_of_takeSignificant {n : Nat} (hrun : takeSignificant n rest = some run) :
    (significant run).length = n := by
  fun_induction takeSignificant n rest generalizing run with
  | case1 ls =>
    cases hrun
    rfl
  | case2 => cases hrun
  | case3 n l ls htrivia ih =>
    obtain ⟨run, hls, rfl⟩ := Option.map_eq_some_iff.mp hrun
    rw [significant_cons, if_pos htrivia, ih hls]
  | case4 n l ls htrivia ih =>
    obtain ⟨run, hls, rfl⟩ := Option.map_eq_some_iff.mp hrun
    rw [significant_cons, if_neg htrivia, List.length_cons, ih hls]

theorem exists_last_of_takeSignificant {n : Nat} (hrun : takeSignificant n rest = some run) {t : Token}
    {init : List Token} (h : significant run = init ++ [t]) :
    ∃ first last, run = first ++ [last] ∧ last.token = t := by
  fun_induction takeSignificant n rest generalizing run init with
  | case1 ls =>
    cases hrun
    cases init <;> cases h
  | case2 => cases hrun
  | case3 n l ls htrivia ih =>
    obtain ⟨run, hls, rfl⟩ := Option.map_eq_some_iff.mp hrun
    rw [significant_cons, if_pos htrivia] at h
    obtain ⟨first, last, rfl, hlast⟩ := ih hls h
    exact ⟨l :: first, last, rfl, hlast⟩
  | case4 n l ls htrivia ih =>
    obtain ⟨run, hls, rfl⟩ := Option.map_eq_some_iff.mp hrun
    rw [significant_cons, if_neg htrivia] at h
    cases init with
    | nil =>
      obtain ⟨rfl, hnil⟩ := List.cons.inj h
      have hzero := length_of_takeSignificant hls
      rw [hnil, List.length_nil] at hzero
      rw [← hzero, takeSignificant] at hls
      cases hls
      exact ⟨[], l, rfl, rfl⟩
    | cons x init =>
      obtain ⟨first, last, rfl, hlast⟩ := ih hls (List.cons.inj h).2
      exact ⟨l :: first, last, rfl, hlast⟩

theorem le_location_of_mem_named {site : NamedSite} (h : site ∈ (scanFrom location before rest).named) :
    location ≤ site.location := by
  induction rest generalizing location before with
  | nil => cases h
  | cons l rest ih =>
    rw [scanFrom] at h
    have hrest : site ∈ (scanFrom (location + l.text.bytes) (l :: before) rest).named →
        location ≤ site.location := fun hmem => Nat.le_trans (Nat.le_add_right _ _) (ih hmem)
    obtain ⟨hsame, -⟩ | ⟨new, hnew, -, hfound⟩ | ⟨-, hsame, -⟩ :=
      @addAt_cases location before rest l (scanFrom (location + l.text.bytes) (l :: before) rest)
    · exact hrest (hsame ▸ h)
    · rw [hnew] at h
      rcases List.mem_cons.mp h with rfl | h
      · rcases hfound with ⟨-, hsigil⟩ | ⟨-, hcall⟩
        · obtain ⟨-, -, hlocation, -⟩ := sigil?_eq_some hsigil
          omega
        · have := (namedCall?_encloses hcall).1
          omega
      · exact hrest h
    · exact hrest (hsame ▸ h)

theorem le_location_of_mem_places (hlead : Lexeme.leadBytes before = 0) :
    ∀ p ∈ (scanFrom location before rest).places, location ≤ p.location := by
  intro p hp
  rcases List.mem_append.mp hp with hp | hp
  · obtain ⟨site, hsite, rfl⟩ := List.mem_map.mp hp
    exact le_location_of_mem_named hsite
  · obtain ⟨site, hsite, rfl⟩ := List.mem_map.mp hp
    have hle := le_location_of_mem hsite
    rwa [hlead] at hle

theorem le_location_of_encloses {text : Text} (h : Encloses l rest text) :
    ∀ p ∈ (scanFrom (location + l.text.bytes) (l :: before) rest).places,
      location + text.bytes ≤ p.location := by
  obtain ⟨n, run, init, hrun, rfl, hcalm, hlast⟩ := h
  obtain ⟨tail, -, hnamed, hstars⟩ := scanFrom_of_calm hrun hcalm (location + l.text.bytes) (l :: before)
  obtain ⟨first, last, rfl, htoken⟩ := exists_last_of_takeSignificant hrun hlast
  intro p hp
  rw [places, hnamed, hstars] at hp
  rw [Text.bytes_append, ← Nat.add_assoc]
  refine le_location_of_mem_places ?_ p hp
  rw [List.reverse_append, List.reverse_singleton, List.singleton_append, List.cons_append]
  exact leadBytes_symbol htoken (by decide) _

theorem reach_of_mem {site : StarSite} (hlocation : (Lexeme.cover before.reverse).bytes = location)
    (h : site ∈ (scanFrom location before rest).stars) :
    location ≤ site.location ∨ ∃ run a, before = run.reverse ++ a ∧ (∀ x ∈ run, x.isLead = true) ∧
      site.location + (Lexeme.cover run).bytes = location := by
  induction rest generalizing location before with
  | nil => cases h
  | cons l rest ih =>
    have hrest : site ∈ (scanFrom (location + l.text.bytes) (l :: before) rest).stars →
        location ≤ site.location ∨ ∃ run a, before = run.reverse ++ a ∧ (∀ x ∈ run, x.isLead = true) ∧
          site.location + (Lexeme.cover run).bytes = location := by
      intro hmem
      obtain hle | ⟨run, a, hbefore, hlead, hreach⟩ := ih (by
        rw [List.reverse_cons, Lexeme.cover_append, Text.bytes_append, hlocation]
        simp [Lexeme.cover]) hmem
      · exact .inl (by omega)
      · rcases List.eq_nil_or_concat' run with rfl | ⟨run, x, rfl⟩
        · left
          simp only [Lexeme.cover, List.flatMap_nil, Text.bytes_nil] at hreach
          omega
        · simp only [List.reverse_append, List.reverse_singleton, List.cons_append, List.cons.injEq] at hbefore
          obtain ⟨rfl, rfl⟩ := hbefore
          refine .inr ⟨run, a, rfl, fun y hy => hlead y (by simp [hy]), ?_⟩
          rw [Lexeme.cover_append, Text.bytes_append] at hreach
          simp only [Lexeme.cover, List.flatMap_singleton] at hreach ⊢
          omega
    rw [scanFrom] at h
    rcases addAt_stars with hsame | ⟨new, hnew, hfound⟩
    · rw [hsame] at h
      exact hrest h
    · rw [hnew] at h
      rcases List.mem_cons.mp h with rfl | h
      · rcases hfound with ⟨-, hstar⟩ | ⟨-, hembed⟩
        · obtain ⟨run, a, rfl, hplace, -, hlead⟩ := star?_eq_some hstar
          refine .inr ⟨run, a, rfl, hlead, ?_⟩
          rw [List.reverse_append, List.reverse_reverse, Lexeme.cover_append, Text.bytes_append] at hlocation
          omega
        · exact .inl (Nat.le_of_eq (embedCall?_encloses hembed).1.symm)
      · exact hrest h

theorem reach_of_sigil {w : Lexeme} {site : StarSite} (hl : l.token = .symbol "@")
    (hlocation : (Lexeme.cover before.reverse).bytes = location)
    (h : site ∈ (scanFrom (location + l.text.bytes + w.text.bytes) (w :: l :: before) rest).stars) :
    location + l.text.bytes + w.text.bytes ≤ site.location ∨ site.location = location + l.text.bytes := by
  have hword : (Lexeme.cover (w :: l :: before).reverse).bytes = location + l.text.bytes + w.text.bytes := by
    simp only [List.reverse_cons, Lexeme.cover_append, Text.bytes_append, hlocation]
    simp [Lexeme.cover]
  obtain hle | ⟨run, a, hrun, hlead, hreach⟩ := reach_of_mem hword h
  · exact .inl hle
  rcases List.eq_nil_or_concat' run with rfl | ⟨run, x, rfl⟩
  · exact .inl (Nat.le_of_eq hreach.symm)
  rw [List.reverse_append, List.reverse_singleton, List.singleton_append, List.cons_append,
    List.cons.injEq] at hrun
  obtain ⟨rfl, hrun⟩ := hrun
  rcases List.eq_nil_or_concat' run with rfl | ⟨run, x, rfl⟩
  · right
    simp only [List.nil_append, Lexeme.cover, List.flatMap_singleton] at hreach
    omega
  · rw [List.reverse_append, List.reverse_singleton, List.singleton_append, List.cons_append,
      List.cons.injEq] at hrun
    obtain ⟨rfl, -⟩ := hrun
    have hnot := hlead l (by simp)
    simp [Lexeme.isLead, Lexeme.isTrivia, hl, Token.isTrivia, Token.isWord, Token.isSymbol] at hnot

/-- What is found at a lexeme between the lexemes `before` it, last one first, and the `rest`. -/
inductive FoundAt (location : Nat) (before : List Lexeme) (l : Lexeme) (rest : List Lexeme) : Place → Prop
  | sigil {site : NamedSite} (hl : l.token = .symbol "@") (h : sigil? location l rest = some site) :
      FoundAt location before l rest site.place
  | star {site : StarSite} (hl : l.token = .symbol "*") (h : star? location l before = some site) :
      FoundAt location before l rest site.place
  | call {text : Text} (hl : l.token.isWord = true) (h : Encloses l rest text) :
      FoundAt location before l rest { location, text, sigil := false }

theorem addAt_places : (addAt location before l rest s).places.Perm s.places ∨
    ∃ p, FoundAt location before l rest p ∧ (addAt location before l rest s).places.Perm (p :: s.places) := by
  obtain ⟨hnamed, hstars⟩ | ⟨site, hnamed, hstars, hfound⟩ | ⟨site, hnamed, hstars, hfound⟩ :=
    @addAt_cases location before rest l s
  · rw [places, hnamed, hstars]
    exact .inl (.refl _)
  · refine .inr ⟨site.place, ?_, ?_⟩
    · obtain ⟨hl, hsigil⟩ | ⟨hl, hcall⟩ := hfound
      · exact .sigil hl hsigil
      · obtain ⟨hlocation, hencloses⟩ := namedCall?_encloses hcall
        obtain ⟨-, -, -, -, -, -, -, hstyle, -⟩ := namedCall?_shape hcall
        rw [NamedSite.place, hlocation, decide_eq_false hstyle]
        exact .call hl hencloses
    · rw [places, hnamed, hstars, List.map_cons, List.cons_append]
      exact .refl _
  · refine .inr ⟨site.place, ?_, ?_⟩
    · obtain ⟨hl, hstar⟩ | ⟨hl, hembed⟩ := hfound
      · exact .star hl hstar
      · obtain ⟨hlocation, hencloses⟩ := embedCall?_encloses hembed
        rw [StarSite.place, hlocation]
        exact .call hl hencloses
    · rw [places, hnamed, hstars, List.map_cons]
      exact List.perm_middle

theorem before_of_sigil {site : NamedSite} (hsite : sigil? location l rest = some site)
    (hl : l.token = .symbol "@") (htext : l.text = ['@'])
    (hlocation : (Lexeme.cover before.reverse).bytes = location) :
    ∀ p ∈ (scanFrom (location + l.text.bytes) (l :: before) rest).places, site.place.Before p := by
  unfold sigil? at hsite
  split at hsite
  case h_2 => cases hsite
  rename_i w rest
  split at hsite
  case h_2 => cases hsite
  rename_i word hw
  cases hsite
  have hone : l.text.bytes = 1 := by
    rw [htext]
    rfl
  have hbefore : ∀ p : Place,
      location + l.text.bytes + w.text.bytes ≤ p.location ∨ p.location = location + l.text.bytes →
      Place.Before ⟨location, l.text ++ w.text, true⟩ p := by
    intro p hp
    unfold Place.Before Place.stop
    rw [Text.bytes_append]
    dsimp only
    rcases hp with hp | hp
    · left
      omega
    · right
      exact ⟨rfl, by omega⟩
  have hrest : ∀ p ∈ (scanFrom (location + l.text.bytes + w.text.bytes) (w :: l :: before) rest).places,
      Place.Before ⟨location, l.text ++ w.text, true⟩ p := by
    intro p hp
    rcases List.mem_append.mp hp with hp | hp
    · obtain ⟨other, hother, rfl⟩ := List.mem_map.mp hp
      exact hbefore _ (.inl (le_location_of_mem_named hother))
    · obtain ⟨other, hother, rfl⟩ := List.mem_map.mp hp
      exact hbefore _ (reach_of_sigil hl hlocation hother)
  intro p hp
  rw [scanFrom] at hp
  obtain hsame | ⟨new, hfound, hnew⟩ := addAt_places
  · exact hrest p (hsame.mem_iff.mp hp)
  · rcases List.mem_cons.mp (hnew.mem_iff.mp hp) with rfl | hp
    · -- only a call can begin at a word
      cases hfound with
      | call => exact hbefore _ (.inr rfl)
      | sigil hsymbol | star hsymbol =>
        rw [hw] at hsymbol
        cases hsymbol
    · exact hrest p hp

theorem before_of_foundAt {p : Place} (h : FoundAt location before l rest p)
    (hsign : l.token = .symbol "@" → l.text = ['@'])
    (hlocation : (Lexeme.cover before.reverse).bytes = location) :
    ∀ q ∈ (scanFrom (location + l.text.bytes) (l :: before) rest).places, p.Before q := by
  cases h with
  | sigil hl hsigil => exact before_of_sigil hsigil hl (hsign hl) hlocation
  | call hl hencloses => exact fun q hq => .inl (le_location_of_encloses hencloses q hq)
  | @star site hl hstar =>
    obtain ⟨run, a, rfl, hplace, htext, -⟩ := star?_eq_some hstar
    rw [List.reverse_append, List.reverse_reverse, Lexeme.cover_append, Text.bytes_append] at hlocation
    intro q hq
    left
    have hle := le_location_of_mem_places (leadBytes_symbol hl (by decide) _) q hq
    rw [Place.stop, StarSite.place, htext, hplace, Text.bytes_append]
    dsimp only
    omega

theorem scanFrom_places (hsign : ∀ x ∈ rest, x.token = .symbol "@" → x.text = ['@'])
    (hlocation : (Lexeme.cover before.reverse).bytes = location) :
    ∃ found : List Place, found.Perm (scanFrom location before rest).places ∧
      found.Pairwise Place.Before := by
  induction rest generalizing location before with
  | nil => exact ⟨[], .refl _, .nil⟩
  | cons l rest ih =>
    have hnext : (Lexeme.cover (l :: before).reverse).bytes = location + l.text.bytes := by
      rw [List.reverse_cons, Lexeme.cover_append, Text.bytes_append, hlocation]
      simp [Lexeme.cover]
    obtain ⟨found, hperm, hpairwise⟩ := ih (fun x hx => hsign x (.tail _ hx)) hnext
    rw [scanFrom]
    obtain hsame | ⟨p, hp, hnew⟩ := addAt_places
    · exact ⟨found, hperm.trans hsame.symm, hpairwise⟩
    · have hbefore := before_of_foundAt hp (hsign l (.head _)) hlocation
      refine ⟨p :: found, (hperm.cons p).trans hnew.symm, List.pairwise_cons.mpr ⟨fun q hq => ?_, hpairwise⟩⟩
      exact hbefore q (hperm.mem_iff.mp hq)

theorem one_lt_of_sigil (h : ∀ x ∈ rest, x.text ≠ []) {site : NamedSite}
    (hsite : site ∈ (scanFrom location before rest).named) (hstyle : site.style = .sigil) :
    1 < site.text.bytes := by
  induction rest generalizing location before with
  | nil => cases hsite
  | cons l rest ih =>
    have hrest := @ih (location + l.text.bytes) (l :: before) fun x hx => h x (.tail _ hx)
    rw [scanFrom] at hsite
    obtain ⟨hsame, -⟩ | ⟨new, hnew, -, hfound⟩ | ⟨-, hsame, -⟩ :=
      @addAt_cases location before rest l (scanFrom (location + l.text.bytes) (l :: before) rest)
    · exact hrest (hsame ▸ hsite)
    · rw [hnew] at hsite
      rcases List.mem_cons.mp hsite with rfl | hsite
      · obtain ⟨-, hsigil⟩ | ⟨-, hcall⟩ := hfound
        · unfold sigil? at hsigil
          split at hsigil
          case h_2 => cases hsigil
          split at hsigil
          case h_2 => cases hsigil
          cases hsigil
          have hl := Text.bytes_pos (h l (.head _))
          have hw := Text.bytes_pos (h _ (.tail _ (.head _)))
          rw [Text.bytes_append]
          omega
        · obtain ⟨-, -, -, -, -, -, -, hne, -⟩ := namedCall?_shape hcall
          exact absurd hstyle hne
      · exact hrest hsite
    · exact hrest (hsame ▸ hsite)

/-- All sites of a text, in their order: one overlaps the next one only if it is a sigil in front of it. -/
theorem scan_places {ls : List Lexeme} {t : Text} (h : Lexer.Reads ls t) :
    ∃ found : List Place, found.Perm (scan ls).places ∧ found.Pairwise Place.Before :=
  scanFrom_places h.text_of_sigil rfl

end Sites

end TypedSql
