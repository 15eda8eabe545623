import Mathlib.Data.List.TakeDrop
import TypedSql.Site
import TypedSql.Proofs.Text
import TypedSql.Proofs.Token.Reads

/-!
# Where sites lie

A site of a named parameter or of a wildcard covers whole lexemes, and no placeholder is among them. The
numbered sites of a text are its placeholders. The sites of wildcards stand in the order of the text, and
no two of them begin at the same place.
-/

namespace TypedSql

def Token.placeholder? : Token → Option Nat
  | .placeholder p => Sites.placeholderNumber? p
  | _ => none

namespace Lexeme

def placeholders (ls : List Lexeme) : List Nat :=
  ls.filterMap fun l => l.token.placeholder?

theorem placeholders_append (a b : List Lexeme) :
    placeholders (a ++ b) = placeholders a ++ placeholders b :=
  List.filterMap_append

theorem placeholders_eq_nil {ls : List Lexeme} (h : ∀ l ∈ ls, l.token.placeholder? = none) :
    placeholders ls = [] :=
  List.filterMap_eq_nil_iff.mpr h

/-- What may stand between the beginning of a wildcard and its star: the words and periods of a name, and
trivia. -/
def isLead (l : Lexeme) : Bool :=
  l.isTrivia || l.token.isWord || l.token.isSymbol "."

def leadBytes : List Lexeme → Nat
  | [] => 0
  | l :: ls => if l.isLead then l.text.bytes + leadBytes ls else 0

theorem leadBytes_append {run : List Lexeme} (h : ∀ l ∈ run, l.isLead = true) (a : List Lexeme) :
    leadBytes (run.reverse ++ a) = (cover run).bytes + leadBytes a := by
  induction run generalizing a with
  | nil => simp [cover]
  | cons l run ih =>
    have hl : leadBytes (l :: a) = l.text.bytes + leadBytes a := if_pos (h l (.head _))
    have hrun : ∀ x ∈ run, x.isLead = true := fun x hx => h x (.tail _ hx)
    rw [List.reverse_cons, List.append_assoc, List.singleton_append, ih hrun, hl, cover_cons,
      Text.bytes_append]
    omega

/-- The text at a place covers whole lexemes, and none of them is a placeholder. -/
def Spans (ls : List Lexeme) (location : Nat) (text : Text) : Prop :=
  ∃ a g b, ls = a ++ (g ++ b) ∧ (cover a).bytes = location ∧ cover g = text ∧ g ≠ [] ∧
    ∀ l ∈ g, l.token.placeholder? = none

end Lexeme

namespace Sites

theorem placeholder?_of_isTrivia {l : Lexeme} (h : l.isTrivia = true) : l.token.placeholder? = none := by
  rcases l with ⟨token, text⟩
  cases token <;> first | rfl | cases h

theorem placeholder?_of_isLead {l : Lexeme} (h : l.isLead = true) : l.token.placeholder? = none := by
  rcases l with ⟨token, text⟩
  cases token <;> first | rfl | cases h

theorem isLead_of_isTrivia {l : Lexeme} (h : l.isTrivia = true) : l.isLead = true := by
  simp [Lexeme.isLead, h]

theorem isLead_of_isPeriod {l : Lexeme} (h : l.token.isSymbol "." = true) : l.isLead = true := by
  simp [Lexeme.isLead, h]

theorem isLead_of_word {l : Lexeme} {w : Word} (h : l.token = .word w) : l.isLead = true := by
  simp [Lexeme.isLead, h, Token.isWord]

theorem takeSignificant_isPrefix {n : Nat} {ls run : List Lexeme} (h : takeSignificant n ls = some run) :
    run <+: ls := by
  fun_induction takeSignificant n ls generalizing run with
  | case1 =>
    cases h
    exact List.nil_prefix
  | case2 => cases h
  | case3 n l ls htrivia ih | case4 n l ls htrivia ih =>
    obtain ⟨run, hrun, rfl⟩ := Option.map_eq_some_iff.mp h
    exact List.cons_prefix_cons.mpr ⟨rfl, ih hrun⟩

theorem takeSignificant_append {n : Nat} {ls run : List Lexeme} (h : takeSignificant n ls = some run)
    (b : List Lexeme) : takeSignificant n (run ++ b) = some run := by
  fun_induction takeSignificant n ls generalizing run with
  | case1 =>
    cases h
    rw [takeSignificant]
  | case2 => cases h
  | case3 n l ls htrivia ih | case4 n l ls htrivia ih =>
    obtain ⟨run, hrun, rfl⟩ := Option.map_eq_some_iff.mp h
    rw [List.cons_append, takeSignificant, ih hrun]
    simp [htrivia]

theorem significant_cons (l : Lexeme) (ls : List Lexeme) :
    significant (l :: ls) = if l.isTrivia then significant ls else l.token :: significant ls := by
  cases h : l.isTrivia <;> simp [significant, h]

theorem significant_append (a b : List Lexeme) : significant (a ++ b) = significant a ++ significant b := by
  simp [significant]

theorem significant_takeSignificant {n : Nat} {ls run : List Lexeme}
    (h : takeSignificant n ls = some run) : significant run = (significant ls).take n := by
  fun_induction takeSignificant n ls generalizing run with
  | case1 =>
    cases h
    simp [significant]
  | case2 => cases h
  | case3 n l ls htrivia ih =>
    obtain ⟨run, hrun, rfl⟩ := Option.map_eq_some_iff.mp h
    rw [significant_cons, significant_cons, if_pos htrivia, if_pos htrivia, ih hrun]
  | case4 n l ls htrivia ih =>
    obtain ⟨run, hrun, rfl⟩ := Option.map_eq_some_iff.mp h
    rw [significant_cons, significant_cons, if_neg htrivia, if_neg htrivia, ih hrun, List.take_succ_cons]

theorem placeholder?_of_significant {ls : List Lexeme}
    (h : ∀ t ∈ significant ls, t.placeholder? = none) : ∀ l ∈ ls, l.token.placeholder? = none := by
  intro l hl
  cases htrivia : l.isTrivia with
  | true => exact placeholder?_of_isTrivia htrivia
  | false => exact h _ (List.mem_map_of_mem (List.mem_filter.mpr ⟨hl, by simp [htrivia]⟩))

theorem call?_eq_some {tokens rest : List Token} {f : String} (h : call? tokens = some (f, rest)) :
    ∃ w, tokens = .symbol "." :: .word w :: .symbol "(" :: rest := by
  unfold call? at h
  split at h
  · cases h
    exact ⟨_, rfl⟩
  · cases h

section

variable {location : Nat} {first : Lexeme} {rest : List Lexeme}

theorem namedCall?_eq_some {site : NamedSite} (h : namedCall? location first rest = some site) :
    ∃ run, run <+: rest ∧ site.location = location ∧ site.text = first.text ++ Lexeme.cover run ∧
      ∀ l ∈ run, l.token.placeholder? = none := by
  unfold namedCall? at h
  split at h
  · cases h
  · rename_i run hrun
    have hspan : ∀ {f : String} {args : List Token} {name : String},
        call? (significant run) = some (f, args) → (∀ t ∈ args, t.placeholder? = none) →
        (namedStyle? f).map (fun style =>
          ({ location, text := first.text ++ Lexeme.cover run, name, style } : NamedSite)) = some site →
        ∃ run, run <+: rest ∧ site.location = location ∧ site.text = first.text ++ Lexeme.cover run ∧
          ∀ l ∈ run, l.token.placeholder? = none := by
      intro f args name hcall hargs hsite
      obtain ⟨w, hw⟩ := call?_eq_some hcall
      obtain ⟨style, -, rfl⟩ := Option.map_eq_some_iff.mp hsite
      refine ⟨run, takeSignificant_isPrefix hrun, rfl, rfl, placeholder?_of_significant ?_⟩
      rw [hw]
      simpa [Token.placeholder?] using hargs
    dsimp only at h
    split at h
    · rename_i hcall
      exact hspan hcall (by simp [Token.placeholder?]) h
    · rename_i hcall
      exact hspan hcall (by simp [Token.placeholder?]) h
    · cases h

theorem embedded?_eq_some {args : List Token} {qualifier : List String}
    (h : embedded? args = some qualifier) :
    ∀ t ∈ args.take (2 * qualifier.length), t.placeholder? = none := by
  fun_induction embedded? args generalizing qualifier with
  | case1 w rest =>
    cases h
    simp [Token.placeholder?]
  | case2 w rest _ ih =>
    obtain ⟨qualifier, hrest, rfl⟩ := Option.map_eq_some_iff.mp h
    rw [List.length_cons, Nat.mul_add, List.take_succ_cons, List.take_succ_cons]
    simpa [Token.placeholder?] using ih hrest
  | case3 => cases h
  | case4 => cases h

theorem embedCall?_eq_some {site : StarSite} (h : embedCall? location first rest = some site) :
    ∃ run, run <+: rest ∧ site.location = location ∧ site.text = first.text ++ Lexeme.cover run ∧
      ∀ l ∈ run, l.token.placeholder? = none := by
  unfold embedCall? at h
  split at h
  · cases h
  rename_i f args hcall
  split at h
  · split at h
    · cases h
    rename_i qualifier hqualifier
    split at h
    · obtain ⟨run, hrun, rfl⟩ := Option.map_eq_some_iff.mp h
      obtain ⟨w, hw⟩ := call?_eq_some hcall
      refine ⟨run, takeSignificant_isPrefix hrun, rfl, rfl, placeholder?_of_significant ?_⟩
      rw [significant_takeSignificant hrun, hw, Nat.add_comm]
      simpa [Token.placeholder?] using embedded?_eq_some hqualifier
    · cases h
  · cases h

theorem sigil?_eq_some {site : NamedSite} (h : sigil? location first rest = some site) :
    ∃ run, run <+: rest ∧ site.location = location ∧ site.text = first.text ++ Lexeme.cover run ∧
      ∀ l ∈ run, l.token.placeholder? = none := by
  unfold sigil? at h
  split at h
  · rename_i l rest
    split at h
    · rename_i w hw
      cases h
      refine ⟨[l], by simp, rfl, by simp [Lexeme.cover], ?_⟩
      simp [hw, Token.placeholder?]
    · cases h
  · cases h

end

theorem spanTrivia_eq {ls gap rest : List Lexeme} (h : spanTrivia ls = (gap, rest)) :
    ls = gap ++ rest ∧ ∀ l ∈ gap, l.isLead = true := by
  rw [spanTrivia, List.span_eq_takeWhile_dropWhile] at h
  cases h
  refine ⟨List.takeWhile_append_dropWhile.symm, fun l hl => isLead_of_isTrivia ?_⟩
  exact List.all_eq_true.mp List.all_takeWhile l hl

theorem dottedBefore_eq (fuel : Nat) (before : List Lexeme) :
    ∃ a, before = (dottedBefore fuel before).2.reverse ++ a ∧
      ∀ l ∈ (dottedBefore fuel before).2, l.isLead = true := by
  have hhere : ∀ {before gap rest : List Lexeme} {l : Lexeme} {w : Word},
      spanTrivia before = (gap, l :: rest) → l.token = .word w →
      ∃ a, before = (l :: gap.reverse).reverse ++ a ∧
        ∀ x ∈ l :: gap.reverse, x.isLead = true := by
    intro before gap rest l w hspan hw
    obtain ⟨rfl, hgap⟩ := spanTrivia_eq hspan
    refine ⟨rest, by simp, fun x hx => ?_⟩
    rcases List.mem_cons.mp hx with rfl | hx
    · exact isLead_of_word hw
    · exact hgap x (List.mem_reverse.mp hx)
  fun_induction dottedBefore fuel before with
  | case1 | case2 | case7 => exact ⟨_, rfl, nofun⟩
  | case3 _ _ _ _ _ _ hw _ _ hspan => exact hhere hspan hw
  | case4 _ _ _ _ _ _ hw _ _ _ _ _ _ _ hspan => exact hhere hspan hw
  | case6 _ _ _ _ _ _ hw _ _ _ _ _ hspan => exact hhere hspan hw
  | case5 fuel before gap l rest w hw here gap' p rest' hp q ls _ hdotted hspan hspan' ih =>
    obtain ⟨a, hrest, hls⟩ := ih
    rw [hdotted] at hrest hls
    obtain ⟨_, -, hhere⟩ := hhere hspan hw
    obtain ⟨rfl, hgap⟩ := spanTrivia_eq hspan
    obtain ⟨rfl, hgap'⟩ := spanTrivia_eq hspan'
    refine ⟨a, ?_, fun x hx => ?_⟩
    · dsimp only at hrest ⊢
      rw [hrest]
      simp [here]
    · rcases List.mem_append.mp hx with hx | hx
      · rcases List.mem_append.mp hx with hx | hx
        · exact hls x hx
        · rcases List.mem_cons.mp hx with rfl | hx
          · exact isLead_of_isPeriod hp
          · exact hgap' x (List.mem_reverse.mp hx)
      · exact hhere x hx

theorem star?_eq_some {location : Nat} {star : Lexeme} {before : List Lexeme} {site : StarSite}
    (h : star? location star before = some site) :
    ∃ run a, before = run.reverse ++ a ∧ site.location = location - (Lexeme.cover run).bytes ∧
      site.text = Lexeme.cover run ++ star.text ∧ ∀ l ∈ run, l.isLead = true := by
  unfold star? at h
  split at h
  rename_i gap rest hspan
  split at h
  · cases h
  rename_i p rest
  obtain ⟨rfl, hgap⟩ := spanTrivia_eq hspan
  split at h
  · rename_i hp
    obtain ⟨a, hrest, hls⟩ := dottedBefore_eq (gap ++ p :: rest).length rest
    split at h
    · cases h
    · rename_i hdotted
      rw [hdotted] at hrest hls
      cases h
      refine ⟨_, a, ?_, rfl, rfl, fun l hl => ?_⟩
      · dsimp only at hrest ⊢
        rw [hrest]
        simp
      · rcases List.mem_append.mp hl with hl | hl
        · exact hls l hl
        · rcases List.mem_cons.mp hl with rfl | hl
          · exact isLead_of_isPeriod hp
          · exact hgap l (List.mem_reverse.mp hl)
  · split at h
    · cases h
      exact ⟨[], _, rfl, by simp [Lexeme.cover], rfl, nofun⟩
    · cases h

structure Lie (all : List Lexeme) (s : Sites) : Prop where
  named : ∀ site ∈ s.named, Lexeme.Spans all site.location site.text
  stars : ∀ site ∈ s.stars, Lexeme.Spans all site.location site.text

section

variable {all before rest : List Lexeme} {l : Lexeme} {location : Nat} {s : Sites}

theorem Lie.addNamed {site : Option NamedSite} (h : Lie all s)
    (hsite : ∀ x, site = some x → Lexeme.Spans all x.location x.text) : Lie all (addNamed site s) := by
  cases site with
  | none => exact h
  | some x =>
    refine ⟨fun y hy => ?_, h.stars⟩
    rcases List.mem_cons.mp hy with rfl | hy
    · exact hsite y rfl
    · exact h.named y hy

theorem Lie.addStar {site : Option StarSite} (h : Lie all s)
    (hsite : ∀ x, site = some x → Lexeme.Spans all x.location x.text) : Lie all (addStar site s) := by
  cases site with
  | none => exact h
  | some x =>
    refine ⟨h.named, fun y hy => ?_⟩
    rcases List.mem_cons.mp hy with rfl | hy
    · exact hsite y rfl
    · exact h.stars y hy

theorem Lie.addPositional {site : Option PositionalSite} (h : Lie all s) :
    Lie all (addPositional site s) := by
  cases site with
  | none => exact h
  | some x => exact ⟨h.named, h.stars⟩

theorem spans_forward (hall : all = before.reverse ++ l :: rest)
    (hlocation : (Lexeme.cover before.reverse).bytes = location) (hl : l.token.placeholder? = none)
    {run : List Lexeme} (hrun : run <+: rest) (hrun' : ∀ x ∈ run, x.token.placeholder? = none) :
    Lexeme.Spans all location (l.text ++ Lexeme.cover run) := by
  obtain ⟨b, rfl⟩ := hrun
  refine ⟨before.reverse, l :: run, b, hall, hlocation, Lexeme.cover_cons l run, by simp, ?_⟩
  intro x hx
  rcases List.mem_cons.mp hx with rfl | hx
  · exact hl
  · exact hrun' x hx

theorem spans_backward (hall : all = before.reverse ++ l :: rest)
    (hlocation : (Lexeme.cover before.reverse).bytes = location) (hl : l.token.placeholder? = none)
    {run a : List Lexeme} (hrun : before = run.reverse ++ a)
    (hrun' : ∀ x ∈ run, x.token.placeholder? = none) :
    Lexeme.Spans all (location - (Lexeme.cover run).bytes) (Lexeme.cover run ++ l.text) := by
  subst hrun
  refine ⟨a.reverse, run ++ [l], rest, by simp [hall], ?_, ?_, by simp, ?_⟩
  · rw [← hlocation, List.reverse_append, List.reverse_reverse, Lexeme.cover_append, Text.bytes_append]
    omega
  · rw [Lexeme.cover_append, Lexeme.cover_cons]
    simp [Lexeme.cover]
  · intro x hx
    rcases List.mem_append.mp hx with hx | hx
    · exact hrun' x hx
    · rw [List.mem_singleton.mp hx]
      exact hl

theorem Lie.addAt (hall : all = before.reverse ++ l :: rest)
    (hlocation : (Lexeme.cover before.reverse).bytes = location) (h : Lie all s) :
    Lie all (addAt location before l rest s) := by
  unfold Sites.addAt
  split
  · exact h.addPositional
  · rename_i hl
    refine h.addNamed fun site hsite => ?_
    obtain ⟨run, hrun, hloc, htext, hnone⟩ := sigil?_eq_some hsite
    rw [hloc, htext]
    exact spans_forward hall hlocation (by rw [hl]; rfl) hrun hnone
  · rename_i hl
    refine h.addStar fun site hsite => ?_
    obtain ⟨run, a, hrun, hloc, htext, hlead⟩ := star?_eq_some hsite
    rw [hloc, htext]
    exact spans_backward hall hlocation (by rw [hl]; rfl) hrun
      fun x hx => placeholder?_of_isLead (hlead x hx)
  · rename_i w hl
    split
    · split
      · rename_i site hcall
        refine h.addNamed fun site hsite => ?_
        cases hsite
        obtain ⟨run, hrun, hloc, htext, hnone⟩ := namedCall?_eq_some hcall
        rw [hloc, htext]
        exact spans_forward hall hlocation (by rw [hl]; rfl) hrun hnone
      · refine h.addStar fun site hsite => ?_
        obtain ⟨run, hrun, hloc, htext, hnone⟩ := embedCall?_eq_some hsite
        rw [hloc, htext]
        exact spans_forward hall hlocation (by rw [hl]; rfl) hrun hnone
    · exact h
  · exact h

theorem addAt_positional :
    (addAt location before l rest s).positional =
      l.token.placeholder?.toList.map ({ location, number := · }) ++ s.positional := by
  have hnamed : ∀ site, (addNamed site s).positional = s.positional := by
    intro site
    cases site <;> rfl
  have hstar : ∀ site, (addStar site s).positional = s.positional := by
    intro site
    cases site <;> rfl
  unfold addAt
  split
  · rename_i p hl
    rw [hl, Token.placeholder?]
    cases placeholderNumber? p <;> rfl
  · rename_i hl
    rw [hl, hnamed]
    rfl
  · rename_i hl
    rw [hl, hstar]
    rfl
  · rename_i w hl
    rw [hl]
    split
    · split
      · rw [hnamed]
        rfl
      · rw [hstar]
        rfl
    · rfl
  · rename_i hplaceholder _ _ _
    have hnone : l.token.placeholder? = none := by
      cases htoken : l.token with
      | placeholder p => exact (hplaceholder p htoken).elim
      | _ => rfl
    rw [hnone]
    rfl

theorem scanFrom_lie (hall : all = before.reverse ++ rest)
    (hlocation : (Lexeme.cover before.reverse).bytes = location) :
    Lie all (scanFrom location before rest) := by
  induction rest generalizing before location with
  | nil => exact ⟨nofun, nofun⟩
  | cons l rest ih =>
    refine Lie.addAt hall hlocation (ih (by simp [hall]) ?_)
    rw [List.reverse_cons, Lexeme.cover_append, Text.bytes_append, hlocation]
    simp [Lexeme.cover]

theorem scanFrom_positional :
    (scanFrom location before rest).positional.map PositionalSite.number =
      Lexeme.placeholders rest := by
  induction rest generalizing before location with
  | nil => rfl
  | cons l rest ih =>
    rw [scanFrom, addAt_positional, List.map_append, ih, Lexeme.placeholders, Lexeme.placeholders,
      List.filterMap_cons]
    cases l.token.placeholder? <;> rfl

end

theorem scan_lie (ls : List Lexeme) : Lie ls (scan ls) :=
  scanFrom_lie rfl rfl

theorem scan_positional (ls : List Lexeme) :
    (scan ls).positional.map PositionalSite.number = Lexeme.placeholders ls :=
  scanFrom_positional

section

variable {location : Nat} {before rest : List Lexeme} {l : Lexeme} {s : Sites}

theorem addAt_cases :
    ((addAt location before l rest s).named = s.named ∧ (addAt location before l rest s).stars = s.stars) ∨
      (∃ site, (addAt location before l rest s).named = site :: s.named ∧
        (addAt location before l rest s).stars = s.stars ∧
        (l.token = .symbol "@" ∧ sigil? location l rest = some site ∨
          l.token.isWord = true ∧ namedCall? location l rest = some site)) ∨
      ∃ site, (addAt location before l rest s).named = s.named ∧
        (addAt location before l rest s).stars = site :: s.stars ∧
        (l.token = .symbol "*" ∧ star? location l before = some site ∨
          l.token.isWord = true ∧ embedCall? location l rest = some site) := by
  unfold addAt
  split
  · left
    cases placeholderNumber? _ <;> exact ⟨rfl, rfl⟩
  · rename_i hl
    cases h : sigil? location l rest with
    | none => exact .inl ⟨rfl, rfl⟩
    | some site => exact .inr (.inl ⟨site, rfl, rfl, .inl ⟨hl, rfl⟩⟩)
  · rename_i hl
    cases h : star? location l before with
    | none => exact .inl ⟨rfl, rfl⟩
    | some site => exact .inr (.inr ⟨site, rfl, rfl, .inl ⟨hl, rfl⟩⟩)
  · rename_i w hl
    have hword : l.token.isWord = true := by
      rw [hl]
      rfl
    split
    · split
      · rename_i site hcall
        exact .inr (.inl ⟨site, rfl, rfl, .inr ⟨hword, hcall⟩⟩)
      · cases h : embedCall? location l rest with
        | none => exact .inl ⟨rfl, rfl⟩
        | some site => exact .inr (.inr ⟨site, rfl, rfl, .inr ⟨hword, rfl⟩⟩)
    · exact .inl ⟨rfl, rfl⟩
  · exact .inl ⟨rfl, rfl⟩

theorem addAt_stars :
    (addAt location before l rest s).stars = s.stars ∨
      ∃ site, (addAt location before l rest s).stars = site :: s.stars ∧
        (l.token = .symbol "*" ∧ star? location l before = some site ∨
          l.token.isWord = true ∧ embedCall? location l rest = some site) := by
  obtain ⟨-, hsame⟩ | ⟨_, -, hsame, -⟩ | ⟨site, -, hnew, hfound⟩ := addAt_cases
  · exact .inl hsame
  · exact .inl hsame
  · exact .inr ⟨site, hnew, hfound⟩

theorem location_le_of_star? {site : StarSite} (h : star? location l before = some site) :
    site.location ≤ location ∧ location ≤ site.location + Lexeme.leadBytes before := by
  obtain ⟨run, a, rfl, hlocation, -, hlead⟩ := star?_eq_some h
  rw [Lexeme.leadBytes_append hlead]
  omega

theorem leadBytes_symbol {x : String} (h : l.token = .symbol x) (hx : x ≠ ".") (ls : List Lexeme) :
    Lexeme.leadBytes (l :: ls) = 0 := by
  simp [Lexeme.leadBytes, Lexeme.isLead, Lexeme.isTrivia, h, Token.isTrivia, Token.isWord, Token.isSymbol, hx]

theorem le_location_of_mem {site : StarSite} (h : site ∈ (scanFrom location before rest).stars) :
    location ≤ site.location + Lexeme.leadBytes before := by
  induction rest generalizing location before with
  | nil => cases h
  | cons l rest ih =>
    have hrest : site ∈ (scanFrom (location + l.text.bytes) (l :: before) rest).stars →
        location ≤ site.location + Lexeme.leadBytes before := by
      intro hmem
      have hle := ih hmem
      rw [Lexeme.leadBytes] at hle
      split at hle <;> omega
    rw [scanFrom] at h
    rcases addAt_stars with hsame | ⟨new, hnew, hfound⟩
    · rw [hsame] at h
      exact hrest h
    · rw [hnew] at h
      rcases List.mem_cons.mp h with rfl | h
      · rcases hfound with ⟨-, hstar⟩ | ⟨-, hembed⟩
        · exact (location_le_of_star? hstar).2
        · obtain ⟨-, -, hlocation, -⟩ := embedCall?_eq_some hembed
          omega
      · exact hrest h

theorem significant_of_embedCall? {site : StarSite} (h : embedCall? location l rest = some site) :
    ∃ f args, significant rest = .symbol "." :: .word f :: .symbol "(" :: args := by
  unfold embedCall? at h
  split at h
  · cases h
  · rename_i args hcall
    obtain ⟨f, hf⟩ := call?_eq_some hcall
    exact ⟨f, args, hf⟩

theorem addAt_stars_eq (hstar : l.token ≠ .symbol "*")
    (hcall : l.token.isWord = true → ∀ ts, significant rest ≠ .symbol "." :: ts) :
    (addAt location before l rest s).stars = s.stars := by
  rcases addAt_stars with hsame | ⟨site, -, ⟨hl, -⟩ | ⟨hw, hembed⟩⟩
  · exact hsame
  · exact absurd hl hstar
  · obtain ⟨f, args, hrest⟩ := significant_of_embedCall? hembed
    exact absurd hrest (hcall hw _)

theorem le_location_of_call {f : Word} {args : List Token}
    (h : significant rest = .symbol "." :: .word f :: .symbol "(" :: args ∨
      significant rest = .word f :: .symbol "(" :: args ∨ significant rest = .symbol "(" :: args)
    {site : StarSite} (hsite : site ∈ (scanFrom location before rest).stars) :
    location ≤ site.location := by
  induction rest generalizing location before with
  | nil => cases hsite
  | cons l rest ih =>
    rw [scanFrom] at hsite
    simp only [significant_cons] at h
    cases htrivia : l.isTrivia with
    | true =>
      simp only [htrivia, if_true] at h
      have hl : l.token ≠ .symbol "*" ∧ l.token.isWord = false := by
        unfold Lexeme.isTrivia at htrivia
        cases htoken : l.token <;> simp_all [Token.isTrivia, Token.isWord]
      rw [addAt_stars_eq hl.1 fun hw => by rw [hl.2] at hw; cases hw] at hsite
      exact Nat.le_trans (Nat.le_add_right _ _) (ih h hsite)
    | false =>
      simp only [htrivia, Bool.false_eq_true, if_false, List.cons.injEq] at h
      rcases h with ⟨hl, h⟩ | ⟨hl, h⟩ | ⟨hl, -⟩
      · rw [addAt_stars_eq (by rw [hl]; decide) fun hw => by rw [hl] at hw; cases hw] at hsite
        exact Nat.le_trans (Nat.le_add_right _ _) (ih (.inr (.inl h)) hsite)
      · rw [addAt_stars_eq (by rw [hl]; nofun) fun _ ts => by rw [h]; simp] at hsite
        exact Nat.le_trans (Nat.le_add_right _ _) (ih (.inr (.inr h)) hsite)
      · rw [addAt_stars_eq (by rw [hl]; decide) fun hw => by rw [hl] at hw; cases hw] at hsite
        have hle := le_location_of_mem hsite
        rw [leadBytes_symbol hl (by decide)] at hle
        omega

theorem scanFrom_stars_pairwise (h : ∀ l ∈ rest, l.text ≠ []) :
    (scanFrom location before rest).stars.Pairwise (·.location < ·.location) := by
  induction rest generalizing location before with
  | nil => exact .nil
  | cons l rest ih =>
    have hpos : 0 < l.text.bytes := Text.bytes_pos (h l (.head _))
    have hrest : (scanFrom (location + l.text.bytes) (l :: before) rest).stars.Pairwise _ :=
      ih fun x hx => h x (.tail _ hx)
    rw [scanFrom]
    rcases addAt_stars with hsame | ⟨new, hnew, hfound⟩
    · rw [hsame]
      exact hrest
    · rw [hnew]
      refine List.pairwise_cons.mpr ⟨fun site hsite => ?_, hrest⟩
      rcases hfound with ⟨hl, hstar⟩ | ⟨-, hembed⟩
      · -- a star is part of no name, so the next wildcard begins behind it
        have hle := le_location_of_mem hsite
        rw [leadBytes_symbol hl (by decide)] at hle
        have := (location_le_of_star? hstar).1
        omega
      · obtain ⟨-, -, hlocation, -⟩ := embedCall?_eq_some hembed
        obtain ⟨f, args, hcall⟩ := significant_of_embedCall? hembed
        have := le_location_of_call (.inl hcall) hsite
        omega

end

theorem scan_stars_pairwise {ls : List Lexeme} (h : ∀ l ∈ ls, l.text ≠ []) :
    (scan ls).stars.Pairwise (·.location < ·.location) :=
  scanFrom_stars_pairwise h

end Sites

end TypedSql
