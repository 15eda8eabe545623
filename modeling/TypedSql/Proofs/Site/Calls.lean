import TypedSql.Proofs.Edit
import TypedSql.Proofs.Site.Order

/-!
# Calls into the pseudo-schema

A call into the pseudo-schema begins with the word of the schema, a period, the name of the function and an
opening parenthesis. Edits bring names and placeholders, but no parenthesis. So the calls of an edited text
are those calls of the text that no edit touches, unless a name that an edit brings runs on in the text
behind it.
-/

namespace TypedSql

def Token.isName : Token → Bool
  | .word _ | .placeholder _ => true
  | _ => false

def Token.goesOn : Token → Bool
  | .symbol s => s == "." || s == "("
  | _ => false

structure CallSite where
  location : Nat
  text : Text
  deriving Repr, DecidableEq

def CallSite.stop (c : CallSite) : Nat :=
  c.location + c.text.bytes

namespace Sites

def opensCall : List Token → Bool
  | [.word w, .symbol ".", .word _, .symbol "("] => w.text.eqIgnoreCase pseudoSchema.toList
  | _ => false

def callHead? (l : Lexeme) (rest : List Lexeme) : Option (List Lexeme) :=
  ((takeSignificant 3 rest).map (l :: ·)).filter fun head => opensCall (significant head)

def callsFrom (location : Nat) : List Lexeme → List CallSite
  | [] => []
  | l :: rest =>
    ((callHead? l rest).map fun head => { location, text := Lexeme.cover head }).toList ++
      callsFrom (location + l.text.bytes) rest

end Sites

def Text.calls (t : Text) : List CallSite :=
  Sites.callsFrom 0 ((Lexer.lex t).getD [])

namespace Sites

def IsHead (head : List Lexeme) : Prop :=
  ∃ l rest, callHead? l rest = some head

theorem callHead?_eq_some {l : Lexeme} {rest head : List Lexeme} (h : callHead? l rest = some head) :
    ∃ run, head = l :: run ∧ takeSignificant 3 rest = some run ∧ opensCall (significant head) = true := by
  obtain ⟨hmap, hopens⟩ := Option.filter_eq_some_iff.mp h
  obtain ⟨run, hrun, rfl⟩ := Option.map_eq_some_iff.mp hmap
  exact ⟨run, rfl, hrun, hopens⟩

theorem IsHead.exists_callHead? {head : List Lexeme} (h : IsHead head) (b : List Lexeme) :
    ∃ l rest, head ++ b = l :: rest ∧ callHead? l rest = some head := by
  obtain ⟨l, rest, h⟩ := h
  obtain ⟨run, rfl, hrun, hopens⟩ := callHead?_eq_some h
  refine ⟨l, run ++ b, rfl, Option.filter_eq_some_iff.mpr ⟨?_, hopens⟩⟩
  rw [takeSignificant_append hrun]
  rfl

theorem exists_of_opensCall {ts : List Token} (h : opensCall ts = true) :
    ∃ w f, ts = [.word w, .symbol ".", .word f, .symbol "("] := by
  unfold opensCall at h
  split at h
  · exact ⟨_, _, rfl⟩
  · cases h

theorem IsHead.opens {head : List Lexeme} (h : IsHead head) : opensCall (significant head) = true := by
  obtain ⟨l, rest, h⟩ := h
  obtain ⟨-, -, -, hopens⟩ := callHead?_eq_some h
  exact hopens

theorem IsHead.exists_last {head : List Lexeme} (h : IsHead head) :
    ∃ first last, head = first ++ [last] ∧ last.token = .symbol "(" := by
  obtain ⟨l, rest, h⟩ := h
  obtain ⟨run, rfl, hrun, hopens⟩ := callHead?_eq_some h
  obtain ⟨w, f, heq⟩ := exists_of_opensCall hopens
  have hlength : (significant run).length ≤ 3 := by
    rw [significant_takeSignificant hrun]
    exact List.length_take_le _ _
  have hsig : significant run = [.symbol ".", .word f] ++ [.symbol "("] := by
    rw [significant_cons] at heq
    split at heq
    · rw [heq] at hlength
      simp at hlength
    · exact (List.cons.inj heq).2
  obtain ⟨first, last, rfl, hlast⟩ := exists_last_of_takeSignificant hrun hsig
  exact ⟨l :: first, last, rfl, hlast⟩

theorem mem_callsFrom {location : Nat} {ls : List Lexeme} {c : CallSite} :
    c ∈ callsFrom location ls ↔ ∃ a head b, ls = a ++ (head ++ b) ∧ IsHead head ∧
      c = { location := location + (Lexeme.cover a).bytes, text := Lexeme.cover head } := by
  induction ls generalizing location with
  | nil =>
    refine ⟨nofun, ?_⟩
    rintro ⟨a, head, b, hnil, hhead, -⟩
    obtain ⟨first, last, rfl, -⟩ := hhead.exists_last
    simp at hnil
  | cons l rest ih =>
    rw [callsFrom, List.mem_append, Option.mem_toList, Option.map_eq_some_iff, ih]
    constructor
    · rintro (⟨head, hhead, rfl⟩ | ⟨a, head, b, rfl, hhead, rfl⟩)
      · obtain ⟨run, rfl, hrun, -⟩ := callHead?_eq_some hhead
        obtain ⟨b, rfl⟩ := takeSignificant_isPrefix hrun
        exact ⟨[], l :: run, b, rfl, ⟨l, _, hhead⟩, rfl⟩
      · refine ⟨l :: a, head, b, rfl, hhead, ?_⟩
        rw [Lexeme.cover_cons, Text.bytes_append, Nat.add_assoc]
    · rintro ⟨a, head, b, heq, hhead, rfl⟩
      cases a with
      | nil =>
        obtain ⟨l', rest', heq', hcall⟩ := hhead.exists_callHead? b
        cases heq.trans heq'
        exact Or.inl ⟨head, hcall, rfl⟩
      | cons l' a =>
        cases heq
        refine Or.inr ⟨a, head, b, rfl, hhead, ?_⟩
        rw [Lexeme.cover_cons, Text.bytes_append, Nat.add_assoc]

def HasHead (ls : List Lexeme) : Prop :=
  ∃ head, head <:+: ls ∧ IsHead head

theorem hasHead_iff (location : Nat) {ls : List Lexeme} :
    HasHead ls ↔ ∃ c, c ∈ callsFrom location ls := by
  constructor
  · rintro ⟨head, ⟨a, b, rfl⟩, hhead⟩
    exact ⟨_, mem_callsFrom.mpr ⟨a, head, b, List.append_assoc a head b, hhead, rfl⟩⟩
  · rintro ⟨c, hc⟩
    obtain ⟨a, head, b, rfl, hhead, -⟩ := mem_callsFrom.mp hc
    exact ⟨head, ⟨a, b, List.append_assoc a head b⟩, hhead⟩

section Append

variable {location : Nat} {a b : List Lexeme} {c : CallSite}

theorem mem_callsFrom_left (h : ∀ l ∈ a ++ b, l.text ≠ []) :
    c ∈ callsFrom location a ↔
      c ∈ callsFrom location (a ++ b) ∧ c.stop ≤ location + (Lexeme.cover a).bytes := by
  rw [mem_callsFrom, mem_callsFrom]
  constructor
  · rintro ⟨x, head, y, rfl, hhead, rfl⟩
    refine ⟨⟨x, head, y ++ b, by simp, hhead, rfl⟩, ?_⟩
    simp only [CallSite.stop, Lexeme.cover_append, Text.bytes_append]
    omega
  · rintro ⟨⟨x, head, y, heq, hhead, rfl⟩, hstop⟩
    have hle : (Lexeme.cover (x ++ head)).bytes ≤ (Lexeme.cover a).bytes := by
      simp only [CallSite.stop] at hstop
      rw [Lexeme.cover_append, Text.bytes_append]
      omega
    obtain ⟨z, rfl⟩ := Edit.isPrefix_of_bytes_le h (heq.trans (List.append_assoc x head y).symm) rfl hle
    exact ⟨x, head, z, List.append_assoc x head z, hhead, rfl⟩

theorem mem_callsFrom_right (h : ∀ l ∈ a ++ b, l.text ≠ []) :
    c ∈ callsFrom (location + (Lexeme.cover a).bytes) b ↔
      c ∈ callsFrom location (a ++ b) ∧ location + (Lexeme.cover a).bytes ≤ c.location := by
  rw [mem_callsFrom, mem_callsFrom]
  constructor
  · rintro ⟨x, head, y, rfl, hhead, rfl⟩
    refine ⟨⟨a ++ x, head, y, by simp, hhead, ?_⟩, Nat.le_add_right _ _⟩
    rw [Lexeme.cover_append, Text.bytes_append, Nat.add_assoc]
  · rintro ⟨⟨x, head, y, heq, hhead, rfl⟩, hle⟩
    obtain ⟨z, rfl⟩ := Edit.isPrefix_of_bytes_le h rfl heq (Nat.le_of_add_le_add_left hle)
    rw [List.append_assoc] at heq
    refine ⟨z, head, y, List.append_cancel_left heq, hhead, ?_⟩
    rw [Lexeme.cover_append, Text.bytes_append, Nat.add_assoc]

end Append

/-- Lexemes that begin and end with a name, with no opening parenthesis among them. -/
structure Inert (mid : List Lexeme) : Prop where
  closed : ∀ l ∈ mid, l.token ≠ .symbol "("
  first : ∃ l ∈ mid.head?, l.token.isName = true
  last : ∃ l ∈ mid.getLast?, l.token.isName = true

def goesOn (ls : List Lexeme) : Bool :=
  (significant ls).head?.any Token.goesOn

theorem isTrivia_of_isName {l : Lexeme} (h : l.token.isName = true) : l.isTrivia = false := by
  rcases l with ⟨token, text⟩
  cases token <;> first | rfl | cases h

theorem goesOn_of_isName {t : Token} (h : t.isName = true) : t.goesOn = false := by
  cases t <;> first | rfl | cases h

theorem significant_of_last {ls : List Lexeme} {l : Lexeme} (hl : l ∈ ls.getLast?)
    (hname : l.token.isName = true) : l.token ∈ (significant ls).getLast? := by
  obtain ⟨init, rfl⟩ := List.getLast?_eq_some_iff.mp hl
  have hsig : significant [l] = [l.token] := by
    rw [significant_cons, isTrivia_of_isName hname]
    rfl
  rw [significant_append, hsig, Option.mem_def, List.getLast?_concat]

theorem goesOn_of_opensCall {x y : List Token} (h : opensCall (x ++ y) = true) {t : Token}
    (ht : t ∈ x.getLast?) (hname : t.isName = true) :
    t.isWord = true ∧ y.head?.any Token.goesOn = true := by
  obtain ⟨w, f, heq⟩ := exists_of_opensCall h
  obtain ⟨init, rfl⟩ := List.getLast?_eq_some_iff.mp ht
  rw [List.append_assoc] at heq
  rcases init with _ | ⟨_, _ | ⟨_, _ | ⟨_, _ | ⟨_, _⟩⟩⟩⟩
  · cases heq
    exact ⟨rfl, rfl⟩
  · cases heq
    cases hname
  · cases heq
    exact ⟨rfl, rfl⟩
  · cases heq
    cases hname
  · simp at heq

theorem Inert.not_isHead {mid x y b : List Lexeme} (hmid : Inert mid) (hx : ∃ z, x = z ++ mid ∨ mid = z ++ x)
    (hne : x ≠ [])
    (hend : (∃ l ∈ mid.getLast?, l.token.isWord = true) → goesOn (y ++ b) = false) : ¬ IsHead (x ++ y) := by
  intro hhead
  obtain ⟨l, hl, hname⟩ := hmid.last
  have hlast : l ∈ x.getLast? := by
    obtain ⟨z, rfl | rfl⟩ := hx
    · rw [Option.mem_def, List.getLast?_append, hl]
      rfl
    · rw [Option.mem_def, List.getLast?_append] at hl
      obtain ⟨init, last, rfl⟩ := List.eq_nil_or_concat' x |>.resolve_left hne
      simpa using hl
  have hopens := hhead.opens
  rw [significant_append] at hopens
  obtain ⟨hword, hgoes⟩ := goesOn_of_opensCall hopens (significant_of_last hlast hname) hname
  have hfalse := hend ⟨l, hl, hword⟩
  rw [goesOn, significant_append, List.head?_append] at hfalse
  cases hy : (significant y).head? with
  | none =>
    rw [hy] at hgoes
    cases hgoes
  | some t =>
    rw [hy] at hgoes hfalse
    exact absurd (hgoes.symm.trans hfalse) (by decide)

theorem hasHead_inert {gap mid tail : List Lexeme} (hmid : Inert mid)
    (hend : (∃ l ∈ mid.getLast?, l.token.isWord = true) → goesOn tail = false) :
    HasHead (gap ++ (mid ++ tail)) ↔ HasHead gap ∨ HasHead tail := by
  constructor
  · rintro ⟨head, ⟨a, b, heq⟩, hhead⟩
    rw [List.append_assoc, ← List.append_assoc gap mid tail] at heq
    rcases List.append_eq_append_iff.mp heq with ⟨x, hx, hrest⟩ | ⟨x, rfl, hrest⟩
    · rcases List.append_eq_append_iff.mp hrest with ⟨y, rfl, rfl⟩ | ⟨y, rfl, rfl⟩
      · rw [← List.append_assoc] at hx
        rcases List.append_eq_append_iff.mp hx with ⟨z, hz, rfl⟩ | ⟨z, rfl, -⟩
        · -- it ends in a parenthesis, which the inert lexemes do not have
          rcases List.eq_nil_or_concat' z with rfl | ⟨init, l, rfl⟩
          · rw [List.append_nil] at hz
            exact Or.inl ⟨head, ⟨a, [], by rw [List.append_nil, hz]⟩, hhead⟩
          · obtain ⟨first, last, rfl, hlast⟩ := hhead.exists_last
            rw [← List.append_assoc, ← List.append_assoc] at hz
            cases (List.append_inj' hz rfl).2
            exact absurd hlast (hmid.closed l (by simp))
        · exact Or.inl ⟨head, ⟨a, z, rfl⟩, hhead⟩
      · by_cases hne : x = []
        · subst hne
          exact Or.inr ⟨y, (List.prefix_append y b).isInfix, hhead⟩
        · refine absurd hhead (hmid.not_isHead ?_ hne hend)
          rcases List.append_eq_append_iff.mp hx with ⟨z, -, hz⟩ | ⟨z, -, hz⟩
          · exact ⟨z, Or.inr hz⟩
          · exact ⟨z, Or.inl hz⟩
    · exact Or.inr ⟨head, ⟨x, b, by rw [List.append_assoc, hrest]⟩, hhead⟩
  · rintro (⟨head, hinfix, hhead⟩ | ⟨head, hinfix, hhead⟩)
    · exact ⟨head, hinfix.trans (List.prefix_append gap _).isInfix, hhead⟩
    · refine ⟨head, hinfix.trans ?_, hhead⟩
      exact ((List.suffix_append mid tail).trans (List.suffix_append gap _)).isInfix

end Sites

namespace Edit

open Lexer Sites

def Touches (e : Edit) (c : CallSite) : Prop :=
  e.location < c.stop ∧ c.location < e.stop

def runsOn (text : Text) (e : Edit) : Bool :=
  ((lex e.new).getD []).getLast?.any (·.token.isWord) &&
    goesOn ((lex (between text e.stop text.bytes)).getD [])

def closed (text : Text) (edits : List Edit) : Bool :=
  edits.all fun e => !e.runsOn text

theorem Replaced.le_location {start : Nat} {edits : List Edit} {ls new : List Lexeme}
    (h : Replaced start edits ls new) : ∀ e ∈ edits, start ≤ e.location := by
  induction h with
  | nil => nofun
  | @cons start e rest gap old tail mid new hgap _ _ _ _ ih =>
    intro e' he'
    rcases List.mem_cons.mp he' with rfl | he'
    · omega
    · have hle := ih e' he'
      rw [stop] at hle
      omega

theorem Replaced.goesOn_eq_false {start : Nat} {edits : List Edit} {ls new : List Lexeme}
    (h : Replaced start edits ls new) (hinert : ∀ e ∈ edits, ∃ mid, Standalone e.new mid ∧ Inert mid)
    (hls : goesOn ls = false) : goesOn new = false := by
  cases h with
  | nil => exact hls
  | @cons _ e rest gap old tail mid new _ _ _ hmid _ =>
    rw [goesOn, significant_append, List.head?_append] at hls ⊢
    cases hgap : (significant gap).head? with
    | some t =>
      rw [hgap] at hls
      exact hls
    | none =>
      obtain ⟨mid', hmid', hinert⟩ := hinert e (.head _)
      cases Option.some_inj.mp (hmid.lex_eq.symm.trans hmid'.lex_eq)
      obtain ⟨l, hl, hname⟩ := hinert.first
      obtain ⟨mid, rfl⟩ := List.head?_eq_some_iff.mp hl
      rw [List.cons_append, significant_cons, isTrivia_of_isName hname]
      simp [goesOn_of_isName hname]

theorem goesOn_of_runsOn {e : Edit} {front tail mid : List Lexeme} (hreads : Reads (front ++ tail) [])
    (hstop : (Lexeme.cover front).bytes = e.stop) (hmid : Standalone e.new mid)
    (h : e.runsOn (Lexeme.cover (front ++ tail)) = false)
    (hword : ∃ l ∈ mid.getLast?, l.token.isWord = true) : goesOn tail = false := by
  have hbehind := between_cover front tail []
  rw [List.append_nil, hstop] at hbehind
  obtain ⟨l, hl, hword⟩ := hword
  rw [runsOn, hbehind, hmid.lex_eq, lex_eq_some_iff.mpr ⟨(Reads.append_iff.mp hreads).2, rfl⟩,
    Option.getD_some, Option.getD_some, Option.mem_def.mp hl, Option.any_some, hword, Bool.true_and] at h
  exact h

theorem untouched_cons {e : Edit} {rest : List Edit} (hle : ∀ e' ∈ rest, e.stop ≤ e'.location)
    (c : CallSite) : (∀ e' ∈ e :: rest, ¬ e'.Touches c) ↔
      c.stop ≤ e.location ∨ e.stop ≤ c.location ∧ ∀ e' ∈ rest, ¬ e'.Touches c := by
  rw [List.forall_mem_cons]
  constructor
  · rintro ⟨he, hrest⟩
    rcases Nat.lt_or_ge e.location c.stop with hlt | hge
    · exact Or.inr ⟨Nat.le_of_not_lt fun h => he ⟨hlt, h⟩, hrest⟩
    · exact Or.inl hge
  · rintro (hstop | ⟨hstop, hrest⟩)
    · refine ⟨fun h => Nat.not_lt.mpr hstop h.1, fun e' he' h => ?_⟩
      have hle := hle e' he'
      have hlt := h.1
      rw [stop] at hle
      omega
    · exact ⟨fun h => Nat.not_lt.mpr hstop h.2, hrest⟩

theorem Replaced.hasHead_iff {start : Nat} {edits : List Edit} {all before ls new : List Lexeme}
    (h : Replaced start edits ls new) (hall : Reads all []) (hcut : all = before ++ ls)
    (hstart : (Lexeme.cover before).bytes = start)
    (hinert : ∀ e ∈ edits, ∃ mid, Standalone e.new mid ∧ Inert mid)
    (hclosed : ∀ e ∈ edits, e.runsOn (Lexeme.cover all) = false) :
    HasHead new ↔ ∃ c ∈ callsFrom start ls, ∀ e ∈ edits, ¬ e.Touches c := by
  induction h generalizing before with
  | nil start ls =>
    rw [Sites.hasHead_iff start]
    simp
  | @cons start e rest gap old tail mid new hgap hold hnone hmid hrest ih =>
    obtain ⟨⟨mid', hmid', hmidInert⟩, hinert⟩ := List.forall_mem_cons.mp hinert
    cases Option.some_inj.mp (hmid.lex_eq.symm.trans hmid'.lex_eq)
    obtain ⟨hclosedHere, hclosed⟩ := List.forall_mem_cons.mp hclosed
    have hstop : start + (Lexeme.cover (gap ++ old)).bytes = e.stop := by
      rw [Lexeme.cover_append, Text.bytes_append, hold, stop]
      omega
    have hfront : (Lexeme.cover (before ++ (gap ++ old))).bytes = e.stop := by
      rw [Lexeme.cover_append, Text.bytes_append, hstart, hstop]
    have hcut' : all = (before ++ (gap ++ old)) ++ tail := by simp [hcut]
    have hparted : HasHead (gap ++ (mid ++ new)) ↔ HasHead gap ∨ HasHead new := by
      refine hasHead_inert hmidInert fun hword => hrest.goesOn_eq_false hinert ?_
      exact goesOn_of_runsOn (hcut' ▸ hall) hfront hmid (hcut' ▸ hclosedHere) hword
    have htexts : ∀ l ∈ gap ++ (old ++ tail), l.text ≠ [] := fun l hl =>
      hall.text_ne_nil l (hcut ▸ List.mem_append_right before hl)
    have hleft : ∀ c, c ∈ callsFrom start gap ↔
        c ∈ callsFrom start (gap ++ (old ++ tail)) ∧ c.stop ≤ e.location := by
      intro c
      rw [mem_callsFrom_left htexts, hgap]
    have hright : ∀ c, c ∈ callsFrom e.stop tail ↔
        c ∈ callsFrom start (gap ++ (old ++ tail)) ∧ e.stop ≤ c.location := by
      intro c
      rw [← List.append_assoc] at htexts ⊢
      rw [← hstop, mem_callsFrom_right htexts]
    rw [hparted, ih hcut' hfront hinert hclosed, Sites.hasHead_iff start]
    simp only [untouched_cons hrest.le_location, and_or_left, exists_or, ← and_assoc, ← hleft, ← hright]

/-- An edited text has the calls that no edit touches. -/
theorem apply_calls {text : Text} {ls : List Lexeme} {edits : List Edit} {out : Text}
    (hlex : lex text = some ls) (hplaced : ∀ e ∈ edits, e.Placed ls)
    (hinert : ∀ e ∈ edits, ∃ mid, Standalone e.new mid ∧ Inert mid) (hapart : apart text edits = true)
    (hclosed : closed text edits = true) (h : apply text edits = .ok out) :
    out.calls = [] ↔ ∀ c ∈ text.calls, ∃ e ∈ edits, e.Touches c := by
  obtain ⟨new, hnew, hreplaced⟩ := apply_replaced hlex hplaced hapart h
  obtain ⟨hreads, hcover⟩ := lex_eq_some_iff.mp hlex
  have hclosed : ∀ e ∈ edits, e.runsOn (Lexeme.cover ls) = false := by
    intro e he
    simpa [hcover] using List.all_eq_true.mp hclosed e he
  have hmem : ∀ e, e ∈ sort edits ↔ e ∈ edits := fun e => List.mem_mergeSort
  have hleft := hreplaced.hasHead_iff hreads (List.nil_append ls).symm rfl
    (fun e he => hinert e ((hmem e).mp he)) fun e he => hclosed e ((hmem e).mp he)
  rw [Sites.hasHead_iff 0] at hleft
  have hcalls : text.calls = callsFrom 0 ls := by
    rw [Text.calls, hlex]
    rfl
  have hcalls' : out.calls = callsFrom 0 new := by
    rw [Text.calls, hnew]
    rfl
  rw [hcalls, hcalls', List.eq_nil_iff_forall_not_mem, ← not_exists, hleft]
  simp [hmem]

end Edit

end TypedSql
