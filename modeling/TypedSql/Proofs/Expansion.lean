import TypedSql.Expansion
import TypedSql.Proofs.Fallible
import TypedSql.Proofs.Token.Reads
import TypedSql.Statement.Visit

/-!
# Expanded wildcards

Every edit of an expansion stands in the place of a wildcard of the statement. What it puts there is a
list of column names, which is read as such in front of everything that goes on with no name.
-/

namespace TypedSql

def Token.isListPart : Token → Bool
  | .word _ | .blank => true
  | .symbol s => s == "." || s == ","
  | _ => false

namespace Lexer

structure NameList (ls : List Lexeme) : Prop where
  parts : ∀ l ∈ ls, l.token.isListPart = true
  first : ∃ l ∈ ls.head?, l.token.isWord = true
  last : ∃ l ∈ ls.getLast?, l.token.isWord = true

theorem NameList.join {as ls bs : List Lexeme} (ha : NameList as) (hb : NameList bs)
    (hparts : ∀ l ∈ ls, l.token.isListPart = true) : NameList (as ++ (ls ++ bs)) := by
  refine ⟨fun l hl => ?_, ?_, ?_⟩
  · simp only [List.mem_append] at hl
    rcases hl with hl | hl | hl
    · exact ha.parts l hl
    · exact hparts l hl
    · exact hb.parts l hl
  · obtain ⟨l, hl, hword⟩ := ha.first
    exact ⟨l, by rw [Option.mem_def, List.head?_append, hl]; rfl, hword⟩
  · obtain ⟨l, hl, hword⟩ := hb.last
    exact ⟨l, by rw [Option.mem_def, List.getLast?_append, List.getLast?_append, hl]; rfl, hword⟩

def Spelled (t : Text) : Prop :=
  (∃ c ∈ t.head?, isFresh c = true) ∧ ∃ ls, Standalone t ls ∧ NameList ls

theorem standalone_quote (name : Text) :
    Standalone (Ident.quote name) [{ token := .word (wordOf name), text := Ident.quote name }] :=
  ⟨by simp [Lexeme.cover], fun _ hrest => reads_quote name hrest⟩

theorem spelled_quote (name : Text) : Spelled (Ident.quote name) :=
  ⟨isFresh_quote name, _, standalone_quote name, by simp [Token.isListPart], ⟨_, rfl, rfl⟩, ⟨_, rfl, rfl⟩⟩

theorem Standalone.join {a b : Text} {as bs : List Lexeme} (ha : Standalone a as) (ls : List Lexeme)
    (hb : Standalone b bs) (hfresh : ∃ c ∈ b.head?, isFresh c = true)
    (hstops : ∀ rest, Stops (Lexeme.cover ls ++ rest))
    (hreads : ∀ rest : Text, (∃ c ∈ rest.head?, isFresh c = true) → Reads ls rest) :
    Standalone (a ++ Lexeme.cover ls ++ b) (as ++ (ls ++ bs)) := by
  obtain ⟨rfl, has⟩ := ha
  obtain ⟨rfl, hbs⟩ := hb
  refine ⟨?_, fun rest hrest => ?_⟩
  · rw [Lexeme.cover_append, Lexeme.cover_append, List.append_assoc]
  · refine Reads.append_iff.mpr ⟨has _ ?_, Reads.append_iff.mpr ⟨hreads _ ?_, hbs rest hrest⟩⟩
    · rw [Lexeme.cover_append, List.append_assoc]
      exact hstops _
    · obtain ⟨d, hd, hdfresh⟩ := hfresh
      refine ⟨d, ?_, hdfresh⟩
      rw [Option.mem_def, List.head?_append, hd]
      rfl

theorem Standalone.period {a b : Text} {as bs : List Lexeme} (ha : Standalone a as) (hb : Standalone b bs)
    (hfresh : ∃ c ∈ b.head?, isFresh c = true) :
    Standalone (a ++ ['.'] ++ b) (as ++ ([{ token := .symbol ".", text := ['.'] }] ++ bs)) := by
  refine ha.join [{ token := .symbol ".", text := ['.'] }] hb hfresh (fun rest => ?_) (fun rest h => ?_)
  · rintro c ⟨⟩
    exact Or.inr rfl
  · refine Reads.single ?_
    obtain ⟨c, hc, hfresh⟩ := h
    have hdigit : Lacks Char.isDigit rest := by
      intro d hd
      obtain rfl : c = d := Option.some_inj.mp (hc.symm.trans hd)
      refine Bool.eq_false_iff.mpr fun hdigit => ?_
      rw [isFresh_of_isDigit hdigit] at hfresh
      cases hfresh
    have hstep : step '.' rest = some (number '.' rest) := rfl
    rw [List.nil_append, hstep, number_point hdigit]
    rfl

theorem isFresh_append {a : Text} (h : ∃ c ∈ a.head?, isFresh c = true) (b : Text) :
    ∃ c ∈ (a ++ b).head?, isFresh c = true := by
  obtain ⟨c, hc, hfresh⟩ := h
  refine ⟨c, ?_, hfresh⟩
  rw [Option.mem_def, List.head?_append, hc]
  rfl

theorem Spelled.period {a b : Text} (ha : Spelled a) (hb : Spelled b) : Spelled (a ++ ['.'] ++ b) := by
  obtain ⟨hfresh, as, has, hasnames⟩ := ha
  obtain ⟨hbfresh, bs, hbs, hbsnames⟩ := hb
  refine ⟨?_, _, has.period hbs hbfresh, hasnames.join hbsnames (by simp [Token.isListPart])⟩
  rw [List.append_assoc]
  exact isFresh_append hfresh _

theorem Spelled.comma {a b : Text} (ha : Spelled a) (hb : Spelled b) :
    Spelled (a ++ [',', ' '] ++ b) := by
  obtain ⟨hfresh, as, has, hasnames⟩ := ha
  obtain ⟨hbfresh, bs, hbs, hbsnames⟩ := hb
  refine ⟨?_, _, has.join [{ token := .symbol ",", text := [','] }, { token := .blank, text := [' '] }] hbs
    hbfresh (fun rest => ?_) (fun rest _ => ?_), hasnames.join hbsnames (by simp [Token.isListPart])⟩
  · rw [List.append_assoc]
    exact isFresh_append hfresh _
  · rintro c ⟨⟩
    exact Or.inl rfl
  · exact .cons rfl (Reads.single rfl)

theorem Spelled.intercalate {sep : Text}
    (hjoin : ∀ {a b}, Spelled a → Spelled b → Spelled (a ++ sep ++ b)) {xs : List Text} (hne : xs ≠ [])
    (h : ∀ x ∈ xs, Spelled x) : Spelled (sep.intercalate xs) := by
  induction xs with
  | nil => exact absurd rfl hne
  | cons x xs ih =>
    cases xs with
    | nil =>
      rw [List.intercalate_singleton]
      exact h x (by simp)
    | cons y ys =>
      rw [List.intercalate_cons_cons]
      exact hjoin (h x (by simp)) (ih (by simp) fun z hz => h z (List.mem_cons_of_mem x hz))

end Lexer

namespace Expansion

open Lexer

theorem spelled_qualified (qualifier : List String) (column : String) :
    Spelled (qualified qualifier column) := by
  refine Spelled.intercalate Spelled.period (by simp) fun x hx => ?_
  obtain ⟨name, -, rfl⟩ := List.mem_map.mp hx
  exact spelled_quote name.toList

theorem spelled_of_mem_items {tables : List SourceTable} {star : StarRef} {texts : List Text}
    (h : items tables star = .ok texts) : ∀ t ∈ texts, Spelled t := by
  obtain ⟨found, -, h⟩ := bind_eq_ok.mp h
  intro t ht
  split at h
  · obtain rfl := pure_eq_ok_iff.mp h
    obtain ⟨table, -, ht⟩ := List.mem_flatMap.mp ht
    obtain ⟨c, -, rfl⟩ := List.mem_map.mp ht
    split
    · exact spelled_qualified _ _
    · exact spelled_quote c.name.toList
  · obtain rfl := pure_eq_ok_iff.mp h
    obtain ⟨table, -, ht⟩ := List.mem_flatMap.mp ht
    obtain ⟨c, -, rfl⟩ := List.mem_map.mp ht
    exact spelled_qualified _ _

/-- An edit that stands in the place of a wildcard among some expressions. -/
structure Expands (es : List Expr) (e : Edit) : Prop where
  star : ∃ s, .star s ∈ es ∧ s.location = some e.location ∧ s.text = e.old
  spelled : e.new ≠ [] → Spelled e.new

theorem Expands.mono {es fs : List Expr} {e : Edit} (h : Expands es e) (hsub : es ⊆ fs) :
    Expands fs e := by
  obtain ⟨⟨s, hs, hplace⟩, hspelled⟩ := h
  exact ⟨⟨s, hsub hs, hplace⟩, hspelled⟩

theorem starEdit_eq_ok {tables : List SourceTable} {star : StarRef} {e : Edit}
    (h : starEdit tables star = .ok e) : Expands [.star star] e := by
  unfold starEdit at h
  split at h
  · cases h
  · rename_i location hlocation
    obtain ⟨texts, htexts, h⟩ := bind_eq_ok.mp h
    obtain rfl := pure_eq_ok_iff.mp h
    refine ⟨⟨star, by simp, hlocation, rfl⟩, fun hne => ?_⟩
    refine Spelled.intercalate Spelled.comma ?_ (spelled_of_mem_items htexts)
    rintro rfl
    exact hne rfl

theorem mem_visit_expr (e : Expr) : e ∈ Visit.expr e := by
  unfold Visit.expr
  exact List.mem_cons_self

theorem value_mem_visit_targets {ts : List Target} {t : Target} (h : t ∈ ts) :
    t.value ∈ Visit.targets ts := by
  induction ts with
  | nil => cases h
  | cons u us ih =>
    rcases List.mem_cons.mp h with rfl | h
    · obtain ⟨value, name⟩ := t
      exact List.mem_append_left _ (mem_visit_expr value)
    · exact List.mem_append_right _ (ih h)

theorem targets_expands {embedsOnly : Bool} {tables : List SourceTable} {ts : List Target}
    {edits : List Edit} (h : targets embedsOnly tables ts = .ok edits) :
    ∀ e ∈ edits, Expands (Visit.targets ts) e := by
  intro e he
  obtain ⟨star, hstar, hedit⟩ := exists_of_mem_mapM h he
  obtain ⟨t, ht, hvalue⟩ := List.mem_filterMap.mp hstar
  have hvalue : t.value = .star star := by
    split at hvalue
    · rename_i s hs
      split at hvalue
      · cases hvalue
      · cases hvalue
        exact hs
    · cases hvalue
  refine (starEdit_eq_ok hedit).mono fun x hx => ?_
  rw [List.mem_singleton.mp hx, ← hvalue]
  exact value_mem_visit_targets ht

theorem forall_expands_append {es fs : List Expr} {a b : List Edit} (ha : ∀ e ∈ a, Expands es e)
    (hb : ∀ e ∈ b, Expands fs e) : ∀ e ∈ a ++ b, Expands (es ++ fs) e := by
  intro e he
  rcases List.mem_append.mp he with he | he
  · exact (ha e he).mono (List.subset_append_left es fs)
  · exact (hb e he).mono (List.subset_append_right es fs)

mutual

theorem query_expands {embedsOnly : Bool} {scope : Scope} {edits : List Edit} : (q : Query) →
    query embedsOnly scope q = .ok edits → ∀ e ∈ edits, Expands (Visit.query q) e
  | ⟨named, main, orderBy, limit, offset⟩, h => by
    obtain ⟨⟨inner, first⟩, hctes, h⟩ := bind_eq_ok.mp h
    obtain ⟨second, hbody, h⟩ := bind_eq_ok.mp h
    obtain rfl := pure_eq_ok_iff.mp h
    intro e he
    refine (forall_expands_append (ctes_expands named hctes) (body_expands main hbody) e he).mono ?_
    intro x hx
    simp only [Visit.query, List.append_assoc, List.mem_append] at hx ⊢
    rcases hx with hx | hx
    · exact Or.inl hx
    · exact Or.inr (Or.inl hx)

theorem ctes_expands {embedsOnly : Bool} {scope inner : Scope} {edits : List Edit} : (cs : List Cte) →
    ctes embedsOnly scope cs = .ok (inner, edits) → ∀ e ∈ edits, Expands (Visit.ctes cs) e
  | [], h => by
    cases h
    nofun
  | c :: cs, h => by
    obtain ⟨⟨middle, first⟩, hcte, h⟩ := bind_eq_ok.mp h
    obtain ⟨⟨inner, second⟩, hctes, h⟩ := bind_eq_ok.mp h
    cases h
    exact forall_expands_append (cte_expands c hcte) (ctes_expands cs hctes)

theorem cte_expands {embedsOnly : Bool} {scope inner : Scope} {edits : List Edit} : (c : Cte) →
    cte embedsOnly scope c = .ok (inner, edits) → ∀ e ∈ edits, Expands (Visit.cte c) e
  | ⟨name, names, q⟩, h => by
    obtain ⟨edits, hquery, h⟩ := bind_eq_ok.mp h
    obtain ⟨columns, -, h⟩ := bind_eq_ok.mp h
    cases h
    exact query_expands q hquery

theorem body_expands {embedsOnly : Bool} {scope : Scope} {edits : List Edit} : (b : Body) →
    body embedsOnly scope b = .ok edits → ∀ e ∈ edits, Expands (Visit.body b) e
  | .select ⟨distinct, items, sources, selection, groupBy, having⟩, h => by
    obtain ⟨tables, -, h⟩ := bind_eq_ok.mp h
    intro e he
    refine (targets_expands h e he).mono fun x hx => ?_
    simp only [Visit.body, Visit.select, List.mem_append]
    exact Or.inl (Or.inl (Or.inl (Or.inl hx)))
  | .setOp _ left right, h => by
    obtain ⟨first, hleft, h⟩ := bind_eq_ok.mp h
    obtain ⟨second, hright, h⟩ := bind_eq_ok.mp h
    obtain rfl := pure_eq_ok_iff.mp h
    exact forall_expands_append (body_expands left hleft) (body_expands right hright)
  | .values _, h => by
    cases h
    nofun
  | .query q, h => query_expands q h

end

theorem statement_expands {embedsOnly : Bool} {scope : Scope} {s : Statement} {edits : List Edit}
    (h : statement embedsOnly scope s = .ok edits) : ∀ e ∈ edits, Expands s.exprs e := by
  cases s with
  | select q => exact query_expands q h
  | insert i =>
    obtain ⟨first, hsource, h⟩ := bind_eq_ok.mp h
    obtain ⟨table, -, h⟩ := bind_eq_ok.mp h
    obtain ⟨second, htargets, h⟩ := bind_eq_ok.mp h
    obtain rfl := pure_eq_ok_iff.mp h
    have hfirst : ∀ e ∈ first, Expands ((i.source.map Visit.query).getD []) e := by
      cases hi : i.source with
      | none =>
        rw [hi] at hsource
        cases hsource
        nofun
      | some q =>
        rw [hi] at hsource
        exact query_expands q hsource
    intro e he
    refine (forall_expands_append hfirst (targets_expands htargets) e he).mono fun x hx => ?_
    simp only [Statement.exprs, List.mem_append] at hx ⊢
    rcases hx with hx | hx
    · exact Or.inl (Or.inl (Or.inl hx))
    · exact Or.inr hx
  | update u =>
    obtain ⟨tables, -, h⟩ := bind_eq_ok.mp h
    exact fun e he => (targets_expands h e he).mono (List.subset_append_right _ _)
  | delete d =>
    obtain ⟨tables, -, h⟩ := bind_eq_ok.mp h
    exact fun e he => (targets_expands h e he).mono (List.subset_append_right _ _)
  | truncate | define | noOp | other =>
    cases h
    nofun

end Expansion

end TypedSql
