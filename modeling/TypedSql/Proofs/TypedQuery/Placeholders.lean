import Mathlib.Control.Monad.Basic
import TypedSql.Proofs.Expansion
import TypedSql.Proofs.Inference.Occurrences
import TypedSql.Proofs.Statement.Numbering
import TypedSql.Proofs.TypedQuery.Steps
import TypedSql.Proofs.Wildcard

/-!
# Placeholders and parameters

The parameters that an analysis reports come from the tree of a statement, the placeholders of the text
that it answers from the sites among its lexemes. The two agree exactly where the sites have the numbers
that the tree has.
-/

namespace TypedSql

/-- The numbers of the parameters in the text of a chunk, by their sites. A placeholder carries no number
that is too large. -/
def Chunk.numbers (c : Chunk) : List Nat :=
  c.sites.positional.map PositionalSite.number ++
    (c.sites.named.filterMap fun site => (Numbered.ofSites {} c.sites.named).1.number? site.name).filter
      (· ≤ Sites.maxNumber)

def Expr.numberIn? (set : ParamSet) : Expr → Option Nat
  | .param n _ => some n
  | .named name _ => set.number? name
  | _ => none

theorem Expr.param?_renumber (set : ParamSet) (e : Expr) :
    (Renumber.expr set.number? e).param? = e.numberIn? set := by
  cases e with
  | named name style =>
    rw [Renumber.expr, numberIn?]
    split
    · rename_i n hn
      rw [hn]
      rfl
    · rename_i hn
      rw [hn]
      rfl
  | _ => rfl

namespace SourceStatement

def numbers (s : SourceStatement) : List Nat :=
  s.statement.exprs.filterMap (Expr.numberIn? (Numbered.ofSites {} s.chunk.sites.named).1)

end SourceStatement

namespace TypedQuery

theorem ofStatement_params {catalog : Catalog} {settings : Settings} {s : SourceStatement}
    {q : TypedQuery} (h : ofStatement catalog settings s = .ok q) (n : Nat) :
    1 ≤ n ∧ n ≤ q.params.length ↔ n ∈ s.numbers := by
  obtain ⟨hdense, hmem⟩ := Scope.params_numbers (steps_of_ok h).params
  have hnumbers : s.numbers = (Renumber.statement
      (Numbered.ofSites {} s.chunk.sites.named).1.number? s.statement).exprs.filterMap Expr.param? := by
    rw [Renumber.exprs_statement, List.filterMap_map]
    exact congrArg (List.filterMap · _) (funext fun e => (Expr.param?_renumber _ e).symm)
  have hmem : n ∈ q.params.map TypedParam.number ↔ n ∈ s.numbers := by
    rw [hnumbers]
    exact hmem n
  rw [← hmem, hdense, List.mem_range'_1]
  omega

theorem spans_of_star {ls : List Lexeme} {text : Text} {s : Statement} {star : StarRef} {location : Nat}
    (hs : Statement.read text (Sites.scan ls) = .ok s) (number : String → Option Nat)
    (hstar : .star star ∈ (Renumber.statement number s).exprs) (hlocation : star.location = some location) :
    Lexeme.Spans ls location star.text := by
  rw [Renumber.exprs_statement] at hstar
  obtain ⟨e, he, heq⟩ := List.mem_map.mp hstar
  have he' : e = .star star := by
    cases e with
    | named name style =>
      rw [Renumber.expr] at heq
      split at heq <;> cases heq
    | star s => exact heq
    | _ => cases heq
  obtain ⟨rs, left, hclaims, hperm⟩ := Statement.claims_of_read hs
  have hmem : star ∈ s.stars := List.mem_filterMap.mpr ⟨e, he, by rw [he']; rfl⟩
  obtain ⟨site, hsite, rfl⟩ := hclaims.exists_site (hperm.mem_iff.mp hmem) (by rw [hlocation]; rfl)
  cases hlocation
  exact (Sites.scan_lie ls).stars site hsite

theorem placed_of_expands {ls : List Lexeme} {text : Text} {s : Statement} {e : Edit}
    (hs : Statement.read text (Sites.scan ls) = .ok s) (number : String → Option Nat)
    (he : Expansion.Expands (Renumber.statement number s).exprs e) :
    e.Placed ls ∧ e.new.placeholders = [] := by
  obtain ⟨⟨star, hstar, hlocation, hold⟩, hspelled⟩ := he
  have hspans := spans_of_star hs number hstar hlocation
  rw [hold] at hspans
  by_cases hne : e.new = []
  · refine ⟨⟨hspans, fun h => absurd hne h, [], ?_⟩, by rw [hne]; rfl⟩
    rw [hne]
    exact ⟨rfl, fun rest _ => .nil rest⟩
  · obtain ⟨hfresh, new, hnew, hnames⟩ := hspelled hne
    refine ⟨⟨hspans, fun _ => hfresh, new, hnew⟩, ?_⟩
    rw [Text.placeholders, hnew.lex_eq]
    refine Lexeme.placeholders_eq_nil fun l hl => ?_
    have hpart := hnames.parts l hl
    cases htoken : l.token with
    | placeholder p =>
      rw [htoken] at hpart
      cases hpart
    | _ => rfl

namespace Steps

variable {catalog : Catalog} {settings : Settings} {s : SourceStatement} {q : TypedQuery}
  {ls : List Lexeme}

theorem exists_stars (h : Steps catalog settings s q) (hs : s.ReadFrom ls) :
    ∃ stars : List Edit, (∀ e, e ∈ q.edits ↔ e ∈ s.numbered.edits ∨ e ∈ stars) ∧
      ∀ e ∈ stars, Expansion.Expands s.numbered.statement.exprs e ∧ e.Placed ls ∧ e.new.placeholders = [] := by
  obtain ⟨stars, hstars, hedits⟩ := h.edits
  have hread := hs.read
  rw [hs.sites] at hread
  refine ⟨stars, fun e => ?_, fun e he => ?_⟩
  · rw [hedits, Edit.sort, List.mem_mergeSort, List.mem_append]
  · have hexpands := Expansion.statement_expands hstars e he
    exact ⟨hexpands, placed_of_expands hread _ hexpands⟩

theorem placed (h : Steps catalog settings s q) (hs : s.ReadFrom ls) : ∀ e ∈ q.edits, e.Placed ls := by
  obtain ⟨stars, hmem, hstars⟩ := h.exists_stars hs
  intro e he
  rcases (hmem e).mp he with he | he
  · obtain ⟨site, hsite, m, -, rfl⟩ := Numbered.mem_ofSites_edits.mp he
    rw [hs.sites] at hsite
    exact NamedSite.placed_edit ((Sites.scan_lie ls).named site hsite) m
  · exact (hstars e he).2.1

end Steps

theorem ofStatement_placeholders {catalog : Catalog} {settings : Settings} {s : SourceStatement}
    {q : TypedQuery} {ls : List Lexeme} (hlex : Lexer.lex s.chunk.text = some ls)
    (hsites : s.chunk.sites = Sites.scan ls)
    (hs : Statement.read s.chunk.text s.chunk.sites = .ok s.statement)
    (h : ofStatement catalog settings s = .ok q) (hapart : Edit.apart s.chunk.text q.edits = true)
    (n : Nat) : n ∈ q.text.placeholders ↔ n ∈ s.chunk.numbers := by
  have hsteps := steps_of_ok h
  have hread : s.ReadFrom ls := ⟨hlex, hsites, hs⟩
  obtain ⟨stars, hmem, hstars⟩ := hsteps.exists_stars hread
  rw [Edit.apply_placeholders hlex (hsteps.placed hread) hapart hsteps.text, Chunk.numbers, List.mem_append]
  refine or_congr ?_ ?_
  · rw [Text.placeholders, hlex, hsites, Sites.scan_positional]
    rfl
  · simp only [hmem, List.mem_filter, List.mem_filterMap, decide_eq_true_eq]
    constructor
    · rintro ⟨e, he | he, hn⟩
      · obtain ⟨site, hsite, m, hm, rfl⟩ := Numbered.mem_ofSites_edits.mp he
        obtain ⟨rfl, hle⟩ := NamedSite.mem_placeholders_edit.mp hn
        exact ⟨⟨site, hsite, hm⟩, hle⟩
      · rw [(hstars e he).2.2] at hn
        cases hn
    · rintro ⟨⟨site, hsite, hm⟩, hle⟩
      refine ⟨site.edit n, Or.inl (Numbered.mem_ofSites_edits.mpr ⟨site, hsite, n, hm, rfl⟩), ?_⟩
      exact NamedSite.mem_placeholders_edit.mpr ⟨rfl, hle⟩

end TypedQuery

namespace Project

/-- The parameters of a query have the numbers in its tree. Where the edits keep apart from the text
around them, the placeholders of its text have the numbers of the sites. So the placeholders are the
parameters from one on exactly where the sites have the numbers in the tree. -/
theorem analyse_placeholders_iff {p : Project} {t : Text} {q : TypedQuery} (h : p.analyse t = .ok q) :
    ∃ s, Script.parseOne t = .ok s ∧
      (∀ n, 1 ≤ n ∧ n ≤ q.params.length ↔ n ∈ s.numbers) ∧
      (Edit.apart s.chunk.text q.edits = true →
        (∀ n, n ∈ q.text.placeholders ↔ n ∈ s.chunk.numbers) ∧
        ((∀ n, n ∈ q.text.placeholders ↔ 1 ≤ n ∧ n ≤ q.params.length) ↔
          ∀ n, n ∈ s.chunk.numbers ↔ n ∈ s.numbers)) := by
  obtain ⟨c, s, hc, hs, hq⟩ := analyse_eq_ok h
  have hparams := TypedQuery.ofStatement_params hq
  refine ⟨s, bind_eq_ok.mpr ⟨c, hc, hs⟩, hparams, fun hapart => ?_⟩
  obtain ⟨ls, hlex, hsites⟩ := Script.lex_of_single hc
  obtain ⟨statement, hread, hs⟩ := bind_eq_ok.mp hs
  obtain rfl := pure_eq_ok_iff.mp hs
  have hplaceholders := TypedQuery.ofStatement_placeholders hlex hsites hread hq hapart
  refine ⟨hplaceholders, ?_⟩
  simp only [hplaceholders, hparams]

theorem analyse_placeholders_wildcard :
    let c := ((Change.createTable (.ofName "t") [{ name := "a", type := .ofName "int" }]).apply (.initial {})).2
    let p : Project := { settings := {}, catalog := c }
    ∃ q, p.analyse "SELECT * FROM t WHERE a = @x".toList = .ok q ∧
      q.edits = [⟨7, "*".toList, "a".toList⟩, ⟨26, "@x".toList, "$1".toList⟩] ∧
      ∀ n, n ∈ q.text.placeholders ↔ 1 ≤ n ∧ n ≤ q.params.length := by
  intro c p
  let text := "SELECT * FROM t WHERE a = @x".toList
  have hedits : (p.analyse text).toOption.map TypedQuery.edits =
      some [⟨7, "*".toList, "a".toList⟩, ⟨26, "@x".toList, "$1".toList⟩] := by
    unfold analyse TypedQuery.ofChunk TypedQuery.ofStatement Edit.apply
    rw [Edit.sort_eq_insertionSort]
    decide +kernel
  have hnumbers : (Script.parseOne text).toOption.map (fun s => (s.chunk.text, s.chunk.numbers, s.numbers)) =
      some (text, [1], [1]) := by
    decide +kernel
  obtain ⟨q, hq, hedits⟩ := exists_of_map_toOption hedits
  obtain ⟨s, hs, -, hplaceholders⟩ := analyse_placeholders_iff hq
  rw [hs] at hnumbers
  obtain ⟨htext, hnumbers⟩ := Prod.mk.inj (Option.some_inj.mp hnumbers)
  obtain ⟨hsites, htree⟩ := Prod.mk.inj hnumbers
  have hapart : Edit.apart s.chunk.text q.edits = true := by
    rw [htext, hedits]
    decide +kernel
  refine ⟨q, hq, hedits, (hplaceholders hapart).2.mpr fun n => ?_⟩
  rw [hsites, htree]

/-- A clause that the tree does not keep, a sign in front of a cast, and a sign right behind a word. -/
theorem analyse_placeholders_differ :
    let numbers (t : String) := ((Project.initial {}).analyse t.toList).toOption.map fun q =>
      (q.text.placeholders, q.params.map TypedParam.number)
    numbers "SELECT count(*) FILTER (WHERE $1)" = some ([1], []) ∧
      numbers "SELECT @x::int" = some ([1], []) ∧ numbers "SELECT@x" = some ([], [1]) := by
  decide +kernel

end Project

end TypedSql
