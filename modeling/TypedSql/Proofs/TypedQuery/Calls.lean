import TypedSql.Proofs.Site.Calls
import TypedSql.Proofs.TypedQuery.Faults
import TypedSql.Proofs.TypedQuery.Placeholders

/-!
# Calls that are left

A statement that is analysed has no call into the pseudo-schema in its tree: each was read as a parameter or
as an embedded table. Its text may still have one. The calls that go are those at the places that are edited,
and not every call of the text stands at such a place: queries inside expressions keep their wildcards, and
the tree does not keep every clause.
-/

namespace TypedSql

namespace Sites

open Lexer

theorem Inert.of_nameList {ls : List Lexeme} (h : NameList ls) : Inert ls := by
  have hname : ∀ {l : Lexeme}, l.token.isWord = true → l.token.isName = true := by
    intro l hword
    cases htoken : l.token with
    | word w => rfl
    | _ =>
      rw [htoken] at hword
      cases hword
  refine ⟨fun l hl heq => ?_, ?_, ?_⟩
  · have hpart := h.parts l hl
    rw [heq] at hpart
    cases hpart
  · obtain ⟨l, hl, hword⟩ := h.first
    exact ⟨l, hl, hname hword⟩
  · obtain ⟨l, hl, hword⟩ := h.last
    exact ⟨l, hl, hname hword⟩

theorem inert_placeholder (text : Text) : Inert [{ token := .placeholder text, text }] :=
  ⟨by simp, ⟨_, rfl, rfl⟩, ⟨_, rfl, rfl⟩⟩

end Sites

def Place.Touches (p : Place) (c : CallSite) : Prop :=
  p.location < c.stop ∧ c.location < p.stop

theorem SourceStatement.EditedBy.touches_iff {s : SourceStatement} {settings : Settings} {edits : List Edit}
    (h : s.EditedBy settings edits) (c : CallSite) :
    (∃ e ∈ edits, e.Touches c) ↔ ∃ p ∈ s.places settings, p.Touches c := by
  constructor
  · rintro ⟨e, he, htouch⟩
    obtain ⟨p, hp, hlocation, htext⟩ := h.exists_place he
    refine ⟨p, hp, ?_⟩
    rw [Place.Touches, Place.stop, hlocation, htext]
    exact htouch
  · rintro ⟨p, hp, htouch⟩
    obtain ⟨e, he, hlocation, htext⟩ := h.exists_edit hp
    refine ⟨e, he, ?_⟩
    rw [Edit.Touches, Edit.stop, hlocation, htext]
    exact htouch

namespace TypedQuery

open Lexer Sites

variable {catalog : Catalog} {settings : Settings} {s : SourceStatement} {q : TypedQuery} {ls : List Lexeme}

theorem Steps.inert (h : Steps catalog settings s q) (hs : s.ReadFrom ls)
    (hapart : Edit.apart s.chunk.text q.edits = true) :
    ∀ e ∈ q.edits, ∃ mid, Standalone e.new mid ∧ Inert mid := by
  obtain ⟨stars, hmem, hstars⟩ := h.exists_stars hs
  intro e he
  have hne : e.new ≠ [] := by
    have happ := List.all_eq_true.mp hapart e he
    simp only [Edit.isApart, Bool.and_eq_true, Bool.not_eq_true', List.isEmpty_eq_false_iff] at happ
    exact happ.1.1.1
  rcases (hmem e).mp he with he | he
  · obtain ⟨site, -, n, -, rfl⟩ := Numbered.mem_ofSites_edits.mp he
    exact ⟨_, site.standalone_edit n, inert_placeholder _⟩
  · obtain ⟨-, mid, hmid, hnames⟩ := (hstars e he).1.spelled hne
    exact ⟨mid, hmid, .of_nameList hnames⟩

theorem Steps.schema_ne (h : Steps catalog settings s q) {c : Call} {args : List Expr}
    (hcall : .call c args ∈ s.statement.exprs) :
    Text.eqIgnoreCase c.schema.toList pseudoSchema.toList = false := by
  obtain ⟨-, hcheck⟩ := check_bind_eq_ok.mp h.check
  obtain ⟨hcalls, -⟩ := check_bind_eq_ok.mp hcheck
  have hfault := Statement.checkEach_eq_ok.mp hcalls _ hcall
  rw [Expr.callFault?] at hfault
  split at hfault
  · cases hfault
  · rename_i hschema
    simpa using hschema

end TypedQuery

namespace Project

/-- No call into the pseudo-schema is left in the tree of an analysed text. Where the edits keep apart from the
text around them and no name that they bring runs on, the answer has no such call exactly if each call of the
text stands at a place that is edited. -/
theorem analyse_calls_iff {p : Project} {t : Text} {q : TypedQuery} (h : p.analyse t = .ok q) :
    ∃ s, Script.parseOne t = .ok s ∧
      (∀ c args, .call c args ∈ s.statement.exprs →
        Text.eqIgnoreCase c.schema.toList pseudoSchema.toList = false) ∧
      (Edit.apart s.chunk.text q.edits = true → Edit.closed s.chunk.text q.edits = true →
        (q.text.calls = [] ↔
          ∀ c ∈ s.chunk.text.calls, ∃ place ∈ s.places p.settings, place.Touches c)) := by
  obtain ⟨c, s, hc, hs, hq⟩ := analyse_eq_ok h
  obtain ⟨ls, hread⟩ := Script.readFrom_of_single hc hs
  have hsteps := TypedQuery.steps_of_ok hq
  refine ⟨s, bind_eq_ok.mpr ⟨c, hc, hs⟩, fun c args => hsteps.schema_ne, fun hapart hclosed => ?_⟩
  rw [Edit.apply_calls hread.lex (hsteps.placed hread) (hsteps.inert hread hapart) hapart hclosed hsteps.text]
  simp only [hsteps.editedBy.touches_iff]

theorem analyse_calls_arg :
    ∃ q, (Project.initial {}).analyse "SELECT sqlc.arg(x)::int".toList = .ok q ∧ q.text.calls = [] := by
  have hedits : ((Project.initial {}).analyse "SELECT sqlc.arg(x)::int".toList).toOption.map
      TypedQuery.edits = some [⟨7, "sqlc.arg(x)".toList, "$1".toList⟩] := by
    decide +kernel
  have hplaces : (Script.parseOne "SELECT sqlc.arg(x)::int".toList).toOption.map
      (fun s => (s.chunk.text, s.places {})) =
        some ("SELECT sqlc.arg(x)::int".toList, [⟨7, "sqlc.arg(x)".toList, false⟩]) := by
    decide +kernel
  have hcalls : Text.calls "SELECT sqlc.arg(x)::int".toList = [⟨7, "sqlc.arg(".toList⟩] := by decide +kernel
  obtain ⟨q, hq⟩ : ∃ q, (Project.initial {}).analyse "SELECT sqlc.arg(x)::int".toList = .ok q :=
    exists_of_isOk (by decide +kernel)
  rw [hq] at hedits
  obtain ⟨s, hs, -, hiff⟩ := analyse_calls_iff hq
  rw [hs] at hplaces
  obtain ⟨htext, hplaces⟩ := Prod.mk.inj (Option.some_inj.mp hplaces)
  rw [htext, show q.edits = _ from Option.some_inj.mp hedits, hcalls] at hiff
  refine ⟨q, hq, (hiff (by decide +kernel) (by decide +kernel)).mpr fun c hc => ?_⟩
  rw [List.mem_singleton.mp hc]
  refine ⟨⟨7, "sqlc.arg(x)".toList, false⟩, ?_, by decide +kernel, by decide +kernel⟩
  change _ ∈ s.places {}
  rw [hplaces]
  exact .head _

/-- Calls in a clause that the tree does not keep, and in a query inside an expression. -/
theorem analyse_keeps_calls :
    ((Project.initial {}).analyse "SELECT count(*) FILTER (WHERE sqlc.foo(1))".toList).toOption.map
        (·.text.calls) = some [⟨30, "sqlc.foo(".toList⟩] ∧
      ((Project.initial {}).analyse
        "WITH t AS (SELECT 1 AS a) SELECT (SELECT sqlc.embed(t) FROM t)".toList).toOption.map
        (·.text.calls) = some [⟨41, "sqlc.embed(".toList⟩] := by
  decide +kernel

end Project

end TypedSql
