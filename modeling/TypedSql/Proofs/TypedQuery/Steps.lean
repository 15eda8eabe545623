import TypedSql.Project
import TypedSql.Proofs.Fallible
import TypedSql.Proofs.Script
import TypedSql.Proofs.Statement.Numbering

/-!
# The steps of an analysis

An analysis that answers has gone through all of its steps, and each part of the answer comes from one of
them. What is known about a step can so be said of the answer.
-/

namespace TypedSql

namespace SourceStatement

structure ReadFrom (s : SourceStatement) (ls : List Lexeme) : Prop where
  lex : Lexer.lex s.chunk.text = some ls
  sites : s.chunk.sites = Sites.scan ls
  read : Statement.read s.chunk.text s.chunk.sites = .ok s.statement

def numbered (s : SourceStatement) : Numbered :=
  { statement := Renumber.statement (Numbered.ofSites {} s.chunk.sites.named).1.number? s.statement
    params := (Numbered.ofSites {} s.chunk.sites.named).1
    edits := (Numbered.ofSites {} s.chunk.sites.named).2 }

theorem numbered_of_ok {s : SourceStatement} {n : Numbered}
    (h : Numbered.ofStatement s.statement s.chunk.sites.named = .ok n) : n = s.numbered :=
  (Numbered.ofStatement_eq_ok h).2

end SourceStatement

theorem Script.readFrom_of_single {t : Text} {c : Chunk} {s : SourceStatement} (hc : single t = .ok c)
    (hs : SourceStatement.ofChunk c = .ok s) : ∃ ls, s.ReadFrom ls := by
  obtain ⟨ls, hlex, hsites⟩ := lex_of_single hc
  obtain ⟨statement, hread, hs⟩ := bind_eq_ok.mp hs
  obtain rfl := pure_eq_ok_iff.mp hs
  exact ⟨ls, hlex, hsites, hread⟩

namespace TypedQuery

/-- What the steps of an analysis of a statement gave. -/
structure Steps (catalog : Catalog) (settings : Settings) (s : SourceStatement) (q : TypedQuery) : Prop where
  kind : s.statement.queryKind = .ok q.kind
  check : s.statement.check = .ok ()
  numbered : Numbered.ofStatement s.statement s.chunk.sites.named = .ok s.numbered
  params : Scope.params { catalog } s.numbered.statement s.numbered.params = .ok q.params
  columns : Scope.statementColumns { catalog } s.numbered.statement = .ok q.columns
  edits : ∃ stars, Expansion.statement (!settings.expandStars) { catalog } s.numbered.statement = .ok stars ∧
    q.edits = Edit.sort (s.numbered.edits ++ stars)
  text : Edit.apply s.chunk.text q.edits = .ok q.text

theorem steps_of_ok {catalog : Catalog} {settings : Settings} {s : SourceStatement} {q : TypedQuery}
    (h : ofStatement catalog settings s = .ok q) : Steps catalog settings s q := by
  obtain ⟨kind, hkind, h⟩ := bind_eq_ok.mp h
  obtain ⟨hcheck, h⟩ := check_bind_eq_ok.mp h
  obtain ⟨numbered, hnumbered, h⟩ := bind_eq_ok.mp h
  obtain rfl := SourceStatement.numbered_of_ok hnumbered
  obtain ⟨params, hparams, h⟩ := bind_eq_ok.mp h
  obtain ⟨columns, hcolumns, h⟩ := bind_eq_ok.mp h
  obtain ⟨stars, hstars, h⟩ := bind_eq_ok.mp h
  obtain ⟨text, htext, h⟩ := bind_eq_ok.mp h
  obtain rfl := pure_eq_ok_iff.mp h
  exact ⟨hkind, hcheck, hnumbered, hparams, hcolumns, ⟨stars, hstars, rfl⟩, htext⟩

theorem insertInto_of_ok {catalog : Catalog} {settings : Settings} {s : SourceStatement} {q : TypedQuery}
    (h : ofStatement catalog settings s = .ok q) :
    q.insertInto = insertTarget? catalog s.numbered.statement := by
  obtain ⟨kind, -, h⟩ := bind_eq_ok.mp h
  obtain ⟨-, h⟩ := check_bind_eq_ok.mp h
  obtain ⟨numbered, hnumbered, h⟩ := bind_eq_ok.mp h
  obtain rfl := SourceStatement.numbered_of_ok hnumbered
  obtain ⟨params, -, h⟩ := bind_eq_ok.mp h
  obtain ⟨columns, -, h⟩ := bind_eq_ok.mp h
  obtain ⟨stars, -, h⟩ := bind_eq_ok.mp h
  obtain ⟨text, -, h⟩ := bind_eq_ok.mp h
  obtain rfl := pure_eq_ok_iff.mp h
  rfl

theorem ofStatement_of_steps {catalog : Catalog} {settings : Settings} {s : SourceStatement} {q : TypedQuery}
    (h : Steps catalog settings s q) (hinsert : q.insertInto = insertTarget? catalog s.numbered.statement) :
    ofStatement catalog settings s = .ok q := by
  obtain ⟨stars, hstars, hedits⟩ := h.edits
  have htext := h.text
  rw [hedits] at htext
  refine bind_eq_ok.mpr ⟨q.kind, h.kind, check_bind_eq_ok.mpr ⟨h.check, ?_⟩⟩
  refine bind_eq_ok.mpr ⟨_, h.numbered, bind_eq_ok.mpr ⟨_, h.params, bind_eq_ok.mpr ⟨_, h.columns, ?_⟩⟩⟩
  refine bind_eq_ok.mpr ⟨stars, hstars, bind_eq_ok.mpr ⟨q.text, htext, ?_⟩⟩
  rw [pure_eq_ok, ← hedits, ← hinsert]

end TypedQuery

namespace Project

theorem analyse_eq_ok {p : Project} {t : Text} {q : TypedQuery} (h : p.analyse t = .ok q) :
    ∃ c s, Script.single t = .ok c ∧ SourceStatement.ofChunk c = .ok s ∧
      TypedQuery.ofStatement p.catalog p.settings s = .ok q := by
  obtain ⟨c, hc, h⟩ := bind_eq_ok.mp h
  have hc := mapError_eq_ok.mp hc
  obtain ⟨s, hs, hq⟩ := bind_eq_ok.mp (mapError_eq_ok.mp h)
  exact ⟨c, s, hc, hs, hq⟩

end Project

end TypedSql
