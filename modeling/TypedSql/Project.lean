import TypedSql.Catalog.Replay
import TypedSql.QueryHeader
import TypedSql.TypedQuery

/-!
# Projects

A project is built from schema files, whose statements are replayed into its catalog, and then answers
what the statements of query files mean. A query of a file is a statement with a header.
-/

namespace TypedSql

structure LocatedError where
  location : Nat
  line : Nat
  error : Error
  deriving Repr, DecidableEq

namespace LocatedError

def ofChunk (c : Chunk) (error : Error) : LocatedError :=
  { location := c.location, line := c.line, error }

def ofText (error : Error) : LocatedError :=
  { location := 0, line := 1, error }

end LocatedError

structure NamedQuery where
  header : QueryHeader
  location : Nat
  line : Nat
  query : TypedQuery
  deriving Repr, DecidableEq

structure QueryFile where
  name : String
  queries : List NamedQuery
  errors : List LocatedError
  deriving Repr, DecidableEq

structure Project where
  settings : Settings
  catalog : Catalog
  deriving Repr, DecidableEq

namespace Project

def initial (settings : Settings) : Project :=
  { settings, catalog := .initial settings }

/-- Replays of schema files; what was done before an error stays. -/
abbrev Replay := ExceptT LocatedError (StateM Catalog)

def replayChunk (c : Chunk) : Replay Outcome :=
  ExceptT.adapt (LocatedError.ofChunk c) do
    let s ← SourceStatement.ofChunk c
    s.statement.replay

def replayFile (t : Text) : Replay (List Outcome) := do
  let chunks ← (Script.split t).mapError LocatedError.ofText
  chunks.mapM replayChunk

def run {α : Type} (p : Project) (m : Replay α) : Except LocatedError α × Project :=
  let (a, catalog) := StateT.run (ExceptT.run m) p.catalog
  (a, { p with catalog })

def addSchema (p : Project) (t : Text) : Except LocatedError (List Outcome) × Project :=
  p.run (replayFile t)

def addSchemas (p : Project) (ts : List Text) : Except LocatedError (List Outcome) × Project :=
  p.run (List.flatten <$> ts.mapM replayFile)

def analyse (p : Project) (t : Text) : Except LocatedError TypedQuery := do
  let c ← (Script.single t).mapError LocatedError.ofText
  (TypedQuery.ofChunk p.catalog p.settings c).mapError (LocatedError.ofChunk c)

def query? (p : Project) (c : Chunk) : Except Error (Option NamedQuery) := do
  match ← QueryHeader.parse c.comments with
  | none => pure none
  | some header =>
    let query ← TypedQuery.ofChunk p.catalog p.settings c
    return some { header, location := c.location, line := c.line, query }

def addChunk (p : Project) (c : Chunk) (file : QueryFile) : QueryFile :=
  match p.query? c with
  | .ok (some q) => { file with queries := q :: file.queries }
  | .ok none => file
  | .error e => { file with errors := .ofChunk c e :: file.errors }

/-- Analyses a query file. A statement that fails does not stop the others. -/
def analyseFile (p : Project) (name : String) (t : Text) : QueryFile :=
  match Script.split t with
  | .error e => { name, queries := [], errors := [.ofText e] }
  | .ok chunks => chunks.foldr p.addChunk { name, queries := [], errors := [] }

def analyseFiles (p : Project) (files : List (String × Text)) : List QueryFile :=
  files.map fun (name, t) => p.analyseFile name t

end Project

end TypedSql
