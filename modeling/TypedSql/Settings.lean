/-!
# Settings

What a project may choose about how names are looked up and queries are analysed.
-/

namespace TypedSql

def systemSchema : String := "pg_catalog"

structure Settings where
  defaultSchema : String := "public"
  searchPath : List String := []
  expandStars : Bool := true
  parallelQueries : Bool := true
  deriving Repr, DecidableEq

/-- The schemas searched for an unqualified function, in order: the built-in functions, the default
schema, then each further schema that is not there yet. -/
def Settings.functionSearchPath (s : Settings) : List String :=
  s.searchPath.foldl (fun path schema => if path.contains schema then path else path ++ [schema])
    [systemSchema, s.defaultSchema]

end TypedSql
