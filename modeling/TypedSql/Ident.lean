import TypedSql.Text.Case

/-!
# Identifiers

An identifier is written bare when it is a lower-case word that the language does not reserve, and
between double quotes otherwise.
-/

namespace TypedSql.Ident

def reserved : List String :=
  ["all", "analyse", "analyze", "and", "any", "array", "as", "asc", "asymmetric", "authorization",
  "binary", "both", "case", "cast", "check", "collate", "collation", "column", "concurrently",
  "constraint", "create", "cross", "current_catalog", "current_date", "current_role",
  "current_schema", "current_time", "current_timestamp", "current_user", "default", "deferrable",
  "desc", "distinct", "do", "else", "end", "except", "false", "fetch", "for", "foreign", "freeze",
  "from", "full", "grant", "group", "having", "ilike", "in", "initially", "inner", "intersect",
  "into", "is", "isnull", "join", "lateral", "leading", "left", "like", "limit", "localtime",
  "localtimestamp", "natural", "not", "notnull", "null", "offset", "on", "only", "or", "order",
  "outer", "overlaps", "placing", "primary", "references", "returning", "right", "select",
  "session_user", "similar", "some", "symmetric", "system_user", "table", "tablesample", "then",
  "to", "trailing", "true", "union", "unique", "user", "using", "variadic", "verbose", "when",
  "where", "window", "with"]

def isReserved (t : Text) : Bool :=
  reserved.contains t.lower.toString

def isPlainStart (c : Char) : Bool :=
  c.isLower || c == '_'

def isPlainPart (c : Char) : Bool :=
  c.isLower || c.isDigit || c == '_' || c == '$'

/-- A lower-case identifier that needs no quotes for its spelling. -/
def isPlain : Text → Bool
  | [] => false
  | c :: t => isPlainStart c && t.all isPlainPart

def doubleQuotes (t : Text) : Text :=
  t.flatMap fun c => if c = '"' then ['"', '"'] else [c]

def quote (t : Text) : Text :=
  if isReserved t || !isPlain t then '"' :: doubleQuotes t ++ ['"'] else t

end TypedSql.Ident
