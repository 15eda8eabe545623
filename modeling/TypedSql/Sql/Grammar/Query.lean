import TypedSql.Sql.Grammar.Table

/-!
# Queries and changes of rows

Select statements, combined queries, and the statements that insert, update and delete rows. The
first two of those may stand where a query does, but of such a one only its kind and its text are
kept.
-/

namespace TypedSql.Sql.Parser

def selectItem (r : Level) : Parser SelectItem := do
  match ← star? with
  | some qualifier => pure (.star qualifier)
  | none =>
    let e ← r.expr 0
    match e with
    | .ident i => require (i.quote.isSome || i.name != "from")
    | _ => pure ()
    match ← label? reservedAfterExpr with
    | some name => pure (.aliased e name)
    | none => pure (.expr e)

def returning? (r : Level) : Parser (List SelectItem) := do
  return (← after? "RETURNING" (commaList (selectItem r))).getD []

def distinct? (r : Level) : Parser (Bool × String) := do
  let all ← keyword? "ALL"
  let distinct ← keyword? "DISTINCT"
  if !distinct then pure (false, "")
  else
    require !all
    if ← keyword? "ON" then
      let es ← parens (commaList0 (r.expr 0) ")")
      pure (true, "DISTINCT ON (" ++ renderExprs es ++ ") ")
    else pure (true, "DISTINCT ")

def top (r : Level) : Parser String := do
  let count ← do
    match ← parens? (r.expr 0) with
    | some e => pure ("(" ++ e.render ++ ")")
    | none => pure (toString (← natural))
  let percent ← keyword? "PERCENT"
  let ties ← keywords? ["WITH", "TIES"]
  pure ("TOP " ++ count ++ textIf percent " PERCENT" ++ textIf ties " WITH TIES" ++ " ")

def into : Parser String := do
  let temporary ← oneOf? ["TEMP", "TEMPORARY"]
  let unlogged ← keyword? "UNLOGGED"
  let table ← keyword? "TABLE"
  let name ← objectName
  pure (" INTO" ++ textIf temporary.isSome " TEMPORARY" ++ textIf unlogged " UNLOGGED" ++
    textIf table " TABLE" ++ " " ++ ObjectName.render name)

def lateralView? (r : Level) : Parser (Option String) := do
  if ← keywords? ["LATERAL", "VIEW"] then
    let outer ← keyword? "OUTER"
    let e ← r.expr 0
    let name ← objectName
    let labels ← commaList (label? ["WHERE", "GROUP", "CLUSTER", "HAVING", "LATERAL"])
    let labels := labels.filterMap id
    pure (some (" LATERAL VIEW" ++ textIf outer " OUTER" ++ " " ++ e.render ++ " " ++
      ObjectName.render name ++ textIf (!labels.isEmpty) (" AS " ++ identsText labels)))
  else pure none

def tuple (r : Level) (lifted : Bool) : Parser (List Expr) := do
  if lifted && !(← nextIsSymbol "(") then return [← r.expr 0]
  else parens (commaList0 (r.expr 0) ")")

def groupPieces (lifted : Bool) (es : List Expr) : List Piece :=
  if lifted && es.length = 1 then exprPieces es else .text "(" :: exprPieces es ++ [.text ")"]

def grouping (r : Level) (kind name : String) (lifted : Bool) : Parser Expr := do
  let groups ← parens (commaList (tuple r lifted))
  pure (.other kind
    (.text (name ++ " (") :: commaPieces (groups.map (groupPieces lifted)) ++ [.text ")"]))

def groupItem (r : Level) : Parser Expr := do
  if ← keywords? ["GROUPING", "SETS"] then grouping r "GroupingSets" "GROUPING SETS" false
  else if ← keyword? "CUBE" then grouping r "Cube" "CUBE" true
  else if ← keyword? "ROLLUP" then grouping r "Rollup" "ROLLUP" true
  else
    match ← get with
    | .symbol "(" :: .symbol ")" :: rest => set rest *> pure (.other "Tuple" [.text "()"])
    | _ => r.expr 0

def groupBy? (r : Level) : Parser (Bool × List Expr) := do
  if ← keywords? ["GROUP", "BY"] then
    if ← keyword? "ALL" then pure (true, []) else return (false, ← commaList (groupItem r))
  else pure (false, [])

def window (r : Level) : Parser String := do
  let name ← ident
  keyword "AS"
  symbol "("
  let window ← windowSpec r
  pure (name.render ++ " AS (" ++ renderPieces window ++ ")")

def windows? (r : Level) : Parser (Option String) :=
  after? "WINDOW" do return " WINDOW " ++ ", ".intercalate (← commaList (window r))

def qualify? (r : Level) : Parser (Option String) :=
  after? "QUALIFY" do return " QUALIFY " ++ (← r.expr 0).render

def windowClauses (r : Level) : Parser String := do
  match ← windows? r with
  | some windows => return windows ++ (← qualify? r).getD ""
  | none =>
    match ← qualify? r with
    | some condition => return condition ++ (← windows? r).getD ""
    | none => pure ""

def exprsBy? (r : Level) (k : String) : Parser String := do
  if ← keywords? [k, "BY"] then
    return " " ++ k ++ " BY " ++ renderExprs (← commaList (r.expr 0))
  else pure ""

def select (r : Level) : Parser Select := do
  keyword "SELECT"
  let (distinct, distinctText) ← distinct? r
  let top ← after? "TOP" (top r)
  let items ← commaList (selectItem r)
  let into ← after? "INTO" into
  let tables ← after? "FROM" (commaList (tables r))
  let views ← many (lateralView? r)
  let selection ← after? "WHERE" (r.expr 0)
  let (groupAll, groupBy) ← groupBy? r
  let cluster ← exprsBy? r "CLUSTER"
  let distribute ← exprsBy? r "DISTRIBUTE"
  let sort ← exprsBy? r "SORT"
  let having ← after? "HAVING" (r.expr 0)
  let windows ← windowClauses r
  pure
    { distinct, head := distinctText ++ top.getD "", items, into := into.getD ""
      tables := tables.getD [], views := "".intercalate views, selection, groupAll, groupBy
      spread := cluster ++ distribute ++ sort, having, windows }

def conflictWords? : Parser (Option String) := do
  let actions := ["REPLACE", "ROLLBACK", "ABORT", "FAIL", "IGNORE"]
  match ← attempt (do keyword "OR" *> oneOf actions) with
  | some k => pure (some ("OR " ++ k))
  | none => if ← keyword? "REPLACE" then pure (some "OR REPLACE") else pure none

def assignment (r : Level) : Parser Assignment := do
  let target ← do
    match ← parens? (commaList objectName) with
    | some names => pure (.columns names)
    | none => pure (.column (← objectName))
  symbol "="
  let value ← r.expr 0
  pure { target, value }

def onConflict (r : Level) : Parser OnConflict := do
  if ← keyword? "CONFLICT" then
    let target ← do
      if ← keywords? ["ON", "CONSTRAINT"] then
        pure (" ON CONSTRAINT " ++ ObjectName.render (← objectName))
      else
        match ← parens? (commaList ident) with
        | some ids => pure ("(" ++ identsText ids ++ ")")
        | none => pure ""
    keyword "DO"
    if ← keyword? "NOTHING" then pure (.nothing target)
    else
      keywords ["UPDATE", "SET"]
      let assignments ← commaList (assignment r)
      let selection ← after? "WHERE" (r.expr 0)
      pure (.update target assignments selection)
  else
    keywords ["DUPLICATE", "KEY", "UPDATE"]
    return .updateKey (← commaList (assignment r))

def partition? (r : Level) : Parser (List Expr) := do
  return (← after? "PARTITION" (parens (commaList (r.expr 0)))).getD []

def insertSource (r : Level) : Parser (List Ident × List Expr × Option Query) := do
  if ← keywords? ["DEFAULT", "VALUES"] then pure ([], [], none)
  else
    let (columns, partition) ← do
      match ← get with
      | .symbol "(" :: t :: _ =>
        if t.isKeyword "SELECT" then pure ([], []) else pure (← columns, ← partition? r)
      | _ => pure ([], ← partition? r)
    let query ← r.query
    pure (columns, partition, some query)

def fileFormats : List String :=
  ["AVRO", "JSONFILE", "ORC", "PARQUET", "RCFILE", "SEQUENCEFILE", "TEXTFILE"]

def insertDirectory (r : Level) (overwrites isLocal : Bool) : Parser String := do
  let path ← literalString
  let format ← do
    if ← keywords? ["STORED", "AS"] then pure (" STORED AS " ++ (← oneOf fileFormats)) else pure ""
  let source ← r.query
  pure ("INSERT" ++ textIf overwrites " OVERWRITE" ++ textIf isLocal " LOCAL" ++ " DIRECTORY '" ++
    path.toString ++ "'" ++ format ++ " " ++ source.render)

def insert (r : Level) : Parser Insertion := do
  let conflict ← conflictWords?
  let overwrites ← keyword? "OVERWRITE"
  let isInto ← keyword? "INTO"
  let isLocal ← keyword? "LOCAL"
  if ← keyword? "DIRECTORY" then return .directory (← insertDirectory r overwrites isLocal)
  else
    let isTable ← keyword? "TABLE"
    let table ← objectName
    let label ← after? "AS" ident
    let (columns, partition, source) ← insertSource r
    let onConflict ← after? "ON" (onConflict r)
    let returning ← returning? r
    let head := match conflict with
      | some words => "INSERT " ++ words ++ " INTO"
      | none => "INSERT" ++ textIf overwrites " OVERWRITE" ++ textIf isInto " INTO" ++
        textIf isTable " TABLE"
    pure (.rows
      { head, table, label, columns, partition, source, returning
        onConflict := onConflict.getD .none })

def update (r : Level) : Parser Update := do
  let conflict ← conflictWords?
  let table ← tables r
  keyword "SET"
  let assignments ← commaList (assignment r)
  let sources ← after? "FROM" (tables r)
  let selection ← after? "WHERE" (r.expr 0)
  let returning ← returning? r
  let head := "UPDATE" ++ (conflict.map (" " ++ ·)).getD ""
  pure { head, table, assignments, sources, selection, returning }

def row (r : Level) : Parser (Bool × List Expr) := do
  let named ← keyword? "ROW"
  let es ← parens (commaList (r.expr 0))
  pure (named, es)

/-- A query that is a table, after its keyword. Three tokens are taken, as far as there are so
many. -/
def tableBody : Parser Body := do
  let name ← do
    match ← get with
    | .word schema :: .symbol "." :: .word table :: rest =>
      set rest
      pure (schema.text.toString ++ "." ++ table.text.toString)
    | .word _ :: .symbol "." :: _ => mismatch
    | .word table :: rest =>
      set (rest.drop 2)
      pure table.text.toString
    | _ => mismatch
  pure (.unsupported "Table" ("TABLE " ++ name))

def bodyStart (r : Level) : Parser Body := do
  if ← nextIsKeyword "SELECT" then return .select (← select r)
  else if ← nextIsSymbol "(" then return .query (← parens r.query)
  else if ← keyword? "VALUES" then
    let rows ← commaList (row r)
    pure (.values (rows.any Prod.fst) (rows.map Prod.snd))
  else
    keyword "TABLE"
    tableBody

def setOperator? : Parser (Option (SetOperator × Nat)) := do
  if ← nextIsKeyword "UNION" then pure (some (.union, 10))
  else if ← nextIsKeyword "EXCEPT" then pure (some (.except, 10))
  else if ← nextIsKeyword "INTERSECT" then pure (some (.intersect, 20))
  else pure none

def setQuantifier : Parser String := do
  if ← keywords? ["DISTINCT", "BY", "NAME"] then pure " DISTINCT BY NAME"
  else if ← keywords? ["BY", "NAME"] then pure " BY NAME"
  else if ← keywords? ["ALL", "BY", "NAME"] then pure " ALL BY NAME"
  else if ← keyword? "ALL" then pure " ALL"
  else if ← keyword? "DISTINCT" then pure " DISTINCT"
  else pure ""

def bodyFrom (r : Level) : Nat → Nat → Parser Body
  | 0, _ => mismatch
  | fuel + 1, precedence => do
    let first ← bodyStart r
    extend (fun left => do
      match ← setOperator? with
      | some (op, next) =>
        if precedence < next then
          let _ ← Parser.next
          let quantifier ← setQuantifier
          let right ← bodyFrom r fuel next
          pure (some (.setOp op quantifier left right))
        else pure none
      | none => pure none) first

def limit (r : Level) : Parser (Option Expr) := do
  if ← keyword? "ALL" then pure none else some <$> r.expr 0

def offset (r : Level) : Parser (Expr × String) := do
  let e ← r.expr 0
  let word ← oneOf? ["ROW", "ROWS"]
  pure (e, (word.map (" " ++ ·)).getD "")

structure Bounds where
  limit : Option Expr := none
  offset : Option (Expr × String) := none

def boundRound (r : Level) (bounds : Bounds) : Parser Bounds := do
  let limit ← do
    match bounds.limit with
    | some e => pure (some e)
    | none => if ← keyword? "LIMIT" then limit r else pure none
  let offset ← do
    match bounds.offset with
    | some o => pure (some o)
    | none => after? "OFFSET" (offset r)
  pure { limit, offset }

def fetch : Parser String := do
  let _ ← oneOf ["FIRST", "NEXT"]
  let count ← do
    if (← oneOf? ["ROW", "ROWS"]).isSome then pure ""
    else
      let v ← value
      let percent ← keyword? "PERCENT"
      let _ ← oneOf ["ROW", "ROWS"]
      pure (v.render ++ textIf percent " PERCENT" ++ " ")
  if ← keyword? "ONLY" then pure (" FETCH FIRST " ++ count ++ "ROWS ONLY")
  else
    keywords ["WITH", "TIES"]
    pure (" FETCH FIRST " ++ count ++ "ROWS WITH TIES")

def element? : Parser String := do
  match ← parens? literalString with
  | some t => pure ("('" ++ t.toString ++ "')")
  | none => pure ""

/-- The options of a document, each after a comma. An option that is not known is not taken, but the
comma before it is. -/
def documentOptions (option? : Parser (Option (String × String))) : Parser (List (String × String)) := do
  let options ← many do
    if ← symbol? "," then
      match ← option? with
      | some o => pure (some [o])
      | none => pure (some [])
    else pure none
  pure options.flatten

def optionText (options : List (String × String)) (k : String) : String :=
  ((options.reverse.lookup k).map (", " ++ ·)).getD ""

def rootOption? : Parser (Option (String × String)) :=
  after? "ROOT" do
    let name ← parens literalString
    pure ("ROOT", "ROOT('" ++ name.toString ++ "')")

def xmlOption? : Parser (Option (String × String)) := do
  if ← keyword? "ELEMENTS" then pure (some ("ELEMENTS", "ELEMENTS"))
  else if ← keyword? "BINARY" then keyword "BASE64" *> pure (some ("BINARY", "BINARY BASE64"))
  else if ← keyword? "TYPE" then pure (some ("TYPE", "TYPE"))
  else rootOption?

def jsonOption? : Parser (Option (String × String)) := do
  match ← oneOf? ["INCLUDE_NULL_VALUES", "WITHOUT_ARRAY_WRAPPER"] with
  | some k => pure (some (k, k))
  | none => rootOption?

def document? : Parser (Option String) := do
  if ← keyword? "XML" then
    let mode ← oneOf ["RAW", "AUTO", "EXPLICIT", "PATH"]
    let name ← if mode = "RAW" || mode = "PATH" then element? else pure ""
    let options ← documentOptions xmlOption?
    let texts := ["BINARY", "TYPE", "ROOT", "ELEMENTS"].map (optionText options)
    pure (some (" FOR XML " ++ mode ++ name ++ "".intercalate texts))
  else if ← keyword? "JSON" then
    let mode ← oneOf ["AUTO", "PATH"]
    let options ← documentOptions jsonOption?
    let texts := ["ROOT", "INCLUDE_NULL_VALUES", "WITHOUT_ARRAY_WRAPPER"].map (optionText options)
    pure (some (" FOR JSON " ++ mode ++ "".intercalate texts))
  else if ← keyword? "BROWSE" then pure (some " FOR BROWSE")
  else pure none

def lock : Parser String := do
  let k ← oneOf ["UPDATE", "SHARE"]
  let table ← after? "OF" objectName
  let wait ← do
    if ← keyword? "NOWAIT" then pure " NOWAIT"
    else if ← keywords? ["SKIP", "LOCKED"] then pure " SKIP LOCKED"
    else pure ""
  pure (" FOR " ++ k ++ ((table.map fun t => " OF " ++ ObjectName.render t).getD "") ++ wait)

/-- The locks on the rows of a query. The form of a document ends them. -/
def locksFrom : Nat → Parser String
  | 0 => pure ""
  | fuel + 1 => do
    if ← keyword? "FOR" then
      match ← document? with
      | some text => pure text
      | none =>
        let text ← lock
        return text ++ (← locksFrom fuel)
    else pure ""

def cte (r : Level) : Parser Cte := do
  let name ← ident
  let columns ← do
    if ← nextIsKeyword "AS" then pure [] else columnLabels
  keyword "AS"
  let head ← do
    if ← keyword? "MATERIALIZED" then pure "MATERIALIZED "
    else if ← keywords? ["NOT", "MATERIALIZED"] then pure "NOT MATERIALIZED "
    else pure ""
  let query ← parens r.query
  let source ← after? "FROM" ident
  pure { label := { name, columns }, head, query
         tail := (source.map fun i => " FROM " ++ i.render).getD "" }

def ctes? (r : Level) : Parser (Bool × List Cte) := do
  if ← keyword? "WITH" then
    let isRecursive ← keyword? "RECURSIVE"
    return (isRecursive, ← commaList (cte r))
  else pure (false, [])

def query (r : Level) : Parser Query := do
  let (isRecursive, ctes) ← ctes? r
  let unsupported (kind text : String) : Query :=
    { isRecursive, ctes, body := .unsupported kind text, orderBy := [], limit := none, offset := none
      rows := "", tail := "" }
  if ← keyword? "INSERT" then return unsupported "Insert" (← insert r).render
  else if ← keyword? "UPDATE" then return unsupported "Update" (← update r).render
  else
    let body ← bodyFrom r ((← get).length + 1) 0
    let orderBy ← do
      if ← keywords? ["ORDER", "BY"] then commaList (orderItem r) else pure []
    let bounds ← boundRound r {}
    let bounds ← boundRound r bounds
    let fetched ← after? "FETCH" fetch
    let locks ← locksFrom ((← get).length + 1)
    pure { isRecursive, ctes, body, orderBy, limit := bounds.limit
           offset := bounds.offset.map Prod.fst, rows := (bounds.offset.map Prod.snd).getD ""
           tail := fetched.getD "" ++ locks }

def delete (r : Level) : Parser Delete := do
  if !(← keyword? "FROM") then
    let _ ← commaList objectName
    keyword "FROM"
  let tables ← commaList (Parser.tables r)
  let sources ← after? "USING" (commaList (Parser.tables r))
  let selection ← after? "WHERE" (r.expr 0)
  let returning ← returning? r
  if ← keywords? ["ORDER", "BY"] then
    let _ ← commaList (orderItem r)
  let _ ← after? "LIMIT" (limit r)
  pure { tables, sources := sources.getD [], selection, returning }

def truncate (r : Level) : Parser (List ObjectName) := do
  let _ ← keyword? "TABLE"
  let _ ← keyword? "ONLY"
  let tables ← commaList objectName
  let _ ← partition? r
  if !(← keywords? ["RESTART", "IDENTITY"]) then
    let _ ← keywords? ["CONTINUE", "IDENTITY"]
  let _ ← oneOf? ["CASCADE", "RESTRICT"]
  if ← keywords? ["ON", "CLUSTER"] then
    let _ ← ident
  pure tables

end TypedSql.Sql.Parser
