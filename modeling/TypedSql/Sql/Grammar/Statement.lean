import TypedSql.Sql.Grammar.Definition

/-!
# Statements

All statements of the language. Those that an analysis has no use for are read and kept as their
kind alone, which is made of the first two words of their printed form in capitals.
-/

namespace TypedSql.Sql.Parser

def kindOf (text : String) : String :=
  Text.toString (Text.upper (headWords text).toList)

def other (text : String) : Statement :=
  .other (kindOf text)

def createIndex (r : Level) (unique : Bool) : Parser Statement := do
  let _ ← keyword? "CONCURRENTLY"
  if ← ifNotExists then
    let _ ← objectName
    keyword "ON"
  else if !(← keyword? "ON") then
    let _ ← objectName
    keyword "ON"
  let _ ← objectName
  let _ ← after? "USING" ident
  let _ ← parens (commaList (orderItem r))
  let _ ← after? "INCLUDE" columns
  if ← keyword? "NULLS" then
    let _ ← keyword? "NOT"
    keyword "DISTINCT"
  let _ ← after? "WITH" (parens (commaList (r.expr 0)))
  let _ ← after? "WHERE" (r.expr 0)
  pure (.noOp (if unique then "CREATE UNIQUE" else "CREATE INDEX"))

def createView (r : Level) (replace temporary : Bool) : Parser Statement := do
  let materialized ← keyword? "MATERIALIZED"
  keyword "VIEW"
  let _ ← objectName
  let _ ← parens? (commaList0 ident ")")
  let _ ← options? r ["WITH"]
  if ← keywords? ["CLUSTER", "BY"] then
    let _ ← parens? (commaList ident)
  keyword "AS"
  let _ ← r.query
  pure (.noOp ("CREATE " ++
    if replace then "OR"
    else if materialized then "MATERIALIZED"
    else if temporary then "TEMPORARY"
    else "VIEW"))

def createSequence (temporary : Bool) : Parser Statement := do
  let _ ← ifNotExists
  let _ ← objectName
  let _ ← after? "AS" dataType
  let _ ← sequenceOptions
  if ← keywords? ["OWNED", "BY"] then
    if !(← keyword? "NONE") then
      let _ ← objectName
  pure (.noOp (if temporary then "CREATE TEMPORARY" else "CREATE SEQUENCE"))

def createExtension : Parser Statement := do
  let _ ← ifNotExists
  let _ ← ident
  if ← keyword? "WITH" then
    let _ ← after? "SCHEMA" ident
    let _ ← after? "VERSION" ident
    let _ ← keyword? "CASCADE"
  pure (.other "CREATE EXTENSION")

def createDatabase : Parser Statement := do
  let _ ← ifNotExists
  let _ ← objectName
  let _ ← many do
    if (← oneOf? ["LOCATION", "MANAGEDLOCATION"]).isSome then some <$> literalString else pure none
  pure (.other "CREATE DATABASE")

def triggerEvent : Parser Unit := do
  let event ← oneOf ["INSERT", "UPDATE", "DELETE", "TRUNCATE"]
  if event = "UPDATE" then
    let _ ← after? "OF" (commaList ident)

/-- A table of the rows before or after a change. One word alone is taken but names none. -/
def transitionTable? : Parser (Option Unit) := do
  let found ← oneOf? ["OLD", "NEW"]
  if found.isSome && (← nextIsKeyword "TABLE") then
    keyword "TABLE"
    let _ ← keyword? "AS"
    let _ ← objectName
    pure (some ())
  else pure none

def createTrigger (r : Level) (kind : String) : Parser Statement := do
  let _ ← objectName
  let period ← oneOf ["BEFORE", "AFTER", "INSTEAD"]
  if period = "INSTEAD" then keyword "OF"
  triggerEvent
  let _ ← many (after? "OR" triggerEvent)
  keyword "ON"
  let _ ← objectName
  if ← keyword? "FROM" then looseName
  characteristics
  let _ ← after? "REFERENCING" (many transitionTable?)
  keyword "FOR"
  let _ ← keyword? "EACH"
  let _ ← oneOf ["ROW", "STATEMENT"]
  let _ ← after? "WHEN" (r.expr 0)
  keyword "EXECUTE"
  let _ ← oneOf ["FUNCTION", "PROCEDURE"]
  let _ ← signature r
  pure (.other kind)

def policyChecks (r : Level) : Parser Unit := do
  let _ ← after? "USING" (parens (r.expr 0))
  if ← keywords? ["WITH", "CHECK"] then
    let _ ← parens (r.expr 0)

def createPolicy (r : Level) : Parser Statement := do
  let _ ← ident
  keyword "ON"
  let _ ← objectName
  let _ ← after? "AS" (oneOf ["PERMISSIVE", "RESTRICTIVE"])
  let _ ← after? "FOR" (oneOf ["ALL", "SELECT", "INSERT", "UPDATE", "DELETE"])
  let _ ← after? "TO" (commaList ident)
  policyChecks r
  pure (.other "CREATE POLICY")

def roleFlags : List (String × String) :=
  [("LOGIN", "NOLOGIN"), ("SUPERUSER", "NOSUPERUSER"), ("CREATEDB", "NOCREATEDB"),
  ("CREATEROLE", "NOCREATEROLE"), ("INHERIT", "NOINHERIT"), ("REPLICATION", "NOREPLICATION"),
  ("BYPASSRLS", "NOBYPASSRLS")]

def roleOption? : Parser (Option String) := do
  match ← oneOf? (roleFlags.map Prod.fst) with
  | some k => pure (some k)
  | none =>
    match ← oneOf? (roleFlags.map Prod.snd) with
    | some k => pure ((roleFlags.find? fun flag => flag.2 = k).map Prod.fst)
    | none =>
      if ← keyword? "CONNECTION" then
        keyword "LIMIT"
        numberValue *> pure (some "CONNECTION")
      else if ← keyword? "PASSWORD" then
        if !(← keyword? "NULL") then
          let _ ← value
        pure (some "PASSWORD")
      else if ← keyword? "VALID" then
        keyword "UNTIL"
        value *> pure (some "VALID")
      else pure none

def newRoleOption? : Parser (Option String) := do
  match ← roleOption? with
  | some k => pure (some k)
  | none =>
    if ← keyword? "IN" then
      let k ← oneOf ["ROLE", "GROUP"]
      commaList ident *> pure (some ("IN " ++ k))
    else
      match ← oneOf? ["ROLE", "ADMIN", "USER"] with
      | some k => commaList ident *> pure (some k)
      | none => pure none

def createRole : Parser Statement := do
  let _ ← ifNotExists
  let _ ← commaList objectName
  let _ ← keyword? "WITH"
  let options ← many newRoleOption?
  require (decide options.Nodup)
  pure (.other "CREATE ROLE")

def createVirtualTable : Parser Statement := do
  keyword "TABLE"
  let _ ← ifNotExists
  let _ ← objectName
  keyword "USING"
  let _ ← ident
  let _ ← parens? (commaList ident)
  pure (.other "CREATE VIRTUAL")

def secretName? : Parser Unit := do
  if !(← nextIsSymbol "(") then
    let placed ← do
      if ← keyword? "IN" then looseIdent else looseIdent *> pure false
    if !placed && (← nextIsKeyword "IN") then
      keyword "IN"
      let _ ← looseIdent

def createSecret (kind : String) : Parser Statement := do
  let _ ← ifNotExists
  secretName?
  symbol "("
  keyword "TYPE"
  let _ ← ident
  if ← symbol? "," then
    let _ ← commaList (ident *> ident)
  symbol ")"
  pure (.other kind)

def procedureArgumentsFrom : Nat → Parser Unit
  | 0 => mismatch
  | fuel + 1 => do
    match ← peek with
    | some (.word _) =>
      let _ ← ident
      let _ ← dataType
    | _ => pure ()
    let comma ← symbol? ","
    if ← symbol? ")" then pure ()
    else
      require comma
      procedureArgumentsFrom fuel

def createProcedure (r : Level) (alter : Bool) : Parser Statement := do
  let _ ← objectName
  if ← symbol? "(" then
    if !(← symbol? ")") then procedureArgumentsFrom ((← get).length + 1)
  keywords ["AS", "BEGIN"]
  let _ ← r.statement
  keyword "END"
  pure (.other (if alter then "CREATE OR" else "CREATE PROCEDURE"))

def create (r : Level) : Parser Statement := do
  let plain ← nextIsKeyword "TYPE"
  let replace ← keywords? ["OR", "REPLACE"]
  let alter ← keywords? ["OR", "ALTER"]
  let _ ← keyword? "LOCAL"
  let _ ← keyword? "GLOBAL"
  let _ ← keyword? "TRANSIENT"
  let temporary := (← oneOf? ["TEMP", "TEMPORARY"]).isSome
  if ← keyword? "TABLE" then createTable r
  else if (← nextIsKeyword "MATERIALIZED") || (← nextIsKeyword "VIEW") then
    createView r replace temporary
  else if ← keyword? "POLICY" then createPolicy r
  else if ← keyword? "EXTERNAL" then createExternalTable r
  else if ← keyword? "FUNCTION" then createFunction r replace
  else if ← keyword? "TRIGGER" then createTrigger r (if replace then "CREATE OR" else "CREATE TRIGGER")
  else if ← keywords? ["CONSTRAINT", "TRIGGER"] then
    createTrigger r (if replace then "CREATE OR" else "CREATE CONSTRAINT")
  else if ← keyword? "SECRET" then
    createSecret ("CREATE " ++
      if replace then "OR" else if temporary then "TEMPORARY" else "SECRET")
  else
    require !replace
    let k ← oneOf ["EXTENSION", "INDEX", "UNIQUE", "VIRTUAL", "SCHEMA", "DATABASE", "ROLE",
      "SEQUENCE", "TYPE", "PROCEDURE"]
    if k = "EXTENSION" then createExtension
    else if k = "INDEX" then createIndex r false
    else if k = "UNIQUE" then keyword "INDEX" *> createIndex r true
    else if k = "VIRTUAL" then createVirtualTable
    else if k = "SCHEMA" then createSchema
    else if k = "DATABASE" then createDatabase
    else if k = "ROLE" then createRole
    else if k = "SEQUENCE" then createSequence temporary
    else if k = "PROCEDURE" then createProcedure r alter
    else createType plain

def alterView (r : Level) : Parser Statement := do
  let _ ← objectName
  let _ ← parens? (commaList ident)
  let _ ← options? r ["WITH"]
  keyword "AS"
  let _ ← r.query
  pure (.other "ALTER VIEW")

def alterRole (r : Level) : Parser Statement := do
  let _ ← ident
  if ← keywords? ["IN", "DATABASE"] then looseName
  if ← keyword? "RENAME" then
    keyword "TO"
    let _ ← ident
  else if ← keyword? "SET" then
    let _ ← objectName
    if !(← keywords? ["FROM", "CURRENT"]) then
      if !(← symbol? "=") then keyword "TO"
      if !(← keyword? "DEFAULT") then
        let _ ← r.expr 0
  else if ← keyword? "RESET" then
    if !(← keyword? "ALL") then
      let _ ← objectName
  else
    let _ ← keyword? "WITH"
    let options ← many roleOption?
    require !options.isEmpty
  pure (.other "ALTER ROLE")

def alterPolicy (r : Level) : Parser Statement := do
  let _ ← ident
  keyword "ON"
  let _ ← objectName
  if ← keyword? "RENAME" then
    keyword "TO"
    let _ ← ident
  else
    let _ ← after? "TO" (commaList ident)
    policyChecks r
  pure (.other "ALTER POLICY")

def alter (r : Level) : Parser Statement := do
  let k ← oneOf ["VIEW", "TABLE", "INDEX", "ROLE", "POLICY"]
  if k = "TABLE" then alterTable r
  else if k = "VIEW" then alterView r
  else if k = "INDEX" then
    let _ ← objectName
    keywords ["RENAME", "TO"]
    let _ ← objectName
    pure (.other "ALTER INDEX")
  else if k = "ROLE" then alterRole r
  else alterPolicy r

def privilege : Parser (String × Bool) := do
  let k ← oneOf ["CONNECT", "CREATE", "DELETE", "EXECUTE", "INSERT", "REFERENCES", "SELECT",
    "TEMPORARY", "TRIGGER", "TRUNCATE", "UPDATE", "USAGE"]
  let columns ← do
    if ["INSERT", "REFERENCES", "SELECT", "UPDATE"].contains k then
      parens? (commaList ident)
    else pure none
  pure (k, columns.isSome)

def privileges : Parser String := do
  let word ← do
    if ← keyword? "ALL" then
      let _ ← keyword? "PRIVILEGES"
      pure "ALL"
    else
      match ← commaList privilege with
      | (k, restricted) :: more =>
        pure (if restricted || more.isEmpty then k else k ++ ",")
      | [] => mismatch
  keyword "ON"
  if ← keywords? ["ALL", "TABLES", "IN", "SCHEMA"] then
    let _ ← commaList objectName
  else if ← keywords? ["ALL", "SEQUENCES", "IN", "SCHEMA"] then
    let _ ← commaList objectName
  else
    let _ ← oneOf? ["SEQUENCE", "SCHEMA", "TABLE"]
    let _ ← commaList objectName
  pure word

def grantedBy? : Parser Unit := do
  if ← keywords? ["GRANTED", "BY"] then
    let _ ← ident

def grant : Parser Statement := do
  let word ← privileges
  keyword "TO"
  let _ ← commaList ident
  let _ ← keywords? ["WITH", "GRANT", "OPTION"]
  grantedBy?
  pure (.other ("GRANT " ++ word))

def revoke : Parser Statement := do
  let word ← privileges
  keyword "FROM"
  let _ ← commaList ident
  grantedBy?
  dropBehavior
  pure (.other ("REVOKE " ++ word))

def transactionMode? : Parser (Option String) := do
  if ← keywords? ["ISOLATION", "LEVEL"] then
    if ← keywords? ["READ", "UNCOMMITTED"] then pure (some "ISOLATION")
    else if ← keywords? ["READ", "COMMITTED"] then pure (some "ISOLATION")
    else if ← keywords? ["REPEATABLE", "READ"] then pure (some "ISOLATION")
    else keyword "SERIALIZABLE" *> pure (some "ISOLATION")
  else if ← keywords? ["READ", "ONLY"] then pure (some "READ")
  else if ← keywords? ["READ", "WRITE"] then pure (some "READ")
  else pure none

def transactionModesFrom (needed : Bool) : Nat → Parser (List String)
  | 0 => pure []
  | fuel + 1 => do
    match ← transactionMode? with
    | some mode =>
      let comma ← symbol? ","
      return mode :: (← transactionModesFrom comma fuel)
    | none =>
      require !needed
      pure []

def transactionModes : Parser (List String) := do
  transactionModesFrom false ((← get).length + 1)

def begin : Parser Statement := do
  let word ← oneOf? ["TRANSACTION", "WORK"]
  let modes ← transactionModes
  pure (other (" ".intercalate ("BEGIN" :: word.toList ++ modes)))

def chain : Parser Bool := do
  let _ ← oneOf? ["TRANSACTION", "WORK"]
  if ← keyword? "AND" then
    let no ← keyword? "NO"
    keyword "CHAIN"
    pure !no
  else pure false

def commit : Parser Statement := do
  pure (.other (if ← chain then "COMMIT AND" else "COMMIT"))

def rollback : Parser Statement := do
  let chained ← chain
  let savepoint ← after? "TO" do
    let _ ← keyword? "SAVEPOINT"
    ident
  pure (.other (if chained then "ROLLBACK AND"
    else if savepoint.isSome then "ROLLBACK TO" else "ROLLBACK"))

def setRole : Parser Unit := do
  keyword "ROLE"
  let _ ← ident

def settingValues? (r : Level) : Parser Bool := do
  let equals ← symbol? "="
  let assigned ← if equals then pure true else keyword? "TO"
  if assigned then
    let _ ← commaList do
      if ← nextIsQuery then r.query *> pure ()
      else r.expr 0 *> pure ()
  pure assigned

def setting (r : Level) : Parser Statement := do
  let modifier ← oneOf? ["SESSION", "LOCAL", "HIVEVAR"]
  let isHive := modifier = some "HIVEVAR"
  let role ← if isHive then symbol ":" *> pure none else attempt setRole
  match role with
  | some _ => pure (.other ("SET " ++ modifier.getD "ROLE"))
  | none =>
    let isLocal := modifier = some "LOCAL"
    let name ← do
      if ← keywords? ["TIME", "ZONE"] then pure "TIMEZONE"
      else pure (ObjectName.render (← objectName))
    if ← settingValues? r then
      pure (other ("SET " ++ textIf isLocal "LOCAL " ++ textIf isHive "HIVEVAR:" ++ name ++ " ="))
    else if name.toUpper = "TIMEZONE" then
      let _ ← r.expr 0
      pure (.other (if isLocal then "SET LOCAL" else "SET TIME"))
    else if name = "CHARACTERISTICS" then
      keywords ["AS", "TRANSACTION"]
      let _ ← transactionModes
      pure (.other "SET SESSION")
    else
      require (name = "TRANSACTION" && modifier.isNone)
      if ← keyword? "SNAPSHOT" then
        let _ ← value
      else
        let _ ← transactionModes
      pure (.other "SET TRANSACTION")

def showFilter? (r : Level) : Parser Unit := do
  if (← oneOf? ["LIKE", "ILIKE"]).isSome then
    let _ ← literalString
  else if ← keyword? "WHERE" then
    let _ ← r.expr 0
  else
    let _ ← attempt literalString

def showParent? : Parser Unit := do
  if (← oneOf? ["FROM", "IN"]).isSome then
    match ← oneOf? ["ACCOUNT", "DATABASE", "SCHEMA", "TABLE", "VIEW"] with
    | some k =>
      let unnamed := k = "DATABASE" || k = "SCHEMA"
      let ends := (← nextAre ["STARTS", "WITH"]) || (← nextIsKeyword "LIMIT")
      if !(unnamed && ends) then
        let _ ← attempt objectName
    | none =>
      let _ ← objectName
      if (← oneOf? ["FROM", "IN"]).isSome then
        let _ ← ident

def showOptions (r : Level) : Parser Unit := do
  showParent?
  showFilter? r
  if ← keywords? ["STARTS", "WITH"] then
    let _ ← value
  if ← keyword? "LIMIT" then
    if !(← keyword? "ALL") then
      let _ ← r.expr 0
  let _ ← after? "FROM" value

def showSetting : Parser Statement := do
  let tokens ← get
  let used := tokens.takeWhile fun t => !t.isSymbol "="
  set (tokens.drop used.length)
  let words := used.filterMap fun
    | .word w => some (Ident.ofWord w).render
    | _ => none
  pure (other (" ".intercalate ("SHOW" :: words)))

def showing (r : Level) : Parser Statement := do
  let flag? (k : String) : Parser String := do
    pure (textIf (← keyword? k) (k ++ " "))
  let terse ← flag? "TERSE"
  let extended ← flag? "EXTENDED"
  let full ← flag? "FULL"
  let _ ← keyword? "SESSION"
  let _ ← keyword? "GLOBAL"
  let outside ← flag? "EXTERNAL"
  let listing (words : String) : Parser Statement := do
    showOptions r
    pure (other ("SHOW " ++ words))
  if (← oneOf? ["COLUMNS", "FIELDS"]).isSome then listing (extended ++ full ++ "COLUMNS")
  else if ← keyword? "TABLES" then
    if outside.isEmpty then
      let _ ← keyword? "HISTORY"
    listing (terse ++ extended ++ full ++ outside ++ "TABLES")
  else if ← keywords? ["MATERIALIZED", "VIEWS"] then listing (terse ++ "MATERIALIZED VIEWS")
  else if ← keyword? "VIEWS" then listing (terse ++ "VIEWS")
  else if ← keyword? "FUNCTIONS" then showFilter? r *> pure (.other "SHOW FUNCTIONS")
  else
    require (extended.isEmpty && full.isEmpty)
    if ← keyword? "CREATE" then
      let _ ← oneOf ["TABLE", "TRIGGER", "FUNCTION", "PROCEDURE", "EVENT", "VIEW"]
      let _ ← objectName
      pure (.other "SHOW CREATE")
    else if ← keyword? "COLLATION" then showFilter? r *> pure (.other "SHOW COLLATION")
    else
      let _ ← keyword? "VARIABLES"
      let _ ← keyword? "STATUS"
      match ← oneOf? ["DATABASES", "SCHEMAS"] with
      | some k =>
        let _ ← keyword? "HISTORY"
        listing (terse ++ k)
      | none => showSetting

def declare (r : Level) : Parser Statement := do
  let name ← ident
  let _ ← keyword? "BINARY"
  let _ ← oneOf? ["INSENSITIVE", "ASENSITIVE"]
  if !(← keyword? "SCROLL") then
    let _ ← keywords? ["NO", "SCROLL"]
  keyword "CURSOR"
  if (← oneOf? ["WITH", "WITHOUT"]).isSome then keyword "HOLD"
  keyword "FOR"
  let _ ← r.query
  pure (other ("DECLARE " ++ name.render))

def fetchDirection : Parser String := do
  match ← oneOf? ["NEXT", "PRIOR", "FIRST", "LAST", "ALL", "ABSOLUTE", "RELATIVE", "FORWARD",
    "BACKWARD"] with
  | some k =>
    if k = "ABSOLUTE" || k = "RELATIVE" then numberValue *> pure k
    else if k = "FORWARD" || k = "BACKWARD" then
      if ← keyword? "ALL" then pure k else numberValue *> pure k
    else pure k
  | none => return (← numberValue).render

def fetchRows : Parser Statement := do
  let direction ← fetchDirection
  let _ ← oneOf ["FROM", "IN"]
  let _ ← ident
  let _ ← after? "INTO" objectName
  pure (other ("FETCH " ++ direction))

def close : Parser Statement := do
  if ← keyword? "ALL" then pure (.other "CLOSE ALL")
  else return other ("CLOSE " ++ (← ident).render)

def executePrepared (r : Level) : Parser Statement := do
  let name ← objectName
  let values ← parens? (commaList0 (r.expr 0) ")")
  let ends := (← get).isEmpty || (← nextIsKeyword "USING")
  if values.isNone && !ends then
    let _ ← commaList (r.expr 0)
  if ← keyword? "USING" then
    let _ ← commaList (r.expr 0)
  let args := match values with
    | some es => "(" ++ renderExprs es ++ ")"
    | none => ""
  pure (other ("EXECUTE " ++ ObjectName.render name ++ args))

def prepare (r : Level) : Parser Statement := do
  let name ← ident
  let _ ← parens? (commaList dataType)
  keyword "AS"
  let _ ← r.statement
  pure (other ("PREPARE " ++ name.render))

def deallocate : Parser Statement := do
  let prepared ← keyword? "PREPARE"
  let name ← ident
  pure (other ("DEALLOCATE " ++ if prepared then "PREPARE" else name.render))

def copyOption : Parser Unit := do
  let k ← oneOf ["FORMAT", "FREEZE", "DELIMITER", "NULL", "HEADER", "QUOTE", "ESCAPE", "FORCE_QUOTE",
    "FORCE_NOT_NULL", "FORCE_NULL", "ENCODING"]
  if k = "FORMAT" then
    let _ ← ident
  else if k = "FREEZE" || k = "HEADER" then
    let _ ← oneOf? ["TRUE", "FALSE"]
  else if ["FORCE_QUOTE", "FORCE_NOT_NULL", "FORCE_NULL"].contains k then
    let _ ← columns
  else if ["DELIMITER", "QUOTE", "ESCAPE"].contains k then
    let _ ← literalByte
  else
    let _ ← literalString

def separatedOption? : Parser (Option Unit) := do
  if ← keyword? "HEADER" then pure (some ())
  else if (← oneOf? ["QUOTE", "ESCAPE"]).isSome then
    let _ ← keyword? "AS"
    literalByte *> pure (some ())
  else if ← keyword? "FORCE" then
    if !(← keywords? ["NOT", "NULL"]) then keyword "QUOTE"
    commaList ident *> pure (some ())
  else pure none

def copyWord? : Parser (Option Unit) := do
  if ← keyword? "BINARY" then pure (some ())
  else if ← keyword? "DELIMITER" then
    let _ ← keyword? "AS"
    literalByte *> pure (some ())
  else if ← keyword? "NULL" then
    let _ ← keyword? "AS"
    literalString *> pure (some ())
  else if ← keyword? "CSV" then many separatedOption? *> pure (some ())
  else pure none

def copy (r : Level) : Parser Statement := do
  let (source, isQuery) ← do
    match ← parens? r.query with
    | some q => pure ("(" ++ q.render ++ ")", true)
    | none =>
      let name ← objectName
      let _ ← parens? (commaList ident)
      pure (ObjectName.render name, false)
  let direction ← oneOf ["FROM", "TO"]
  require (direction = "TO" || !isQuery)
  if ← keyword? "STDIN" then mismatch
  else if ← keyword? "STDOUT" then pure ()
  else
    let _ ← keyword? "PROGRAM"
    let _ ← literalString
  let _ ← keyword? "WITH"
  let _ ← parens? (commaList copyOption)
  let _ ← many copyWord?
  pure (other ("COPY " ++ source))

/-- What a merge does. New rows are for those that the target does not have, and only for them. -/
def mergeAction (r : Level) (isNew : Bool) : Parser Unit := do
  let k ← oneOf ["INSERT", "UPDATE", "DELETE"]
  require ((k = "INSERT") = isNew)
  if k = "INSERT" then
    let _ ← parens? (commaList ident)
    keyword "VALUES"
    let _ ← commaList (row r)
  else if k = "UPDATE" then
    keyword "SET"
    let _ ← commaList (assignment r)

def mergeClause (r : Level) : Parser Unit := do
  keyword "WHEN"
  let missing ← keyword? "NOT"
  keyword "MATCHED"
  let bySource ← if missing then keywords? ["BY", "SOURCE"] else pure false
  if missing && !bySource then
    let _ ← keywords? ["BY", "TARGET"]
  let _ ← after? "AND" (r.expr 0)
  keyword "THEN"
  mergeAction r (missing && !bySource)

def merge (r : Level) : Parser Statement := do
  let into ← keyword? "INTO"
  let target ← factor r (tables r)
  keyword "USING"
  let _ ← factor r (tables r)
  keyword "ON"
  let _ ← r.expr 0
  let _ ← many do
    if (← get).isEmpty then pure none else some <$> mergeClause r
  pure (other ("MERGE " ++ textIf into "INTO " ++ target.render))

def firstWord : Statement → String
  | .query q => q.render
  | .insert _ => "INSERT"
  | .update _ => "UPDATE"
  | .delete _ => "DELETE"
  | .truncate _ => "TRUNCATE"
  | .define d => d.kind
  | .noOp kind => kind
  | .other kind => kind

def explainOption (r : Level) : Parser (List Piece) := do
  let name ← ident
  if (← nextIsSymbol ",") || (← nextIsSymbol ")") then pure [.text name.render]
  else return [.text (name.render ++ " "), .expr (← r.expr 0)]

def explainWords (r : Level) (word : String) : Parser String := do
  if word = "EXPLAIN" && (← nextIsSymbol "(") then
    let options ← parens (commaList (explainOption r))
    pure ("(" ++ renderPieces (commaPieces options) ++ ") ")
  else if ← keywords? ["QUERY", "PLAN"] then pure "QUERY PLAN "
  else
    let analyze ← keyword? "ANALYZE"
    let verbose ← keyword? "VERBOSE"
    let format ← after? "FORMAT" (oneOf ["TEXT", "GRAPHVIZ", "JSON"])
    pure (textIf analyze "ANALYZE " ++ textIf verbose "VERBOSE " ++
      (format.map fun f => "FORMAT " ++ f ++ " ").getD "")

def explain (r : Level) (word : String) : Parser Statement := do
  let words ← explainWords r word
  match ← attempt r.statement with
  | some s =>
    let first := firstWord s
    require !((kindOf first).startsWith "EXPLAIN" || (kindOf first).startsWith "DESC")
    pure (other (word ++ " " ++ words ++ first))
  | none =>
    let format ← oneOf? ["EXTENDED", "FORMATTED"]
    let name ← objectName
    pure (other (word ++ " " ++ (format.map (· ++ " ")).getD "" ++ ObjectName.render name))

def callStatement (r : Level) : Parser Statement := do
  let name ← objectName
  let e ← do
    if ← nextIsSymbol "(" then call r name false else pure (.call name .none [] [] false)
  pure (other ("CALL " ++ e.render))

def notify : Parser Statement := do
  let channel ← ident
  let payload ← do
    if ← symbol? "," then some <$> literalString else pure none
  pure (other ("NOTIFY " ++ channel.render ++ textIf payload.isSome ","))

def assert (r : Level) : Parser Statement := do
  let condition ← r.expr 0
  let _ ← after? "AS" (r.expr 0)
  pure (other ("ASSERT " ++ condition.render))

def pragmaValue : Parser Value := do
  match ← value with
  | .number digits long => pure (.number digits long)
  | .string .plain text => pure (.string .plain text)
  | .placeholder text => pure (.placeholder text)
  | .word text => pure (.word text)
  | _ => mismatch

def pragma : Parser Statement := do
  let name ← objectName
  match ← parens? pragmaValue with
  | some v => pure (other ("PRAGMA " ++ ObjectName.render name ++ "(" ++ v.render ++ ")"))
  | none =>
    if ← symbol? "=" then
      let _ ← pragmaValue
    pure (other ("PRAGMA " ++ ObjectName.render name))

def analyzeClause? (r : Level) : Parser (Option Unit) := do
  match ← oneOf? ["PARTITION", "FOR", "CACHE", "NOSCAN", "COMPUTE"] with
  | some "PARTITION" => parens (commaList (r.expr 0)) *> pure (some ())
  | some "FOR" =>
    keyword "COLUMNS"
    attempt (commaList ident) *> pure (some ())
  | some "CACHE" => keyword "METADATA" *> pure (some ())
  | some "COMPUTE" => keyword "STATISTICS" *> pure (some ())
  | some _ => pure (some ())
  | none => pure none

def analyze (r : Level) : Parser Statement := do
  keyword "TABLE"
  let _ ← objectName
  let _ ← many (analyzeClause? r)
  pure (.other "ANALYZE TABLE")

def kill : Parser Statement := do
  let what ← oneOf? ["CONNECTION", "QUERY"]
  let number ← natural
  pure (.other ("KILL " ++ what.getD (toString number)))

def attach (r : Level) : Parser Statement := do
  let database ← keyword? "DATABASE"
  let file ← r.expr 0
  keyword "AS"
  let _ ← ident
  pure (other ("ATTACH " ++ textIf database "DATABASE " ++ file.render ++ " AS"))

def repairTable : Parser Statement := do
  let repair ← keyword? "REPAIR"
  keyword "TABLE"
  let _ ← objectName
  let _ ← attempt do
    let _ ← oneOf? ["ADD", "DROP", "SYNC"]
    keyword "PARTITIONS"
  pure (.other (if repair then "MSCK REPAIR" else "MSCK TABLE"))

def cache (r : Level) : Parser Statement := do
  let manner ← if ← nextIsKeyword "TABLE" then pure none else some <$> objectName
  keyword "TABLE"
  let _ ← objectName
  let _ ← options? r ["OPTIONS"]
  match ← peek with
  | some (.word _) =>
    let _ ← keyword? "AS"
    let _ ← r.query
  | some _ => mismatch
  | none => pure ()
  pure (other ("CACHE " ++ (manner.map fun n => ObjectName.render n ++ " ").getD "" ++ "TABLE"))

def uncache : Parser Statement := do
  keyword "TABLE"
  let _ ← ifExists
  let _ ← objectName
  pure (.other "UNCACHE TABLE")

def unload (r : Level) : Parser Statement := do
  let q ← parens r.query
  keyword "TO"
  let _ ← ident
  let _ ← options? r ["WITH"]
  pure (other ("UNLOAD(" ++ q.render ++ ") TO"))

def insertStatement (r : Level) : Parser Statement := do
  match ← insert r with
  | .rows i => pure (.insert i)
  | .directory text => pure (other text)

def keywordStatement (r : Level) (k : String) : Parser Statement := do
  if k = "INSERT" then insertStatement r
  else if k = "UPDATE" then return .update (← update r)
  else if k = "DELETE" then return .delete (← delete r)
  else if k = "TRUNCATE" then return .truncate (← truncate r)
  else if k = "CREATE" then create r
  else if k = "ALTER" then alter r
  else if k = "DROP" then drop r
  else if k = "COMMENT" then comment
  else if k = "EXPLAIN" || k = "DESCRIBE" || k = "DESC" then explain r k
  else if k = "ANALYZE" then analyze r
  else if k = "GRANT" then grant
  else if k = "REVOKE" then revoke
  else if k = "BEGIN" then begin
  else if k = "START" then
    keyword "TRANSACTION"
    let _ ← transactionModes
    pure (.other "START TRANSACTION")
  else if k = "COMMIT" || k = "END" then commit
  else if k = "ROLLBACK" then rollback
  else if k = "SAVEPOINT" then return other ("SAVEPOINT " ++ (← ident).render)
  else if k = "RELEASE" then
    let _ ← keyword? "SAVEPOINT"
    let _ ← ident
    pure (.other "RELEASE SAVEPOINT")
  else if k = "SET" then setting r
  else if k = "SHOW" then showing r
  else if k = "USE" then return other ("USE " ++ ObjectName.render (← objectName))
  else if k = "DISCARD" then
    let what ← oneOf ["ALL", "PLANS", "SEQUENCES", "TEMP", "TEMPORARY"]
    pure (.other ("DISCARD " ++ if what = "TEMPORARY" then "TEMP" else what))
  else if k = "DECLARE" then declare r
  else if k = "FETCH" then fetchRows
  else if k = "CLOSE" then close
  else if k = "EXECUTE" || k = "EXEC" then executePrepared r
  else if k = "PREPARE" then prepare r
  else if k = "DEALLOCATE" then deallocate
  else if k = "COPY" then copy r
  else if k = "MERGE" then merge r
  else if k = "CALL" then callStatement r
  else if k = "LISTEN" then return other ("LISTEN " ++ (← ident).render)
  else if k = "UNLISTEN" then
    if ← symbol? "*" then pure (.other "UNLISTEN *")
    else return other ("UNLISTEN " ++ (← ident).render)
  else if k = "NOTIFY" then notify
  else if k = "ASSERT" then assert r
  else if k = "PRAGMA" then pragma
  else if k = "KILL" then kill
  else if k = "ATTACH" then attach r
  else if k = "MSCK" then repairTable
  else if k = "CACHE" then cache r
  else if k = "UNCACHE" then uncache
  else if k = "LOAD" then return other ("LOAD " ++ (← ident).render)
  else if k = "UNLOAD" then unload r
  else mismatch

def statement (r : Level) : Parser Statement := do
  match ← peek with
  | some (.word w) =>
    if w.keyword = "SELECT" || w.keyword = "WITH" || w.keyword = "VALUES" then
      return .query (← r.query)
    else next *> keywordStatement r w.keyword
  | some (.symbol "(") => return .query (← r.query)
  | _ => mismatch

end Parser

namespace Level

def operandFrom (expr : Nat → Parser Expr) (query : Parser Query) (statement : Parser Statement) :
    Nat → Parser Expr
  | 0 => Parser.mismatch
  | fuel + 1 =>
    Parser.operand { expr, query, statement, operand := operandFrom expr query statement fuel }

/-- The level with the given parsers. An operand in an operand stays at the level, and is bounded by
the tokens that are left. -/
def ofParsers (expr : Nat → Parser Expr) (query : Parser Query) (statement : Parser Statement) :
    Level where
  expr
  query
  statement
  operand := do operandFrom expr query statement ((← get).length + 1)

def bottom : Level :=
  ofParsers (fun _ => throw .tooDeep) (throw .tooDeep) (throw .tooDeep)

def above (r : Level) : Level :=
  ofParsers (Parser.expr r) (Parser.query r) (Parser.statement r)

def ofDepth : Nat → Level
  | 0 => bottom
  | depth + 1 => above (ofDepth depth)

end Level

namespace Statement

/-- How many statements, queries and expressions may be nested in one another. -/
def maxDepth : Nat := 50

/-- The statement that a list of significant tokens is. The word `END` may follow a statement, and
what stands behind it is ignored. -/
def parse? (tokens : List Token) : Option Statement :=
  match (Level.ofDepth maxDepth).statement tokens with
  | .ok (s, []) => some s
  | .ok (s, t :: _) => if t.isKeyword "END" then some s else none
  | .error _ => none

end Statement

end TypedSql.Sql
