import TypedSql.Sql.Grammar.Query

/-!
# Definitions of a schema

The statements that create, alter, drop and describe tables, types, functions and schemas. Of the
constraints and options of a table only those are kept that say which columns may be null.
-/

namespace TypedSql.Sql.Parser

def ifNotExists : Parser Bool :=
  keywords? ["IF", "NOT", "EXISTS"]

def ifExists : Parser Bool :=
  keywords? ["IF", "EXISTS"]

def headWords (text : String) : String :=
  Text.toString ([' '].intercalate ((Text.words text.toList).take 2))

def onCluster? : Parser Unit := do
  if ← keywords? ["ON", "CLUSTER"] then
    let _ ← ident

/-- Repeats `p`, which answers what it has read, as long as that was not read before. -/
def distinctParts (p : List String → Parser (Option String)) : Parser (List String) :=
  extend (fun found => do
    match ← p found with
    | some k => pure (some (k :: found))
    | none => pure none) []

def characteristics : Parser Unit := do
  let _ ← distinctParts fun found => do
    let free (k : String) : Bool := !(found.contains k)
    if free "deferrable" && (← nextAre ["NOT", "DEFERRABLE"]) then
      keywords ["NOT", "DEFERRABLE"] *> pure (some "deferrable")
    else if free "deferrable" && (← nextIsKeyword "DEFERRABLE") then
      keyword "DEFERRABLE" *> pure (some "deferrable")
    else if free "initially" && (← nextIsKeyword "INITIALLY") then
      keyword "INITIALLY"
      oneOf ["DEFERRED", "IMMEDIATE"] *> pure (some "initially")
    else if free "enforced" && (← nextIsKeyword "ENFORCED") then
      keyword "ENFORCED" *> pure (some "enforced")
    else if free "enforced" && (← nextAre ["NOT", "ENFORCED"]) then
      keywords ["NOT", "ENFORCED"] *> pure (some "enforced")
    else pure none

def referentialAction : Parser Unit := do
  if ← keyword? "RESTRICT" then pure ()
  else if ← keyword? "CASCADE" then pure ()
  else if ← keywords? ["SET", "NULL"] then pure ()
  else if ← keywords? ["NO", "ACTION"] then pure ()
  else keywords ["SET", "DEFAULT"]

def referentialActions : Parser Unit := do
  let _ ← distinctParts fun found => do
    let event? (k : String) : Parser Bool :=
      if found.contains k then pure false else keywords? ["ON", k]
    if ← event? "DELETE" then referentialAction *> pure (some "DELETE")
    else if ← event? "UPDATE" then referentialAction *> pure (some "UPDATE")
    else pure none
  characteristics

def usingIndex? : Parser Bool := do
  if ← keyword? "USING" then
    let _ ← oneOf ["BTREE", "HASH"]
    pure true
  else pure false

def keyColumns : Parser (List Ident) := do
  let _ ← attempt ident
  let _ ← usingIndex?
  let columns ← columns
  let _ ← many do
    if ← usingIndex? then pure (some ())
    else
      match ← after? "COMMENT" literalString with
      | some _ => pure (some ())
      | none => pure none
  characteristics
  pure columns

structure TableConstraint where
  word : String
  keys : List Ident := []

def constraint? (r : Level) : Parser (Option TableConstraint) := do
  let name ← after? "CONSTRAINT" ident
  let word (k : String) : String := if name.isSome then "CONSTRAINT" else k
  if ← keyword? "UNIQUE" then
    require !((← nextIsKeyword "KEY") || (← nextIsKeyword "INDEX"))
    if ← keyword? "NULLS" then
      let _ ← keyword? "NOT"
      keyword "DISTINCT"
    let _ ← keyColumns
    pure (some { word := word "UNIQUE" })
  else if ← keyword? "PRIMARY" then
    keyword "KEY"
    let keys ← keyColumns
    pure (some { word := word "PRIMARY", keys })
  else if ← keyword? "FOREIGN" then
    keyword "KEY"
    let _ ← columns
    keyword "REFERENCES"
    let _ ← objectName
    let _ ← columns
    referentialActions
    pure (some { word := word "FOREIGN" })
  else if ← keyword? "CHECK" then
    let _ ← parens (r.expr 0)
    pure (some { word := word "CHECK" })
  else if name.isSome then mismatch
  else pure none

def sequenceNumber? (k filler : String) : Parser String := do
  if ← keyword? k then
    let filled ← if filler.isEmpty then pure false else keyword? filler
    let number ← signedNumber
    pure (" " ++ k ++ textIf filled (" " ++ filler) ++ " " ++ number)
  else pure ""

def sequenceBound? (k : String) : Parser String := do
  if ← keywords? ["NO", k] then pure (" NO " ++ k) else sequenceNumber? k ""

def sequenceOptions : Parser String := do
  let increment ← sequenceNumber? "INCREMENT" "BY"
  let low ← sequenceBound? "MINVALUE"
  let high ← sequenceBound? "MAXVALUE"
  let start ← sequenceNumber? "START" "WITH"
  let cache ← sequenceNumber? "CACHE" ""
  let cycle ← do
    if ← keywords? ["NO", "CYCLE"] then pure " NO CYCLE"
    else if ← keyword? "CYCLE" then pure " CYCLE"
    else pure ""
  pure (increment ++ low ++ high ++ start ++ cache ++ cycle)

inductive ColumnOption where
  | notNull
  | comment (text : Text)
  | other

def generated? (r : Level) : Parser (Option ColumnOption) := do
  let identity : Parser (Option ColumnOption) := do
    let _ ← parens? sequenceOptions
    pure (some .other)
  if ← keywords? ["ALWAYS", "AS", "IDENTITY"] then identity
  else if ← keywords? ["BY", "DEFAULT", "AS", "IDENTITY"] then identity
  else if ← keywords? ["ALWAYS", "AS"] then
    if ← nextIsSymbol "(" then
      let _ ← parens (r.expr 0)
      keyword "STORED"
      pure (some .other)
    else pure none
  else pure none

def columnOption? (r : Level) : Parser (Option ColumnOption) := do
  if ← keywords? ["CHARACTER", "SET"] then objectName *> pure (some .other)
  else if ← keywords? ["NOT", "NULL"] then pure (some .notNull)
  else if ← keyword? "COMMENT" then return some (.comment (← plainString))
  else if ← keyword? "NULL" then pure (some .other)
  else if ← keyword? "DEFAULT" then r.expr 0 *> pure (some .other)
  else if ← keywords? ["PRIMARY", "KEY"] then characteristics *> pure (some .notNull)
  else if ← keyword? "UNIQUE" then characteristics *> pure (some .other)
  else if ← keyword? "REFERENCES" then
    let _ ← objectName
    let _ ← parens? (commaList ident)
    referentialActions
    pure (some .other)
  else if ← keyword? "CHECK" then parens (r.expr 0) *> pure (some .other)
  else
    -- These words are taken but begin no option.
    let _ ← keyword? "AUTO_INCREMENT"
    let _ ← keyword? "AUTOINCREMENT"
    let _ ← keyword? "ASC"
    let _ ← keyword? "DESC"
    let _ ← keywords? ["ON", "UPDATE"]
    if ← keyword? "GENERATED" then generated? r
    else
      let _ ← keyword? "AS"
      let _ ← keyword? "IDENTITY"
      pure none

def applyOption (c : ColumnDef) : ColumnOption → ColumnDef
  | .notNull => { c with notNull := true }
  | .comment text => { c with comment := some text.toString }
  | .other => c

def namedOption? (r : Level) : Parser (Option ColumnOption) := do
  if ← keyword? "CONSTRAINT" then
    let _ ← ident
    match ← columnOption? r with
    | some o => pure (some o)
    | none => mismatch
  else columnOption? r

def columnDef (r : Level) : Parser ColumnDef := do
  let name ← ident
  let type ← dataType
  let _ ← after? "COLLATE" objectName
  let options ← many (namedOption? r)
  pure (options.foldl applyOption { name := name.name, type := type.type })

inductive TableElement where
  | column (c : ColumnDef)
  | constraint (c : TableConstraint)

def tableElement (r : Level) : Parser TableElement := do
  match ← constraint? r with
  | some c => pure (.constraint c)
  | none =>
    match ← peek with
    | some (.word _) => return .column (← columnDef r)
    | _ => mismatch

def applyKey (columns : List ColumnDef) (key : String) : List ColumnDef :=
  match columns with
  | [] => []
  | c :: cs => if c.name = key then { c with notNull := true } :: cs else c :: applyKey cs key

def tableColumns (elements : List TableElement) : List ColumnDef :=
  let columns := elements.filterMap fun
    | .column c => some c
    | .constraint _ => none
  let keys := elements.flatMap fun
    | .column _ => []
    | .constraint c => c.keys
  keys.foldl (fun cs key => applyKey cs key.name) columns

def option (r : Level) : Parser (List Piece) := do
  let name ← ident
  symbol "="
  return [.text (name.render ++ " = "), .expr (← r.expr 0)]

def options? (r : Level) (ks : List String) : Parser (Option (List Piece)) := do
  if ← keywords? ks then return some (commaPieces (← parens (commaList (option r))))
  else pure none

def rowMark? : Parser (Option Unit) := do
  let mark (ks : List String) : Parser (Option Unit) := do
    if ← keywords? ks then ident *> pure (some ()) else pure none
  match ← oneOf? ["FIELDS", "COLLECTION", "MAP", "LINES", "NULL"] with
  | some "FIELDS" =>
    match ← mark ["TERMINATED", "BY"] with
    | some _ =>
      if ← keywords? ["ESCAPED", "BY"] then
        let _ ← ident
      pure (some ())
    | none => pure none
  | some "COLLECTION" => mark ["ITEMS", "TERMINATED", "BY"]
  | some "MAP" => mark ["KEYS", "TERMINATED", "BY"]
  | some "LINES" => mark ["TERMINATED", "BY"]
  | some _ => mark ["DEFINED", "AS"]
  | none => pure none

def storageClause? (r : Level) : Parser (Option Unit) := do
  if ← keyword? "ROW" then
    keyword "FORMAT"
    match ← oneOf? ["SERDE", "DELIMITED"] with
    | some "SERDE" => literalString *> pure (some ())
    | _ => many rowMark? *> pure (some ())
  else if ← keyword? "STORED" then
    keyword "AS"
    if ← keyword? "INPUTFORMAT" then
      let _ ← r.expr 0
      keyword "OUTPUTFORMAT"
      let _ ← r.expr 0
    else
      let _ ← oneOf fileFormats
    pure (some ())
  else if ← keyword? "LOCATION" then literalString *> pure (some ())
  else
    match ← options? r ["WITH", "SERDEPROPERTIES"] with
    | some _ => pure (some ())
    | none => pure none

def storage (r : Level) : Parser Unit := do
  if ← keywords? ["PARTITIONED", "BY"] then
    let _ ← parens (commaList (columnDef r))
  let _ ← many (storageClause? r)

def namedSetting? (ks : List String) : Parser Bool := do
  if ← keywords? ks then
    symbol "="
    match ← next with
    | .word _ => pure true
    | _ => mismatch
  else pure false

def keyLimit : Nat := 4294967296

def engine? : Parser Unit := do
  if ← namedSetting? ["ENGINE"] then
    if ← nextIsSymbol "(" then
      let _ ← columns
  if ← keyword? "AUTO_INCREMENT" then
    let _ ← symbol? "="
    require (decide ((← natural) < keyLimit))

def tableOrder? (r : Level) : Parser Unit := do
  if ← keywords? ["ORDER", "BY"] then
    if ← nextIsSymbol "(" then
      let _ ← parens (commaList0 (r.expr 0) ")")
    else
      let _ ← r.expr 0

def onCommit? : Parser Unit := do
  if ← keywords? ["ON", "COMMIT"] then
    if ← keywords? ["DELETE", "ROWS"] then pure ()
    else if ← keywords? ["PRESERVE", "ROWS"] then pure ()
    else keyword "DROP"

def tableElements (r : Level) : Parser (List TableElement) := do
  return (← parens? (commaList0 (tableElement r) ")")).getD []

def createTable (r : Level) : Parser Statement := do
  let ifNotExists ← ifNotExists
  let name ← objectName
  onCluster?
  if (← oneOf? ["LIKE", "ILIKE"]).isSome then looseName
  if ← keyword? "CLONE" then looseName
  let elements ← tableElements r
  let _ ← keywords? ["WITHOUT", "ROWID"]
  storage r
  let _ ← options? r ["WITH"]
  let _ ← options? r ["TBLPROPERTIES"]
  engine?
  tableOrder? r
  if ← keywords? ["PARTITION", "BY"] then
    let _ ← r.expr 0
  let _ ← namedSetting? ["DEFAULT", "CHARSET"]
  let _ ← namedSetting? ["COLLATE"]
  onCommit?
  let _ ← keyword? "STRICT"
  if ← keyword? "COMMENT" then
    let _ ← symbol? "="
    let _ ← plainString
  let _ ← after? "AS" r.query
  pure (.define (.createTable name ifNotExists (tableColumns elements)))

def createExternalTable (r : Level) : Parser Statement := do
  keyword "TABLE"
  let ifNotExists ← ifNotExists
  let name ← objectName
  let elements ← tableElements r
  storage r
  let _ ← options? r ["TBLPROPERTIES"]
  pure (.define (.createTable name ifNotExists (tableColumns elements)))

def namedSwitch (kind : String) (words : List String) : Parser String := do
  keywords words
  let _ ← ident
  pure kind

def disable : Parser String := do
  if ← keywords? ["ROW", "LEVEL", "SECURITY"] then pure "DISABLE ROW"
  else
    let k ← oneOf ["RULE", "TRIGGER"]
    namedSwitch ("DISABLE " ++ k) []

def enable : Parser String := do
  if ← keywords? ["ROW", "LEVEL", "SECURITY"] then pure "ENABLE ROW"
  else
    let k ← oneOf ["ALWAYS", "REPLICA", "RULE", "TRIGGER"]
    if k = "ALWAYS" || k = "REPLICA" then
      let _ ← oneOf ["RULE", "TRIGGER"]
    namedSwitch ("ENABLE " ++ k) []

def addition (r : Level) : Parser TableChange := do
  match ← constraint? r with
  | some c => pure (.unsupported ("ADD " ++ c.word))
  | none =>
    let first ← ifNotExists
    let partitions ← many (after? "PARTITION" (parens (commaList (r.expr 0))))
    if !partitions.isEmpty then
      pure (.unsupported (if first then "ADD IF" else "ADD PARTITION"))
    else
      let _ ← keyword? "COLUMN"
      let second ← ifNotExists
      let column ← columnDef r
      pure (.addColumn column (second || first))

def renameChange : Parser TableChange := do
  if ← keyword? "CONSTRAINT" then
    let _ ← ident
    keyword "TO"
    let _ ← ident
    pure (.unsupported "RENAME CONSTRAINT")
  else if ← keyword? "TO" then return .renameTable (← objectName).last
  else
    let _ ← keyword? "COLUMN"
    let old ← ident
    keyword "TO"
    let new ← ident
    pure (.renameColumn old.name new.name)

def removal (r : Level) : Parser TableChange := do
  if ← keywords? ["IF", "EXISTS", "PARTITION"] then
    parens (commaList (r.expr 0)) *> pure (.unsupported "DROP IF")
  else if ← keyword? "PARTITION" then
    parens (commaList (r.expr 0)) *> pure (.unsupported "DROP PARTITION")
  else if ← keyword? "CONSTRAINT" then
    let _ ← ifExists
    let _ ← ident
    let _ ← keyword? "CASCADE"
    pure (.unsupported "DROP CONSTRAINT")
  else
    let _ ← keywords? ["PRIMARY", "KEY"]
    let _ ← keyword? "PROJECTION"
    if ← keywords? ["CLUSTERING", "KEY"] then pure (.unsupported "DROP CLUSTERING")
    else
      let _ ← keyword? "COLUMN"
      let missing ← ifExists
      let column ← ident
      let _ ← keyword? "CASCADE"
      pure (.dropColumn column.name missing)

def columnChange (r : Level) : Parser TableChange := do
  let _ ← keyword? "COLUMN"
  let column ← ident
  let name := column.name
  if ← keywords? ["SET", "NOT", "NULL"] then pure (.setNotNull name)
  else if ← keywords? ["DROP", "NOT", "NULL"] then pure (.dropNotNull name)
  else if ← keywords? ["SET", "DEFAULT"] then
    return .unsupported ("ALTER COLUMN SET DEFAULT " ++ (← r.expr 0).render)
  else if ← keywords? ["DROP", "DEFAULT"] then pure (.unsupported "ALTER COLUMN DROP DEFAULT")
  else if ← keywords? ["ADD", "GENERATED"] then
    let always ← do
      if ← keyword? "ALWAYS" then pure " ALWAYS"
      else if ← keywords? ["BY", "DEFAULT"] then pure " BY DEFAULT"
      else pure ""
    keywords ["AS", "IDENTITY"]
    let sequence ← parens? sequenceOptions
    let sequence := (sequence.map fun s => " (" ++ s ++ " )").getD ""
    pure (.unsupported ("ALTER COLUMN ADD GENERATED" ++ always ++ " AS IDENTITY" ++ sequence))
  else
    if !(← keywords? ["SET", "DATA", "TYPE"]) then keyword "TYPE"
    let type ← dataType
    let _ ← after? "USING" (r.expr 0)
    pure (.setType name type.type)

def columnReplacement (r : Level) (names : Nat) : Parser Unit := do
  let _ ← keyword? "COLUMN"
  (List.replicate names ()).forM fun _ => do
    let _ ← ident
  let _ ← dataType
  let _ ← many (columnOption? r)

def partitionRenaming (r : Level) : Parser TableChange := do
  let old ← parens (commaList (r.expr 0))
  keywords ["RENAME", "TO", "PARTITION"]
  let _ ← parens (commaList (r.expr 0))
  pure (.unsupported (headWords ("PARTITION (" ++ renderExprs old ++ ") RENAME")))

def laterChange (r : Level) : Parser TableChange := do
  let _ ← keywords? ["CLEAR", "PROJECTION"]
  let _ ← keywords? ["MATERIALIZE", "PROJECTION"]
  if ← keyword? "DROP" then removal r
  else if ← keyword? "PARTITION" then partitionRenaming r
  else if ← keyword? "CHANGE" then
    columnReplacement r 2 *> pure (.unsupported "CHANGE COLUMN")
  else if ← keyword? "MODIFY" then
    columnReplacement r 1 *> pure (.unsupported "MODIFY COLUMN")
  else if ← keyword? "ALTER" then columnChange r
  else if ← keyword? "SWAP" then
    keyword "WITH"
    let _ ← objectName
    pure (.unsupported "SWAP WITH")
  else if ← keywords? ["OWNER", "TO"] then ident *> pure (.unsupported "OWNER TO")
  else if ← keywords? ["CLUSTER", "BY"] then
    parens (commaList (r.expr 0)) *> pure (.unsupported "CLUSTER BY")
  else if ← keywords? ["SUSPEND", "RECLUSTER"] then pure (.unsupported "SUSPEND RECLUSTER")
  else if ← keywords? ["RESUME", "RECLUSTER"] then pure (.unsupported "RESUME RECLUSTER")
  else
    match ← options? r ["SET", "TBLPROPERTIES"] with
    | some options =>
      pure (.unsupported (headWords ("SET TBLPROPERTIES(" ++ renderPieces options ++ ")")))
    | none => mismatch

def tableChange (r : Level) : Parser TableChange := do
  if ← keyword? "ADD" then addition r
  else if ← keyword? "RENAME" then renameChange
  else if ← keyword? "DISABLE" then return .unsupported (← disable)
  else if ← keyword? "ENABLE" then return .unsupported (← enable)
  else laterChange r

def newLocation? : Parser Unit := do
  let plain ← keyword? "LOCATION"
  let found ← if plain then pure true else keywords? ["SET", "LOCATION"]
  if found then
    let _ ← ident

def alterTable (r : Level) : Parser Statement := do
  let missing ← ifExists
  let _ ← keyword? "ONLY"
  let name ← objectName
  onCluster?
  let changes ← commaList (tableChange r)
  newLocation?
  pure (.define (.alterTable name missing changes))

def createSchema : Parser Statement := do
  let ifNotExists ← ifNotExists
  if ← keyword? "AUTHORIZATION" then
    return .define (.createSchema (← ident).name ifNotExists)
  else
    let name ← objectName
    let _ ← after? "AUTHORIZATION" ident
    pure (.define (.createSchema name.last ifNotExists))

def attributesFrom : Nat → Parser Unit
  | 0 => mismatch
  | fuel + 1 => do
    let _ ← ident
    let _ ← dataType
    let _ ← after? "COLLATE" objectName
    let comma ← symbol? ","
    if ← symbol? ")" then pure ()
    else
      require comma
      attributesFrom fuel

def createType (plain : Bool) : Parser Statement := do
  let name ← objectName
  keyword "AS"
  if plain && (← nextIsKeyword "ENUM") then
    keyword "ENUM"
    let labels ← parens (commaList0 ident ")")
    pure (.define (.createEnum name (labels.map fun l => l.text.toString)))
  else
    if ← symbol? "(" then
      if ← symbol? ")" then pure () else attributesFrom ((← get).length + 1)
    pure (.define (.createComposite name))

/-- A declared argument. A type of no known name is the name of the argument. -/
def parameter (r : Level) : Parser Parameter := do
  let _ ← oneOf? ["IN", "OUT", "INOUT"]
  let tokens ← get
  let first ← dataType
  let (name, type) ← do
    if first.custom then
      let name := match tokens with
        | .word w :: _ => w.name
        | .string _ t :: _ => t.toString
        | _ => ""
      pure (name, ← dataType)
    else pure ("", first)
  let default ← do
    if ← keyword? "DEFAULT" then some <$> r.expr 0
    else if ← symbol? "=" then some <$> r.expr 0
    else pure none
  pure { name, type := type.type, hasDefault := default.isSome }

def functionText : Parser Unit := do
  match ← peek with
  | some (.string (.dollar _) _) => let _ ← next
  | _ => let _ ← literalString

def functionProperty? (r : Level) : Parser (Option String) := do
  if ← keyword? "AS" then functionText *> pure (some "body")
  else if ← keyword? "LANGUAGE" then ident *> pure (some "language")
  else if (← oneOf? ["IMMUTABLE", "STABLE", "VOLATILE"]).isSome then pure (some "behavior")
  else if ← keywords? ["CALLED", "ON", "NULL", "INPUT"] then pure (some "nulls")
  else if ← keywords? ["RETURNS", "NULL", "ON", "NULL", "INPUT"] then pure (some "nulls")
  else if ← keyword? "STRICT" then pure (some "nulls")
  else if ← keyword? "PARALLEL" then
    oneOf ["UNSAFE", "RESTRICTED", "SAFE"] *> pure (some "parallel")
  else if ← keyword? "RETURN" then r.expr 0 *> pure (some "body")
  else pure none

def createFunction (r : Level) (replace : Bool) : Parser Statement := do
  let name ← objectName
  let parameters ← parens (commaList0 (parameter r) ")")
  let returns ← after? "RETURNS" dataType
  let properties ← many (functionProperty? r)
  require (decide properties.Nodup)
  pure (.define (.createFunction name parameters (returns.map DataType.type) replace))

def signature (r : Level) : Parser (Signature ObjectName) := do
  let name ← objectName
  let parameters ← do
    match ← parens? (commaList0 (parameter r) ")") with
    | some [] => pure none
    | some ps => pure (some (ps.map Parameter.type))
    | none => pure none
  pure { name, types := parameters }

def dropBehavior : Parser Unit := do
  let _ ← oneOf? ["CASCADE", "RESTRICT"]

def dropFunction (r : Level) : Parser Statement := do
  let missing ← ifExists
  let functions ← commaList (signature r)
  dropBehavior
  pure (.define (.dropFunction functions missing))

def dropObjects (k : String) : Parser Statement := do
  let missing ← ifExists
  let names ← commaList objectName
  let cascade ← keyword? "CASCADE"
  let restrict ← keyword? "RESTRICT"
  let purge ← keyword? "PURGE"
  require !(cascade && restrict)
  require !(k = "ROLE" && (cascade || restrict || purge))
  if k = "TABLE" then pure (.define (.drop .table names missing))
  else if k = "TYPE" then pure (.define (.drop .type names missing))
  else if k = "SCHEMA" then pure (.define (.drop .schema names missing))
  else pure (.noOp ("DROP " ++ k))

def dropOfTable (kind : String) (name : Parser Unit) : Parser Statement := do
  let _ ← ifExists
  name
  keyword "ON"
  let _ ← objectName
  dropBehavior
  pure (.other kind)

/-- One token, whatever it is, where there is one; the answer is whether it is a name. -/
def looseIdent : Parser Bool := do
  match ← get with
  | .word _ :: rest => set rest *> pure true
  | .string .plain _ :: rest => set rest *> pure true
  | _ :: rest => set rest *> pure false
  | [] => pure false

def dropSecret : Parser Statement := do
  let _ ← ifExists
  let _ ← ident
  if ← keyword? "FROM" then
    let _ ← looseIdent
  pure (.other "DROP SECRET")

def drop (r : Level) : Parser Statement := do
  let k ← oneOf ["TABLE", "VIEW", "INDEX", "ROLE", "SCHEMA", "DATABASE", "SEQUENCE", "STAGE", "TYPE",
    "FUNCTION", "POLICY", "PROCEDURE", "SECRET", "TRIGGER"]
  if k = "FUNCTION" then dropFunction r
  else if k = "PROCEDURE" then
    let _ ← ifExists
    let _ ← commaList (signature r)
    dropBehavior
    pure (.other "DROP PROCEDURE")
  else if k = "POLICY" then dropOfTable "DROP POLICY" (discard ident)
  else if k = "TRIGGER" then dropOfTable "DROP TRIGGER" (discard objectName)
  else if k = "SECRET" then dropSecret
  else dropObjects k

def comment : Parser Statement := do
  let _ ← ifExists
  keyword "ON"
  let k ← oneOf ["COLUMN", "TABLE", "EXTENSION", "SCHEMA", "DATABASE", "USER", "ROLE"]
  let name ← objectName
  keyword "IS"
  let text ← do
    if ← keyword? "NULL" then pure none else some <$> literalString
  let text := text.map Text.toString
  if k = "COLUMN" then pure (.define (.comment (.column name.names) text))
  else if k = "TABLE" then pure (.define (.comment (.table name) text))
  else if k = "SCHEMA" then pure (.define (.comment (.schema name.last) text))
  else pure (.noOp ("COMMENT ON " ++ k))

end TypedSql.Sql.Parser
