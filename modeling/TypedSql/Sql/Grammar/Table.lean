import TypedSql.Sql.Grammar.Expr

/-!
# Tables

The sources of rows of a query: tables, subqueries and joins of them. Functions that give rows are
read, but of them only their kind and their text are kept.
-/

namespace TypedSql.Sql.Parser

def columnLabels : Parser (List (Ident × Option DataType)) := do
  let columns ← parens? (commaList do
    let name ← ident
    let type ← attempt dataType
    pure (name, type))
  pure (columns.getD [])

def tableLabel? : Parser (Option Label) := do
  match ← label? reservedAfterTable with
  | some name => return some { name, columns := ← columnLabels }
  | none => pure none

def derived (r : Level) (isLateral : Bool) : Parser Factor := do
  let query ← r.query
  symbol ")"
  let label ← tableLabel?
  pure (.derived isLateral query label)

def nestedTables (inner : Parser Tables) : Parser Factor := do
  let tables ← inner
  let isNested := match tables.first with
    | .nested .. => true
    | _ => false
  require (!tables.joins.isEmpty || isNested)
  symbol ")"
  let label ← tableLabel?
  pure (.nested tables label)

def unnest (r : Level) : Parser Factor := do
  let arrays ← parens (commaList (r.expr 0))
  let ordinality ← keywords? ["WITH", "ORDINALITY"]
  let label ← tableLabel?
  -- The first of the two words is taken even where the second does not follow.
  let isOffset ← do
    if ← keyword? "WITH" then keyword? "OFFSET" else pure false
  let offset ← do
    if isOffset then label? reservedAfterExpr else pure none
  let offsetLabel := (offset.map fun i => " AS " ++ i.render).getD ""
  pure (.other "UNNEST" ("UNNEST(" ++ renderExprs arrays ++ ")" ++
    textIf ordinality " WITH ORDINALITY" ++ labelText label ++
    textIf isOffset " WITH OFFSET" ++ offsetLabel))

def tableArgs (r : Level) : Parser String := do
  let args ← commaList0 (arg r) ")"
  symbol ")"
  pure ("(" ++ renderArgs args ++ ")")

def jsonFallback? : Parser (Option String) := do
  let fallback ← do
    if ← keyword? "NULL" then pure (some "NULL")
    else if ← keyword? "ERROR" then pure (some "ERROR")
    else if ← keyword? "DEFAULT" then pure (some ("DEFAULT " ++ (← value).render))
    else pure none
  if fallback.isSome then keyword "ON"
  pure fallback

def jsonFallbacks : Parser (String × String) := do
  extend (fun (onEmpty, onError) => do
    match ← jsonFallback? with
    | none => pure none
    | some fallback =>
      if ← keyword? "EMPTY" then pure (some (" " ++ fallback ++ " ON EMPTY", onError))
      else
        keyword "ERROR"
        pure (some (onEmpty, " " ++ fallback ++ " ON ERROR"))) ("", "")

def jsonColumn : Nat → Parser String
  | 0 => mismatch
  | fuel + 1 => do
    if ← keyword? "NESTED" then
      let _ ← keyword? "PATH"
      let path ← value
      keyword "COLUMNS"
      let columns ← parens (commaList (jsonColumn fuel))
      pure ("NESTED PATH " ++ path.render ++ " COLUMNS (" ++ ", ".intercalate columns ++ ")")
    else
      let name ← ident
      if ← keyword? "FOR" then
        keyword "ORDINALITY"
        pure (name.render ++ " FOR ORDINALITY")
      else
        let type ← dataType
        let isTest ← keyword? "EXISTS"
        keyword "PATH"
        let path ← value
        let (onEmpty, onError) ← jsonFallbacks
        pure (name.render ++ " " ++ type.text ++ textIf isTest " EXISTS" ++ " PATH " ++ path.render ++
          onEmpty ++ onError)

def jsonTable (r : Level) : Parser Factor := do
  let e ← r.expr 0
  symbol ","
  let path ← value
  keyword "COLUMNS"
  let columns ← parens (commaList (do jsonColumn ((← get).length + 1)))
  symbol ")"
  let label ← tableLabel?
  pure (.other "JsonTable" ("JSON_TABLE(" ++ e.render ++ ", " ++ path.render ++ " COLUMNS(" ++
    ", ".intercalate columns ++ "))" ++ labelText label))

def openJsonColumn : Parser String := do
  let name ← ident
  let type ← dataType
  let path ← do
    match ← peek with
    | some (.string .plain t) => next *> pure (" " ++ quoted '\'' t)
    | _ => pure ""
  let isJson ← keyword? "AS"
  if isJson then keyword "JSON"
  pure (name.render ++ " " ++ type.text ++ path ++ textIf isJson " AS JSON")

def openJson (r : Level) : Parser Factor := do
  let e ← r.expr 0
  let path ← when? (← symbol? ",") value
  symbol ")"
  let columns ← after? "WITH" (parens (commaList openJsonColumn))
  let label ← tableLabel?
  pure (.other "OpenJsonTable" ("OPENJSON(" ++ e.render ++
    ((path.map fun v => ", " ++ v.render).getD "") ++ ")" ++
    ((columns.map fun cs => " WITH (" ++ ", ".intercalate cs ++ ")").getD "") ++ labelText label))

def aliased (p : Parser Expr) : Parser String := do
  let e ← p
  match ← after? "AS" ident with
  | some name => pure (e.render ++ " AS " ++ name.render)
  | none => pure e.render

def pivotCall (r : Level) : Parser Expr := do
  match ← next with
  | .word w => call r [{ text := w.text }] false
  | _ => mismatch

def pivotValues (r : Level) : Parser String := do
  if ← keyword? "ANY" then
    if ← keywords? ["ORDER", "BY"] then
      return "ANY ORDER BY " ++ renderOrder (← commaList (orderItem r))
    else pure "ANY"
  else if ← nextIsQuery then return (← r.query).render
  else return ", ".intercalate (← commaList (aliased (r.expr 0)))

def pivot (r : Level) (f : Factor) : Parser Factor := do
  let inner ← parens do
    let calls ← commaList (aliased (pivotCall r))
    keyword "FOR"
    let column ← objectName
    keyword "IN"
    let values ← parens (pivotValues r)
    let default ← do
      if ← keywords? ["DEFAULT", "ON", "NULL"] then
        pure (" DEFAULT ON NULL (" ++ (← parens (r.expr 0)).render ++ ")")
      else pure ""
    pure (", ".intercalate calls ++ " FOR " ++ ObjectName.render column ++ " IN (" ++ values ++ ")" ++
      default)
  let label ← tableLabel?
  pure (.other "Pivot" (f.render ++ " PIVOT(" ++ inner ++ ")" ++ labelText label))

def unpivot (f : Factor) : Parser Factor := do
  let inner ← parens do
    let value ← ident
    keyword "FOR"
    let name ← ident
    keyword "IN"
    let columns ← columns
    pure (value.render ++ " FOR " ++ name.render ++ " IN (" ++ identsText columns ++ ")")
  let label ← tableLabel?
  pure (.other "Unpivot" (f.render ++ " UNPIVOT(" ++ inner ++ ")" ++ labelText label))

def turned (r : Level) (f : Factor) : Parser Factor :=
  extend (fun f => do
    match ← oneOf? ["PIVOT", "UNPIVOT"] with
    | some k => if k = "PIVOT" then some <$> pivot r f else some <$> unpivot f
    | none => pure none) f

def hints? (r : Level) : Parser String := do
  match ← get with
  | t :: .symbol "(" :: rest =>
    if t.isKeyword "WITH" then
      set rest
      let hints ← commaList (r.expr 0)
      symbol ")"
      pure (" WITH (" ++ renderExprs hints ++ ")")
    else pure ""
  | _ => pure ""

def namedTable (r : Level) : Parser Factor := do
  let name ← objectName
  let args ← when? (← symbol? "(") (tableArgs r)
  let ordinality ← keywords? ["WITH", "ORDINALITY"]
  let head := textIf ordinality " WITH ORDINALITY"
  let label ← tableLabel?
  let hints ← hints? r
  turned r (match args with
    | some text =>
      .other "function call" (ObjectName.render name ++ text ++ head ++ labelText label ++ hints)
    | none => .table name head label hints)

def factor (r : Level) (inner : Parser Tables) : Parser Factor := do
  if ← keyword? "LATERAL" then
    if ← symbol? "(" then derived r true
    else
      let name ← objectName
      symbol "("
      let args ← tableArgs r
      let label ← tableLabel?
      pure (.other "Function" ("LATERAL " ++ ObjectName.render name ++ args ++ labelText label))
  else if ← keyword? "TABLE" then
    let e ← parens (r.expr 0)
    let label ← tableLabel?
    pure (.other "TableFunction" ("TABLE(" ++ e.render ++ ")" ++ labelText label))
  else if ← symbol? "(" then
    match ← attempt (derived r false) with
    | some f => turned r f
    | none => nestedTables inner
  else if ← keyword? "UNNEST" then unnest r
  else
    match ← get with
    | t :: .symbol "(" :: rest =>
      if t.isKeyword "JSON_TABLE" then set rest *> jsonTable r
      else if t.isKeyword "OPENJSON" then set rest *> openJson r
      else namedTable r
    | _ => namedTable r

structure JoinWords where
  kind : JoinKind
  words : String
  isVisible : Bool := true

def joinWords : Parser JoinWords := do
  if ← keyword? "INNER" then keyword "JOIN" *> pure { kind := .inner, words := "" }
  else if ← keyword? "JOIN" then pure { kind := .inner, words := "" }
  else
    match ← oneOf? ["LEFT", "RIGHT", "ANTI", "SEMI"] with
    | some side =>
      if side = "ANTI" || side = "SEMI" then
        keyword "JOIN"
        pure { kind := .inner, words := side ++ " ", isVisible := false }
      else
        let word ← oneOf ["OUTER", "SEMI", "ANTI", "JOIN"]
        if word != "JOIN" then keyword "JOIN"
        if word = "SEMI" || word = "ANTI" then
          pure { kind := .inner, words := side ++ " " ++ word ++ " ", isVisible := false }
        else pure { kind := if side = "LEFT" then .left else .right, words := side ++ " " }
    | none =>
      keyword "FULL"
      let _ ← keyword? "OUTER"
      keyword "JOIN"
      pure { kind := .full, words := "FULL " }

def joinCondition (r : Level) (isNatural : Bool) : Parser (Option Expr × String) := do
  if isNatural then pure (none, "")
  else if ← keyword? "ON" then return (some (← r.expr 0), "")
  else if ← keyword? "USING" then return (none, " USING(" ++ identsText (← columns) ++ ")")
  else pure (none, "")

def startsJoin : Option Token → Bool
  | some (.word w) =>
    ["INNER", "JOIN", "LEFT", "RIGHT", "ANTI", "SEMI", "FULL", "OUTER"].contains w.keyword
  | _ => false

def plainJoin (r : Level) (inner : Parser Tables) (head : String) : Parser (Option Join) := do
  let factor ← factor r inner
  pure (some { head, kind := .inner, factor, condition := none, tail := "" })

def join? (r : Level) (inner : Parser Tables) : Parser (Option Join) := do
  let isGlobal ← keyword? "GLOBAL"
  let lead := textIf isGlobal "GLOBAL "
  if ← keyword? "CROSS" then
    let word ← oneOf ["JOIN", "APPLY"]
    plainJoin r inner (lead ++ "CROSS " ++ word)
  else if ← keyword? "OUTER" then
    keyword "APPLY"
    plainJoin r inner (lead ++ "OUTER APPLY")
  else if ← keyword? "ASOF" then
    keyword "JOIN"
    let factor ← factor r inner
    keyword "MATCH_CONDITION"
    let matching ← parens (r.expr 0)
    let (condition, columns) ← joinCondition r false
    let tail := " MATCH_CONDITION (" ++ matching.render ++ ")" ++ renderAfter " ON " condition ++ columns
    pure (some { head := lead ++ "ASOF JOIN", kind := .inner, factor, condition := none, tail })
  else
    let isNatural ← keyword? "NATURAL"
    if startsJoin (← peek) then
      let join ← joinWords
      let factor ← factor r inner
      let (condition, columns) ← joinCondition r isNatural
      let head := lead ++ textIf isNatural "NATURAL " ++ join.words ++ "JOIN"
      if join.isVisible then pure (some { head, kind := join.kind, factor, condition, tail := columns })
      else
        let tail := renderAfter " ON " condition ++ columns
        pure (some { head, kind := join.kind, factor, condition := none, tail })
    else
      require !isNatural
      pure none

def tablesFrom (r : Level) : Nat → Parser Tables
  | 0 => mismatch
  | fuel + 1 => do
    let first ← factor r (tablesFrom r fuel)
    let joins ← many (join? r (tablesFrom r fuel))
    pure { first, joins }

def tables (r : Level) : Parser Tables := do
  tablesFrom r ((← get).length + 1)

end TypedSql.Sql.Parser
