import TypedSql.Sql.Grammar.DataType

/-!
# Expressions

Expressions are read by the precedence of their operators. What is nested in them is read by the
parsers of a `Level`, one for each kind of thing that can hold another.
-/

namespace TypedSql.Sql

/-- The parsers for what is nested in a thing being read. -/
structure Level where
  expr : Nat → Parser Expr
  /-- An expression without operators around it. It is nested no deeper than what it is a part of. -/
  operand : Parser Expr
  query : Parser Query
  statement : Parser Statement

namespace Parser

def commaPieces : List (List Piece) → List Piece
  | [] => []
  | [ps] => ps
  | ps :: more => ps ++ .text ", " :: commaPieces more

def exprPieces (es : List Expr) : List Piece :=
  commaPieces (es.map fun e => [.expr e])

def orderItem (r : Level) : Parser OrderItem := do
  let expr ← r.expr 0
  let direction ← do
    if ← keyword? "ASC" then pure " ASC"
    else if ← keyword? "DESC" then pure " DESC"
    else pure ""
  let nulls ← do
    if ← keywords? ["NULLS", "FIRST"] then pure " NULLS FIRST"
    else if ← keywords? ["NULLS", "LAST"] then pure " NULLS LAST"
    else pure ""
  pure { expr, order := direction ++ nulls }

def orderPieces (items : List OrderItem) : List Piece :=
  commaPieces (items.map fun o => [.expr o.expr, .text o.order])

def timeUnits : List String :=
  ["YEAR", "MONTH", "WEEK", "DAY", "HOUR", "MINUTE", "SECOND", "CENTURY", "DECADE", "DOW", "DOY",
  "EPOCH", "ISODOW", "ISOYEAR", "JULIAN", "MICROSECOND", "MICROSECONDS", "MILLENIUM", "MILLENNIUM",
  "MILLISECOND", "MILLISECONDS", "NANOSECOND", "NANOSECONDS", "QUARTER", "TIMEZONE",
  "TIMEZONE_HOUR", "TIMEZONE_MINUTE"]

def timeParts : List String :=
  ["DATE", "DATETIME", "DAYOFWEEK", "DAYOFYEAR", "ISOWEEK", "TIME", "TIMEZONE_ABBR",
  "TIMEZONE_REGION"]

def timeField : Parser String := do
  match ← next with
  | .word w =>
    pure (if timeUnits.contains w.keyword || timeParts.contains w.keyword then w.keyword
      else (Ident.ofWord w).render)
  | .string .plain t => pure (quoted '\'' t)
  | _ => mismatch

def fieldDigits? (fraction : Bool) : Parser String := do
  let inner ← parens? do
    let digits ← natural
    if fraction && (← nextIsSymbol ",") then
      next *> return toString digits ++ ", " ++ toString (← natural)
    else pure (toString digits)
  pure ((inner.map fun s => " (" ++ s ++ ")").getD "")

def interval (r : Level) : Parser Expr := do
  let value ← r.operand
  let unit ← oneOf? timeUnits
  let isSecond := unit = some "SECOND"
  let digits ← fieldDigits? isSecond
  let last ← do
    if isSecond then pure none
    else after? "TO" do
      let field ← timeField
      let digits ← if field = "SECOND" then fieldDigits? false else pure ""
      pure (" TO " ++ field ++ digits)
  pure (.other "Interval"
    [.text "INTERVAL ", .expr value,
      .text ((unit.map (" " ++ ·)).getD "" ++ digits ++ last.getD "")])

def frameBound (r : Level) : Parser (List Piece) := do
  if ← keywords? ["CURRENT", "ROW"] then pure [.text "CURRENT ROW"]
  else
    let amount ← do
      if ← keyword? "UNBOUNDED" then pure [.text "UNBOUNDED"]
      else
        match ← peek with
        | some (.string .plain _) => pure [.expr (← interval r)]
        | _ => pure [.expr (← r.expr 0)]
    return amount ++ [.text (" " ++ (← oneOf ["PRECEDING", "FOLLOWING"]))]

def frame (r : Level) : Parser (List Piece) := do
  let units ← oneOf ["ROWS", "RANGE", "GROUPS"]
  if ← keyword? "BETWEEN" then
    let first ← frameBound r
    keyword "AND"
    let last ← frameBound r
    pure (.text (units ++ " BETWEEN ") :: first ++ .text " AND " :: last)
  else return .text (units ++ " ") :: (← frameBound r)

def windowSpec (r : Level) : Parser (List Piece) := do
  let name ← do
    match ← peek with
    | some (.word w) =>
      if w.quoted || !isKeyword w.keyword then pure [[.text (← ident).render]] else pure []
    | _ => pure []
  let parts ← do
    if ← keywords? ["PARTITION", "BY"] then
      pure [.text "PARTITION BY " :: exprPieces (← commaList (r.expr 0))]
    else pure []
  let order ← do
    if ← keywords? ["ORDER", "BY"] then
      pure [.text "ORDER BY " :: orderPieces (← commaList (orderItem r))]
    else pure []
  let frames ← do
    if ← nextIsSymbol ")" then pure [] else pure [← frame r]
  symbol ")"
  pure ([.text " "].intercalate (name ++ parts ++ order ++ frames))

def dottedRest : Nat → Parser (List Ident × Bool)
  | 0 => pure ([], false)
  | fuel + 1 => do
    if ← symbol? "." then
      match ← next with
      | .word w =>
        let (ids, star) ← dottedRest fuel
        pure (.ofWord w :: ids, star)
      | .string .plain t =>
        let (ids, star) ← dottedRest fuel
        pure ({ text := t, quote := some '\'' } :: ids, star)
      | .symbol s => if s = "*" then pure ([], true) else mismatch
      | _ => mismatch
    else pure ([], false)

def star? : Parser (Option ObjectName) := do
  let tokens ← get
  let dotted : Parser (Option ObjectName) := do
    let first ← ident
    let (more, star) ← dottedRest tokens.length
    if star then pure (some (first :: more))
    else set tokens *> pure none
  match tokens with
  | .symbol s :: _ => if s = "*" then next *> pure (some []) else pure none
  | .word _ :: .symbol s :: _ => if s = "." then dotted else pure none
  | .string .plain _ :: .symbol s :: _ => if s = "." then dotted else pure none
  | _ => pure none

def argValue (r : Level) : Parser ArgValue := do
  match ← star? with
  | some qualifier => pure (.star qualifier)
  | none => return .expr (← r.expr 0)

def argOperator? : Parser (Option String) := do
  if ← keyword? "VALUE" then pure (some " VALUE ")
  else if ← symbol? "=>" then pure (some " => ")
  else if ← symbol? ":" then pure (some " : ")
  else pure none

def arg (r : Level) : Parser Arg := do
  let tokens ← get
  match ← attempt (r.expr 0) with
  | some e =>
    match ← argOperator? with
    | some op => return .named e op (← argValue r)
    | none =>
      let rest ← get
      set tokens
      match ← star? with
      | some qualifier => pure (.positional (.star qualifier))
      | none => set rest *> pure (.positional (.expr e))
  | none =>
    match ← star? with
    | some qualifier => pure (.positional (.star qualifier))
    | none => mismatch

def absentClause? : Parser (List (List Piece)) := do
  if ← keywords? ["ABSENT", "ON", "NULL"] then pure [[.text "ABSENT ON NULL"]]
  else if ← keywords? ["NULL", "ON", "NULL"] then pure [[.text "NULL ON NULL"]]
  else pure []

def overflowClause? (r : Level) : Parser (List (List Piece)) := do
  if ← keywords? ["ON", "OVERFLOW"] then
    if ← keyword? "ERROR" then pure [[.text "ON OVERFLOW ERROR"]]
    else
      keyword "TRUNCATE"
      let filler ← do
        match ← peek with
        | some (.string form _) =>
          require ([.plain, .escaped, .unicode, .national, .hex].contains form)
          pure [.text " ", .expr (← r.expr 0)]
        | _ => pure []
      let count ← oneOf ["WITH", "WITHOUT"]
      keyword "COUNT"
      pure [.text "ON OVERFLOW TRUNCATE" :: filler ++ [.text (" " ++ count ++ " COUNT")]]
  else pure []

def args (r : Level) : Parser Args := do
  let absent ← absentClause?
  if ← symbol? ")" then pure (.list "" [] absent.flatten)
  else
    let all ← keyword? "ALL"
    let distinct ← keyword? "DISTINCT"
    require !(all && distinct)
    let list ← commaList (arg r)
    let order ← do
      if ← keywords? ["ORDER", "BY"] then
        pure [.text "ORDER BY " :: orderPieces (← commaList (orderItem r))]
      else pure []
    let limit ← do
      if ← keyword? "LIMIT" then pure [[.text "LIMIT ", .expr (← r.expr 0)]] else pure []
    let overflow ← overflowClause? r
    let absentLast ← absentClause?
    symbol ")"
    let clauses := absent ++ order ++ limit ++ overflow ++ absentLast
    pure (.list (textIf all "ALL " ++ textIf distinct "DISTINCT ") list
      (clauses.flatMap fun ps => .text " " :: ps))

/-- A condition on the rows of a group. The keyword is taken even where no condition follows. -/
def filter? (r : Level) : Parser (List Piece) := do
  if ← keyword? "FILTER" then
    if ← symbol? "(" then
      if ← keyword? "WHERE" then
        let e ← r.expr 0
        symbol ")"
        pure [.text " FILTER (WHERE ", .expr e, .text ")"]
      else pure []
    else pure []
  else pure []

def nullTreatment? : Parser (List Piece) := do
  match ← oneOf? ["RESPECT", "IGNORE"] with
  | some k => keyword "NULLS" *> pure [.text (" " ++ k ++ " NULLS")]
  | none => pure []

def window? (r : Level) : Parser (List Piece) := do
  if ← keyword? "OVER" then
    if ← symbol? "(" then
      return .text " OVER (" :: (← windowSpec r) ++ [.text ")"]
    else return [.text (" OVER " ++ (← ident).render)]
  else pure []

def call (r : Level) (name : ObjectName) (braced : Bool) : Parser Expr := do
  symbol "("
  let args ← args r
  let group ← do
    if ← keywords? ["WITHIN", "GROUP"] then
      let items ← parens do
        keywords ["ORDER", "BY"]
        commaList (orderItem r)
      pure (.text " WITHIN GROUP (ORDER BY " :: orderPieces items ++ [.text ")"])
    else pure []
  let filter ← filter? r
  let nulls ← nullTreatment?
  let window ← window? r
  pure (.call name args group (filter ++ nulls ++ window) braced)

def caseForm (r : Level) : Parser Expr := do
  let operand ← do
    if ← nextIsKeyword "WHEN" then pure none else some <$> r.expr 0
  let branch : Parser Branch := do
    let condition ← r.expr 0
    keyword "THEN"
    let result ← r.expr 0
    pure { condition, result }
  keyword "WHEN"
  let first ← branch
  let more ← many (after? "WHEN" branch)
  let otherwise ← after? "ELSE" (r.expr 0)
  keyword "END"
  pure (.choose operand (first :: more) otherwise)

def castForm (r : Level) (name : String) : Parser Expr := parens do
  let e ← r.expr 0
  keyword "AS"
  let type ← dataType
  let format ← after? "FORMAT" do
    let format := " FORMAT " ++ (← value).render
    if ← keywords? ["AT", "TIME", "ZONE"] then
      return format ++ " AT TIME ZONE " ++ (← value).render
    else pure format
  pure (.cast (.call name (format.getD "")) e type)

def convertForm (r : Level) : Parser Expr := parens do
  let e ← r.expr 0
  if ← keyword? "USING" then
    let charset ← objectName
    pure (.other "Convert"
      [.text "CONVERT(", .expr e, .text (" USING " ++ ObjectName.render charset ++ ")")])
  else
    symbol ","
    let type ← dataType
    let charset ← do
      if ← keywords? ["CHARACTER", "SET"] then
        pure (" CHARACTER SET " ++ ObjectName.render (← objectName))
      else pure ""
    pure (.other "Convert" [.text "CONVERT(", .expr e, .text (", " ++ type.text ++ charset ++ ")")])

def extractForm (r : Level) : Parser Expr := parens do
  let field ← timeField
  keyword "FROM"
  let e ← r.expr 0
  pure (.other "Extract" [.text ("EXTRACT(" ++ field ++ " FROM "), .expr e, .text ")"])

def roundForm (r : Level) (kind name : String) : Parser Expr := parens do
  let e ← r.expr 0
  let suffix ← do
    if ← keyword? "TO" then pure (" TO " ++ (← timeField))
    else if ← symbol? "," then
      match ← value with
      | .number digits long => pure (", " ++ (Value.number digits long).render)
      | _ => mismatch
    else pure ""
  pure (.other kind [.text (name ++ "("), .expr e, .text (suffix ++ ")")])

def positionForm (r : Level) : Parser Expr := parens do
  let e ← r.expr 60
  keyword "IN"
  let whole ← r.expr 0
  pure (.other "Position" [.text "POSITION(", .expr e, .text " IN ", .expr whole, .text ")"])

def substringForm (r : Level) : Parser Expr := parens do
  let e ← r.expr 0
  let commas ← symbol? ","
  let start ← do
    if commas then pure [.text ", ", .expr (← r.expr 0)]
    else if ← keyword? "FROM" then pure [.text " FROM ", .expr (← r.expr 0)]
    else pure []
  let count ← do
    if ← keyword? "FOR" then pure [.expr (← r.expr 0)]
    else if ← symbol? "," then pure [.expr (← r.expr 0)]
    else pure []
  let count := if count.isEmpty then [] else .text (if commas then ", " else " FOR ") :: count
  pure (.other "Substring" (.text "SUBSTRING(" :: .expr e :: start ++ count ++ [.text ")"]))

def overlayForm (r : Level) : Parser Expr := parens do
  let e ← r.expr 0
  keyword "PLACING"
  let what ← r.expr 0
  keyword "FROM"
  let start ← r.expr 0
  let count ← do
    if ← keyword? "FOR" then pure [.text " FOR ", .expr (← r.expr 0)] else pure []
  pure (.other "Overlay" ([.text "OVERLAY(", .expr e, .text " PLACING ", .expr what,
    .text " FROM ", .expr start] ++ count ++ [.text ")"]))

def trimForm (r : Level) : Parser Expr := parens do
  let side ← oneOf? ["BOTH", "LEADING", "TRAILING"]
  let lead := "TRIM(" ++ (side.map (· ++ " ")).getD ""
  let e ← r.expr 0
  if ← keyword? "FROM" then
    let whole ← r.expr 0
    pure (.other "Trim" [.text lead, .expr e, .text " FROM ", .expr whole, .text ")"])
  else
    -- A comma is taken, but nothing may follow it.
    let _ ← symbol? ","
    pure (.other "Trim" [.text lead, .expr e, .text ")"])

def arrayForm (r : Level) (named : Bool) : Parser Expr := do
  symbol "["
  let items ← commaList0 (r.expr 0) "]"
  symbol "]"
  pure (.array named items)

def existForm (r : Level) (negated : Bool) : Parser Expr := do
  let query ← parens r.query
  pure (.exist query negated)

/-- The form that a word with a meaning of its own begins, read after the word. A word without such
a meaning has none. -/
def form? (r : Level) (w : Word) : Parser (Option Expr) := do
  let name : ObjectName := [.ofWord w]
  let k := w.keyword
  if k = "TRUE" then pure (some (.value (.boolean true)))
  else if k = "FALSE" then pure (some (.value (.boolean false)))
  else if k = "NULL" then pure (some (.value .null))
  else if ["CURRENT_CATALOG", "CURRENT_USER", "SESSION_USER", "USER"].contains k then
    pure (some (.call name .none [] [] false))
  else if ["CURRENT_TIMESTAMP", "CURRENT_TIME", "CURRENT_DATE", "LOCALTIME",
      "LOCALTIMESTAMP"].contains k then
    let list ← do
      if ← symbol? "(" then args r else pure .none
    pure (some (.call name list [] [] false))
  else if k = "CASE" then some <$> caseForm r
  else if k = "CONVERT" then some <$> convertForm r
  else if k = "CAST" || k = "TRY_CAST" || k = "SAFE_CAST" then some <$> castForm r k
  else if k = "EXISTS" then some <$> existForm r false
  else if k = "EXTRACT" then some <$> extractForm r
  else if k = "CEIL" then some <$> roundForm r "Ceil" "CEIL"
  else if k = "FLOOR" then some <$> roundForm r "Floor" "FLOOR"
  else if k = "POSITION" then
    if ← nextIsSymbol "(" then
      match ← attempt (positionForm r) with
      | some e => pure (some e)
      | none => some <$> call r name false
    else pure none
  else if k = "SUBSTRING" then some <$> substringForm r
  else if k = "OVERLAY" then some <$> overlayForm r
  else if k = "TRIM" then some <$> trimForm r
  else if k = "INTERVAL" then some <$> interval r
  else if k = "ARRAY" then
    if ← nextIsSymbol "[" then some <$> arrayForm r true
    else if ← nextIsSymbol "(" then
      let query ← parens r.query
      pure (some (.call name (.query query) [] [] false))
    else pure none
  else if k = "NOT" then
    if ← keyword? "EXISTS" then some <$> existForm r true
    else return some (.unary "NOT" (← r.expr 30))
  else pure none

def reservedForms : List String :=
  ["EXISTS", "INTERVAL", "STRUCT", "TRIM"]

def named (r : Level) (w : Word) : Parser Expr := do
  match ← peek with
  | some (.symbol s) =>
    if s = "." || s = "(" then
      let (more, star) ← dottedRest ((← get).length)
      let name : ObjectName := .ofWord w :: more
      if star then pure (.other "QualifiedWildcard" [.text (starText name)])
      else if ← nextIsSymbol "(" then call r name false
      else pure (.compound name)
    else pure (.ident (.ofWord w))
  | some (.string form t) =>
    if (form = .plain || form = .hex) && w.text.head? = some '_' then
      next *> pure (.other "IntroducedString"
        [.text (w.text.toString ++ " " ++ (Value.string form t).render)])
    else pure (.ident (.ofWord w))
  | _ => pure (.ident (.ofWord w))

def typedString (r : Level) : Parser Expr := do
  let type ← dataType
  if type.custom then mismatch
  else if type.text = "INTERVAL" then interval r
  else
    let t ← literalString
    pure (.other "TypedString" [.text (type.text ++ " " ++ quoted '\'' t)])

def nextIsQuery : Parser Bool :=
  return (← nextIsKeyword "SELECT") || (← nextIsKeyword "WITH")

def parenthesized (r : Level) : Parser Expr := do
  let e ← do
    if ← nextIsQuery then pure (.subquery (← r.query))
    else
      match ← commaList (r.expr 0) with
      | [e] => pure (.nested e)
      | es => pure (.other "Tuple" (.text "(" :: exprPieces es ++ [.text ")"]))
  symbol ")"
  if ← symbol? "." then
    match ← next with
    | .word w =>
      pure (.other "CompositeAccess" [.expr e, .text ("." ++ (Ident.ofWord w).render)])
    | _ => mismatch
  else pure e

def signs : List (String × Nat) :=
  [("-", 90), ("+", 90), ("!!", 80), ("|/", 80), ("||/", 80), ("@", 80), ("~", 80)]

def symbolOperand (r : Level) (s : String) : Parser Expr := do
  match signs.lookup s with
  | some p => return .unary s (← r.expr p)
  | none =>
    if s = "(" then parenthesized r
    else if s = "[" then
      let items ← commaList0 (r.expr 0) "]"
      symbol "]"
      pure (.array false items)
    else if s = ":" then
      match ← next with
      | .word w => pure (.value (.placeholder (':' :: w.text)))
      | .number digits false => pure (.value (.placeholder (':' :: digits)))
      | _ => mismatch
    else if s = "\x7b" then
      keyword "FN"
      let name ← objectName
      let e ← call r name true
      symbol "\x7d"
      pure e
    else mismatch

def collated (e : Expr) : Parser Expr := do
  if ← keyword? "COLLATE" then
    return .other "Collate" [.expr e, .text (" COLLATE " ++ ObjectName.render (← objectName))]
  else pure e

/-- An operand that begins with a word. Where the form that the word begins cannot be read, the word
is a name, unless it is never one. -/
def wordOperand (r : Level) (w : Word) : Parser Expr := do
  match ← outcome (form? r w) with
  | .ok (some e) => collated e
  | .ok none => named r w >>= collated
  | .error failure =>
    if reservedForms.contains w.keyword then throw failure
    else
      match ← outcome (named r w) with
      | .ok e => pure e
      | .error _ => throw failure

def operand (r : Level) : Parser Expr := do
  match ← attempt (typedString r) with
  | some e => pure e
  | none =>
    match ← next with
    | .word w => wordOperand r w
    | .symbol s => symbolOperand r s >>= collated
    | .number digits long => collated (.value (.number digits long))
    | .string form t => collated (.value (.string form t))
    | .placeholder t => collated (.value (.placeholder t))
    | _ => mismatch

def comparisons : List String :=
  ["=", "==", "<", "<=", "<>", "!=", ">", ">=", "~", "~*", "!~", "!~*", "~~", "~~*", "!~~", "!~~*",
  "<=>"]

def otherOperators : List String :=
  ["->", "->>", "#>", "#>>", "@>", "<@", "#-", "@?", "@@", "?", "?&", "?|", "!", "&&", "^@", "||",
  "#", ">>", "<<", "&", "|"]

def isCustomOperator (s : String) : Bool :=
  match s.toList with
  | c :: _ :: _ =>
    ['-', '<', '>', '~', '#', '|', '&', '%'].contains c && !(["|/", "||/"].contains s)
  | _ => false

def symbolPrecedence (s : String) : Nat :=
  if s = "::" then 140
  else if s = "[" then 130
  else if s = "^" then 100
  else if s = "*" || s = "/" || s = "%" then 90
  else if s = "+" || s = "-" then 80
  else if comparisons.contains s then 50
  else if otherOperators.contains s || isCustomOperator s then 70
  else 0

def predicates : List String :=
  ["IN", "BETWEEN", "LIKE", "ILIKE", "RLIKE", "REGEXP", "SIMILAR"]

def wordPrecedence (k : String) (rest : List Token) : Nat :=
  if k = "OR" then 10
  else if k = "AND" then 20
  else if k = "IS" then 40
  else if predicates.contains k || k = "OPERATOR" then 60
  else if k = "XOR" then 75
  else if k = "DIV" then 90
  else if k = "COLLATE" then 120
  else if k = "AT" then
    match rest with
    | t :: z :: _ => if t.isKeyword "TIME" && z.isKeyword "ZONE" then 110 else 0
    | _ => 0
  else if k = "NOT" then
    match rest with
    | .word w :: _ => if predicates.contains w.keyword then 60 else 0
    | _ => 0
  else 0

def nextPrecedence : List Token → Nat
  | .symbol s :: _ => symbolPrecedence s
  | .word w :: rest => wordPrecedence w.keyword rest
  | _ => 0

def operatorOfSymbol (s : String) : Operator :=
  if s = "=" || s = "==" then .eq
  else if s = "<>" || s = "!=" then .notEq
  else if s = "<" then .lt
  else if s = "<=" then .ltEq
  else if s = ">" then .gt
  else if s = ">=" then .gtEq
  else if s = "+" then .plus
  else if s = "-" then .minus
  else if s = "*" then .multiply
  else if s = "/" then .divide
  else if s = "%" then .modulo
  else if s = "||" then .concat
  else .other s

def isQuantifiable : Operator → Bool
  | .eq | .notEq | .lt | .ltEq | .gt | .gtEq => true
  | _ => false

def binary (r : Level) (left : Expr) (op : Operator) (precedence : Nat) : Parser Expr := do
  match ← oneOf? ["ANY", "ALL", "SOME"] with
  | some quantifier =>
    let tokens ← get
    symbol "("
    let right ← do
      if ← nextIsQuery then set tokens *> r.expr precedence
      else
        let e ← r.expr precedence
        symbol ")"
        pure e
    require (isQuantifiable op)
    let wrapped := match right with
      | .subquery _ => false
      | _ => true
    pure (.binary left op (Operator.render op ++ " " ++ quantifier ++ textIf wrapped "(") right
      (textIf wrapped ")"))
  | none =>
    let right ← r.expr precedence
    pure (.binary left op (Operator.render op ++ " ") right "")

def namedOperator : Parser Operator := parens do
  let first ← next
  let more ← many do when? (← symbol? ".") next
  pure (.other ("OPERATOR(" ++ ".".intercalate ((first :: more).map Token.render) ++ ")"))

def escape? : Parser String := do
  match ← after? "ESCAPE" literalString with
  | some t => pure (" ESCAPE '" ++ t.toString ++ "'")
  | none => pure ""

def inForm (r : Level) (e : Expr) (negated : Bool) : Parser Expr := do
  if ← keyword? "UNNEST" then
    let items ← parens (r.expr 0)
    pure (.other "InUnnest"
      [.expr e, .text (textIf negated " NOT" ++ " IN UNNEST("), .expr items, .text ")"])
  else parens do
    if ← nextIsQuery then return .inQuery e (← r.query) negated
    else return .inList e (← commaList (r.expr 0)) negated

def likeForm (r : Level) (e : Expr) (negated : Bool) (op : Operator) : Parser Expr := do
  let any ← keyword? "ANY"
  let pattern ← r.expr 60
  let escape ← escape?
  let anyText := if op = .ilike && !escape.isEmpty then "ANY" else "ANY "
  pure (.binary e op (textIf negated "NOT " ++ Operator.render op ++ " " ++ textIf any anyText)
    pattern escape)

def predicate (r : Level) (e : Expr) : Parser Expr := do
  let negated ← keyword? "NOT"
  let k ← oneOf predicates
  if k = "REGEXP" || k = "RLIKE" then
    if k = "REGEXP" then
      let _ ← keyword? "RLIKE"
    return .other "RLike" [.expr e, .text (textIf negated " NOT" ++ " " ++ k ++ " "),
      .expr (← r.expr 60)]
  else if k = "IN" then inForm r e negated
  else if k = "BETWEEN" then
    let low ← r.expr 60
    keyword "AND"
    let high ← r.expr 60
    pure (.between e negated low high)
  else if k = "LIKE" then likeForm r e negated .like
  else if k = "ILIKE" then likeForm r e negated .ilike
  else
    keyword "TO"
    let pattern ← r.expr 60
    let escape ← escape?
    pure (.other "SimilarTo" [.expr e, .text (textIf negated " NOT" ++ " SIMILAR TO "),
      .expr pattern, .text escape])

def isForm (r : Level) (e : Expr) : Parser Expr := do
  let negated ← keyword? "NOT"
  let kind (name : String) : String := "Is" ++ textIf negated "Not" ++ name
  let lead := " IS " ++ textIf negated "NOT "
  if ← keyword? "NULL" then pure (.isNull e negated)
  else if ← keyword? "TRUE" then pure (.other (kind "True") [.expr e, .text (lead ++ "TRUE")])
  else if ← keyword? "FALSE" then pure (.other (kind "False") [.expr e, .text (lead ++ "FALSE")])
  else if ← keyword? "UNKNOWN" then
    pure (.other (kind "Unknown") [.expr e, .text (lead ++ "UNKNOWN")])
  else
    keywords ["DISTINCT", "FROM"]
    let other ← r.expr 0
    pure (.other (kind "DistinctFrom") [.expr e, .text (lead ++ "DISTINCT FROM "), .expr other])

def subscript (r : Level) : Parser (List Piece) := do
  let (lower, sliced) ← do
    if ← symbol? ":" then pure ([], true)
    else pure ([.expr (← r.expr 0)], false)
  if ← symbol? "]" then pure (if sliced then [.text ":"] else lower)
  else
    if !sliced then symbol ":"
    if ← symbol? "]" then pure (lower ++ [.text ":"])
    else
      let upper ← r.expr 0
      let bounds := lower ++ [.text ":", .expr upper]
      if ← symbol? "]" then pure bounds
      else
        symbol ":"
        if ← symbol? "]" then pure bounds
        else
          let stride ← r.expr 0
          symbol "]"
          pure (bounds ++ [.text ":", .expr stride])

def operation (r : Level) (e : Expr) (precedence : Nat) : Parser Expr := do
  match ← peek with
  | some (.symbol s) =>
    let _ ← next
    if s = "::" then return .cast .colons e (← dataType)
    else if s = "!" then pure (.unary "!" e)
    else if s = "[" then
      return .other "Subscript" (.expr e :: .text "[" :: (← subscript r) ++ [.text "]"])
    else binary r e (operatorOfSymbol s) precedence
  | some (.word w) =>
    let k := w.keyword
    if k = "NOT" || predicates.contains k then predicate r e
    else
      let _ ← next
      if k = "AND" then binary r e .and precedence
      else if k = "OR" then binary r e .or precedence
      else if k = "XOR" then binary r e (.other "XOR") precedence
      else if k = "OPERATOR" then binary r e (← namedOperator) precedence
      else if k = "IS" then isForm r e
      else if k = "AT" then
        keywords ["TIME", "ZONE"]
        let zone ← r.expr precedence
        pure (.other "AtTimeZone" [.expr e, .text " AT TIME ZONE ", .expr zone])
      else mismatch
  | _ => mismatch

/-- An expression whose operators all bind tighter than `precedence`. -/
def expr (r : Level) (precedence : Nat) : Parser Expr := do
  let first ← operand r
  extend (fun e => do
    let next := nextPrecedence (← get)
    if precedence < next then some <$> operation r e next else pure none) first

end Parser

end TypedSql.Sql
