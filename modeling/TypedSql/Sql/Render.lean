import TypedSql.Sql.Tree

/-!
# Printed expressions and queries

The normal form in which names, values, expressions and queries are printed.
-/

namespace TypedSql.Sql

/-- Doubles the quotes of a text. Two quotes in a row are taken for one that is doubled already, and
a quote after a backslash stays as it is. -/
def escapeQuotes (quote : Char) (last : Char) : Text → Text
  | [] => []
  | c :: t =>
    if c = quote then
      if last = '\\' then c :: escapeQuotes quote last t
      else
        match t with
        | d :: t' =>
          if d = quote then quote :: quote :: escapeQuotes quote c t'
          else quote :: quote :: escapeQuotes quote c (d :: t')
        | [] => [quote, quote]
    else c :: escapeQuotes quote c t

def quoted (quote : Char) (t : Text) : String :=
  String.ofList (quote :: escapeQuotes quote '\x00' t ++ [quote])

def Ident.render (i : Ident) : String :=
  match i.quote with
  | some q => quoted q i.text
  | none => i.text.toString

def ObjectName.render (n : ObjectName) : String :=
  ".".intercalate (n.map Ident.render)

def escapedChar (c : Char) : Text :=
  match c with
  | '\'' => ['\\', '\'']
  | '\\' => ['\\', '\\']
  | '\n' => ['\\', 'n']
  | '\t' => ['\\', 't']
  | '\r' => ['\\', 'r']
  | c => [c]

def hexDigits : Nat → Nat → Text
  | 0, _ => []
  | width + 1, n =>
    let d := n % 16
    hexDigits width (n / 16) ++ [Char.ofNat (if d < 10 then 48 + d else 55 + d)]

def unicodeChar (c : Char) : Text :=
  if c = '\'' then ['\'', '\'']
  else if c = '\\' then ['\\', '\\']
  else if c.toNat < 128 then [c]
  else if c.toNat < 0x10000 then '\\' :: hexDigits 4 c.toNat
  else '\\' :: '+' :: hexDigits 6 c.toNat

namespace Value

def renderString (form : StringForm) (t : Text) : String :=
  match form with
  | .plain => quoted '\'' t
  | .national => "N'" ++ t.toString ++ "'"
  | .hex => "X'" ++ t.toString ++ "'"
  | .bits => "B'" ++ t.toString ++ "'"
  | .bitsQuoted => "B\"" ++ t.toString ++ "\""
  | .escaped => "E'" ++ Text.toString (t.flatMap escapedChar) ++ "'"
  | .unicode => "U&'" ++ Text.toString (t.flatMap unicodeChar) ++ "'"
  | .dollar tag => "$" ++ tag.toString ++ "$" ++ t.toString ++ "$" ++ tag.toString ++ "$"

def render : Value → String
  | .number digits long => digits.toString ++ if long then "L" else ""
  | .string form t => renderString form t
  | .boolean b => if b then "true" else "false"
  | .null => "NULL"
  | .placeholder t => t.toString
  | .word t => quoted '"' t

end Value

def textIf (b : Bool) (text : String) : String :=
  if b then text else ""

def Operator.render : Operator → String
  | .eq => "="
  | .notEq => "<>"
  | .lt => "<"
  | .ltEq => "<="
  | .gt => ">"
  | .gtEq => ">="
  | .plus => "+"
  | .minus => "-"
  | .multiply => "*"
  | .divide => "/"
  | .modulo => "%"
  | .and => "AND"
  | .or => "OR"
  | .concat => "||"
  | .like => "LIKE"
  | .ilike => "ILIKE"
  | .other text => text

def SetOperator.render : SetOperator → String
  | .union => "UNION"
  | .intersect => "INTERSECT"
  | .except => "EXCEPT"

def starText (qualifier : ObjectName) : String :=
  if qualifier.isEmpty then "*" else ObjectName.render qualifier ++ ".*"

def columnText : Ident × Option DataType → String
  | (i, some t) => i.render ++ " " ++ t.text
  | (i, none) => i.render

def identsText (ids : List Ident) : String :=
  ", ".intercalate (ids.map Ident.render)

def Label.render (l : Label) : String :=
  l.name.render ++
    if l.columns.isEmpty then "" else " (" ++ ", ".intercalate (l.columns.map columnText) ++ ")"

def labelText : Option Label → String
  | some l => " AS " ++ l.render
  | none => ""

mutual

def Expr.render : Expr → String
  | .ident id => id.render
  | .compound ids => ObjectName.render ids
  | .value v => v.render
  | .nested e => "(" ++ e.render ++ ")"
  | .binary left _ opens right closes => left.render ++ " " ++ opens ++ right.render ++ closes
  | .unary op e =>
    if op = "!" then e.render ++ op
    else if op = "NOT" then op ++ " " ++ e.render
    else op ++ e.render
  | .cast (.call name format) e type =>
    name ++ "(" ++ e.render ++ " AS " ++ type.text ++ format ++ ")"
  | .cast .colons e type => e.render ++ "::" ++ type.text
  | .call name args group tail braced =>
    textIf braced "\x7bfn " ++ ObjectName.render name ++ args.render ++ renderPieces group ++
      renderPieces tail ++ textIf braced "\x7d"
  | .between e negated low high =>
    e.render ++ textIf negated " NOT" ++ " BETWEEN " ++ low.render ++ " AND " ++ high.render
  | .inList e items negated =>
    e.render ++ textIf negated " NOT" ++ " IN (" ++ renderExprs items ++ ")"
  | .inQuery e query negated =>
    e.render ++ textIf negated " NOT" ++ " IN (" ++ query.render ++ ")"
  | .exist query negated => textIf negated "NOT " ++ "EXISTS (" ++ query.render ++ ")"
  | .subquery query => "(" ++ query.render ++ ")"
  | .choose operand branches otherwise =>
    "CASE" ++ renderAfter " " operand ++ renderBranches branches ++
      renderAfter " ELSE " otherwise ++ " END"
  | .isNull e negated => e.render ++ " IS " ++ textIf negated "NOT " ++ "NULL"
  | .array named items => textIf named "ARRAY" ++ "[" ++ renderExprs items ++ "]"
  | .other _ pieces => renderPieces pieces

def renderExprs : List Expr → String
  | [] => ""
  | [e] => e.render
  | e :: es => e.render ++ ", " ++ renderExprs es

def renderAfter (intro : String) : Option Expr → String
  | some e => intro ++ e.render
  | none => ""

def renderBranches : List Branch → String
  | [] => ""
  | ⟨c, r⟩ :: bs => " WHEN " ++ c.render ++ " THEN " ++ r.render ++ renderBranches bs

def renderPieces : List Piece → String
  | [] => ""
  | .text s :: ps => s ++ renderPieces ps
  | .expr e :: ps => e.render ++ renderPieces ps
  | .query q :: ps => q.render ++ renderPieces ps

def Args.render : Args → String
  | .none => ""
  | .query q => "(" ++ q.render ++ ")"
  | .list quantifier args clauses =>
    "(" ++ quantifier ++ renderArgs args ++ renderPieces clauses ++ ")"

def renderArgs : List Arg → String
  | [] => ""
  | [a] => a.render
  | a :: as => a.render ++ ", " ++ renderArgs as

def Arg.render : Arg → String
  | .positional value => value.render
  | .named name op value => name.render ++ op ++ value.render

def ArgValue.render : ArgValue → String
  | .expr e => e.render
  | .star qualifier => starText qualifier

def Query.render : Query → String
  | ⟨isRecursive, ctes, body, orderBy, limit, offset, rows, tail⟩ =>
    textIf (!ctes.isEmpty) ("WITH " ++ textIf isRecursive "RECURSIVE ") ++ renderCtes ctes ++
      textIf (!ctes.isEmpty) " " ++ body.render ++
      textIf (!orderBy.isEmpty) " ORDER BY " ++ renderOrder orderBy ++
      renderAfter " LIMIT " limit ++ renderAfter " OFFSET " offset ++ rows ++ tail

def renderOrder : List OrderItem → String
  | [] => ""
  | [⟨e, order⟩] => e.render ++ order
  | ⟨e, order⟩ :: os => e.render ++ order ++ ", " ++ renderOrder os

def renderCtes : List Cte → String
  | [] => ""
  | [c] => c.render
  | c :: cs => c.render ++ ", " ++ renderCtes cs

def Cte.render : Cte → String
  | ⟨label, head, query, tail⟩ => label.render ++ " AS " ++ head ++ "(" ++ query.render ++ ")" ++ tail

def Body.render : Body → String
  | .select s => s.render
  | .query q => "(" ++ q.render ++ ")"
  | .setOp op quantifier left right =>
    left.render ++ " " ++ SetOperator.render op ++ quantifier ++ " " ++ right.render
  | .values named rows => "VALUES " ++ renderRows (textIf named "ROW") rows
  | .unsupported _ text => text

def renderRows (word : String) : List (List Expr) → String
  | [] => ""
  | [r] => word ++ "(" ++ renderExprs r ++ ")"
  | r :: rs => word ++ "(" ++ renderExprs r ++ "), " ++ renderRows word rs

def Select.render : Select → String
  | ⟨_, head, items, into, tables, views, selection, groupAll, groupBy, spread, having, windows⟩ =>
    "SELECT " ++ head ++ renderItems items ++ into ++
      textIf (!tables.isEmpty) " FROM " ++ renderTables tables ++ views ++
      renderAfter " WHERE " selection ++ textIf groupAll " GROUP BY ALL" ++
      textIf (!groupBy.isEmpty) " GROUP BY " ++ renderExprs groupBy ++ spread ++
      renderAfter " HAVING " having ++ windows

def renderItems : List SelectItem → String
  | [] => ""
  | [i] => i.render
  | i :: is => i.render ++ ", " ++ renderItems is

def SelectItem.render : SelectItem → String
  | .expr e => e.render
  | .aliased e name => e.render ++ " AS " ++ name.render
  | .star qualifier => starText qualifier

def renderTables : List Tables → String
  | [] => ""
  | [t] => t.render
  | t :: ts => t.render ++ ", " ++ renderTables ts

def Tables.render : Tables → String
  | ⟨first, joins⟩ => first.render ++ renderJoins joins

def renderJoins : List Join → String
  | [] => ""
  | ⟨head, _, factor, condition, tail⟩ :: js =>
    " " ++ head ++ " " ++ factor.render ++ renderAfter " ON " condition ++ tail ++ renderJoins js

def Factor.render : Factor → String
  | .table name head label hints => ObjectName.render name ++ head ++ labelText label ++ hints
  | .derived isLateral query label =>
    textIf isLateral "LATERAL " ++ "(" ++ query.render ++ ")" ++ labelText label
  | .nested tables label => "(" ++ tables.render ++ ")" ++ labelText label
  | .other _ text => text

end

def returningText (items : List SelectItem) : String :=
  textIf (!items.isEmpty) " RETURNING " ++ renderItems items

def namesText (names : List ObjectName) : String :=
  ", ".intercalate (names.map ObjectName.render)

def AssignmentTarget.render : AssignmentTarget → String
  | .column name => ObjectName.render name
  | .columns names => "(" ++ namesText names ++ ")"

def Assignment.render (a : Assignment) : String :=
  a.target.render ++ " = " ++ a.value.render

def assignmentsText (as : List Assignment) : String :=
  ", ".intercalate (as.map Assignment.render)

def OnConflict.render : OnConflict → String
  | .none => ""
  | .nothing target => " ON CONFLICT" ++ target ++ " DO NOTHING"
  | .update target assignments selection =>
    " ON CONFLICT" ++ target ++ " DO UPDATE SET " ++ assignmentsText assignments ++
      renderAfter " WHERE " selection
  | .updateKey assignments => " ON DUPLICATE KEY UPDATE " ++ assignmentsText assignments

def Insert.render (i : Insert) : String :=
  let label := (i.label.map fun l => " AS " ++ l.render).getD ""
  i.head ++ " " ++ ObjectName.render i.table ++ label ++ " " ++
    textIf (!i.columns.isEmpty) ("(" ++ identsText i.columns ++ ") ") ++
    textIf (!i.partition.isEmpty) ("PARTITION (" ++ renderExprs i.partition ++ ") ") ++
    (match i.source with
      | some q => q.render
      | none => "DEFAULT VALUES") ++
    i.onConflict.render ++ returningText i.returning

def Insertion.render : Insertion → String
  | .rows i => i.render
  | .directory text => text

def Update.render (u : Update) : String :=
  u.head ++ " " ++ u.table.render ++ " SET " ++ assignmentsText u.assignments ++
    (match u.sources with
      | some t => " FROM " ++ t.render
      | none => "") ++
    renderAfter " WHERE " u.selection ++ returningText u.returning

end TypedSql.Sql
