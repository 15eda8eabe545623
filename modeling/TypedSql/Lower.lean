import TypedSql.Script
import TypedSql.Sql.Grammar.Statement
import TypedSql.Statement

/-!
# From written statements to statements

Reads a statement as it is written into the tree that analyses work on. A wildcard takes the first
wildcard site of its form that none has taken before, so the clauses of a statement are read in a fixed
order. What an analysis cannot do with is refused here.
-/

namespace TypedSql

/-- The sites of wildcards that are not taken yet, and an error where a statement is refused. -/
abbrev Lower := StateT (List StarSite) (Except Error)

namespace Lower

def claim? (embed : Bool) (qualifier : List String) :
    List StarSite → Option (StarSite × List StarSite)
  | [] => none
  | s :: rest =>
    if s.embed = embed ∧ s.qualifier = qualifier then some (s, rest)
    else (claim? embed qualifier rest).map fun (found, others) => (found, s :: others)

def claim (embed : Bool) (qualifier : List String) (text : String) : Lower Expr := do
  match claim? embed qualifier (← get) with
  | some (site, rest) =>
    set rest
    pure (.star { qualifier, location := some site.location, text := site.text, embed })
  | none => pure (.star { qualifier, location := none, text := text.toList, embed })

def star (qualifier : List String) : Lower Expr :=
  let path := ".".intercalate qualifier
  claim false qualifier (if path.isEmpty then "*" else path ++ ".*")

def embed (qualifier : List String) : Lower Expr :=
  claim true qualifier ("sqlc.embed(" ++ ".".intercalate qualifier ++ ")")

def tableName (n : Sql.ObjectName) : Except Error QualifiedName :=
  match QualifiedName.ofParts? n.names with
  | some name => pure name
  | none => throw (.syntaxError (.improperName n.render))

def wordName (word : Text) : Text :=
  match word with
  | '"' :: rest =>
    match rest.reverse with
    | '"' :: inner => inner.reverse
    | _ => word.lower
  | _ => word.lower

def printedName (t : Text) : Text :=
  (t.words.head?.map wordName).getD []

/-- The name that a column of a common table expression is given. It is taken from the printed form:
the first word of it, without the quotes around it. -/
def columnName (column : Sql.Ident × Option Sql.DataType) : String :=
  Text.toString (printedName (Sql.columnText column).toList)

def callStyle? (name : Sql.ObjectName) : Option NamedStyle :=
  match name.names with
  | [schema, function] => if schema = pseudoSchema then Sites.namedStyle? function else none
  | _ => none

def soleArg? : Sql.Args → Option Sql.Expr
  | .list _ [.positional (.expr e)] _ => some e
  | _ => none

def embedded? : Sql.Expr → Option (List String)
  | .call name args _ _ _ =>
    if name.names = [pseudoSchema, "embed"] then
      match soleArg? args with
      | some (.ident id) => some [id.name]
      | some (.compound ids) => if ids.length ≤ 3 then some (ids.map Sql.Ident.name) else none
      | _ => none
    else none
  | _ => none

def parameter? (sites : Sites) : Sql.Expr → Except Error (Option Expr)
  | .value (.placeholder t) =>
    match Sites.placeholderNumber? t with
    | some n => pure (some (.param n (sites.positionalLocation? n)))
    | none => throw (.unsupported ("placeholder " ++ t.toString))
  | .unary op (.ident id) =>
    pure (if op = "@" then some (.named id.name .sigil) else none)
  | .call name args _ _ _ =>
    match callStyle? name, soleArg? args with
    | some style, some (.ident id) => pure (some (.named id.name style))
    | some style, some (.value (.string .plain t)) => pure (some (.named t.toString style))
    | _, _ => pure none
  | _ => pure none

def literal : Sql.Value → Literal
  | .number digits _ => .number digits.toString
  | .string .plain t => .string t.toString
  | .boolean b => .boolean b
  | .null => .null
  | v => .other v.render

def label : Option Sql.Ident → Option String :=
  Option.map Sql.Ident.name

def argLabel : Sql.Arg → Option String
  | .named (.ident id) _ _ => some id.name
  | _ => none

def isStar : Sql.Arg → Bool
  | .positional (.star _) => true
  | .named _ _ (.star _) => true
  | _ => false

def callHead (name : Sql.ObjectName) : Sql.Args → Call
  | .none => { schema := name.schema, name := name.last, labels := [], star := false }
  | .query _ => { schema := name.schema, name := name.last, labels := [none], star := false }
  | .list _ args _ =>
    { schema := name.schema
      name := name.last
      labels := (args.filter fun a => !isStar a).map argLabel
      star := args.any isStar }

mutual

def expr (sites : Sites) (e : Sql.Expr) : Lower Expr := do
  match ← parameter? sites e with
  | some param => pure param
  | none =>
    match e with
    | .ident id => pure (.column [id.name])
    | .compound ids => pure (.column (ids.map Sql.Ident.name))
    | .value v => pure (.literal (literal v))
    | .nested inner => expr sites inner
    | .binary left op _ right _ => return .binary (← expr sites left) op (← expr sites right)
    | .unary op inner => return .unary op (← expr sites inner)
    | .cast _ inner type => return .cast (← expr sites inner) type.type
    | .call name args _ _ _ => return .call (callHead name args) (← callArgs sites args)
    | .between inner negated low high =>
      return .between (← expr sites inner) negated (← expr sites low) (← expr sites high)
    | .inList inner items negated =>
      return .inList (← expr sites inner) (← exprs sites items) negated
    | .inQuery inner q negated =>
      return .inQuery (← expr sites inner) (← query sites q) negated
    | .exist q negated => return .exist (← query sites q) negated
    | .subquery q => return .subquery (← query sites q)
    | .choose operand branches otherwise =>
      let operand ← expr? sites operand
      let conditions ← conditions sites branches
      let results ← results sites branches
      let otherwise ← expr? sites otherwise
      pure (.choose operand conditions results otherwise)
    | .isNull inner negated => return .isNull (← expr sites inner) negated
    | .array _ items => return .array (← exprs sites items)
    | .other kind pieces =>
      if kind = "Trim" then return .other kind (← paramsFromLast sites pieces)
      else return .other kind (← paramsFromFirst sites pieces)

def exprs (sites : Sites) : List Sql.Expr → Lower (List Expr)
  | [] => pure []
  | e :: es => return (← expr sites e) :: (← exprs sites es)

def expr? (sites : Sites) : Option Sql.Expr → Lower (Option Expr)
  | some e => return some (← expr sites e)
  | none => pure none

def conditions (sites : Sites) : List Sql.Branch → Lower (List Expr)
  | [] => pure []
  | ⟨condition, _⟩ :: bs => return (← expr sites condition) :: (← conditions sites bs)

def results (sites : Sites) : List Sql.Branch → Lower (List Expr)
  | [] => pure []
  | ⟨_, result⟩ :: bs => return (← expr sites result) :: (← results sites bs)

def callArgs (sites : Sites) : Sql.Args → Lower (List Expr)
  | .none => pure []
  | .query q => return [.subquery (← query sites q)]
  | .list _ args _ => argList sites args

def argList (sites : Sites) : List Sql.Arg → Lower (List Expr)
  | [] => pure []
  | .positional v :: as => return (← argValue sites v) ++ (← argList sites as)
  | .named _ _ v :: as => return (← argValue sites v) ++ (← argList sites as)

def argValue (sites : Sites) : Sql.ArgValue → Lower (List Expr)
  | .expr e => return [← expr sites e]
  | .star _ => pure []

def params (sites : Sites) (e : Sql.Expr) : Lower (List Expr) := do
  let here ← parameter? sites e
  let below ← match e with
    | .ident _ => pure []
    | .compound _ => pure []
    | .value _ => pure []
    | .nested inner => params sites inner
    | .binary left _ _ right _ => pure ((← params sites left) ++ (← params sites right))
    | .unary _ inner => params sites inner
    | .cast _ inner _ => params sites inner
    | .call _ args group tail _ =>
      let args ← argsParams sites args
      let tail ← paramsFromFirst sites tail
      let group ← paramsFromFirst sites group
      pure (args ++ tail ++ group)
    | .between inner _ low high =>
      pure ((← params sites inner) ++ (← params sites low) ++ (← params sites high))
    | .inList inner items _ => pure ((← params sites inner) ++ (← listParams sites items))
    | .inQuery inner q _ => pure ((← params sites inner) ++ [.subquery (← query sites q)])
    | .exist q _ => pure ([.subquery (← query sites q)])
    | .subquery q => pure ([.subquery (← query sites q)])
    | .choose operand branches otherwise =>
      let operand ← params? sites operand
      let conditions ← conditionParams sites branches
      let results ← resultParams sites branches
      let otherwise ← params? sites otherwise
      pure (operand ++ conditions ++ results ++ otherwise)
    | .isNull inner _ => params sites inner
    | .array _ items => listParams sites items
    | .other kind pieces =>
      if kind = "Trim" then paramsFromLast sites pieces else paramsFromFirst sites pieces
  pure (here.toList ++ below)

def listParams (sites : Sites) : List Sql.Expr → Lower (List Expr)
  | [] => pure []
  | e :: es => return (← params sites e) ++ (← listParams sites es)

def params? (sites : Sites) : Option Sql.Expr → Lower (List Expr)
  | some e => params sites e
  | none => pure []

def conditionParams (sites : Sites) : List Sql.Branch → Lower (List Expr)
  | [] => pure []
  | ⟨condition, _⟩ :: bs => return (← params sites condition) ++ (← conditionParams sites bs)

def resultParams (sites : Sites) : List Sql.Branch → Lower (List Expr)
  | [] => pure []
  | ⟨_, result⟩ :: bs => return (← params sites result) ++ (← resultParams sites bs)

def argsParams (sites : Sites) : Sql.Args → Lower (List Expr)
  | .none => pure []
  | .query q => return [.subquery (← query sites q)]
  | .list _ args clauses => return (← argListParams sites args) ++ (← paramsFromFirst sites clauses)

def argListParams (sites : Sites) : List Sql.Arg → Lower (List Expr)
  | [] => pure []
  | .positional v :: as => return (← valueParams sites v) ++ (← argListParams sites as)
  | .named name _ v :: as =>
    return (← params sites name) ++ (← valueParams sites v) ++ (← argListParams sites as)

def valueParams (sites : Sites) : Sql.ArgValue → Lower (List Expr)
  | .expr e => params sites e
  | .star _ => pure []

def pieceParams (sites : Sites) : Sql.Piece → Lower (List Expr)
  | .text _ => pure []
  | .expr e => params sites e
  | .query q => return [.subquery (← query sites q)]

def paramsFromFirst (sites : Sites) : List Sql.Piece → Lower (List Expr)
  | [] => pure []
  | p :: ps => return (← pieceParams sites p) ++ (← paramsFromFirst sites ps)

def paramsFromLast (sites : Sites) : List Sql.Piece → Lower (List Expr)
  | [] => pure []
  | p :: ps => return (← paramsFromLast sites ps) ++ (← pieceParams sites p)

def query (sites : Sites) : Sql.Query → Lower Query
  | ⟨_, ctes, b, orderBy, limit, offset, _, _⟩ => do
    let ctes ← cteList sites ctes
    let body ← body sites b
    let orderBy ← orderList sites orderBy
    let limit ← expr? sites limit
    let offset ← expr? sites offset
    pure { ctes, body, orderBy, limit, offset }

def orderList (sites : Sites) : List Sql.OrderItem → Lower (List Expr)
  | [] => pure []
  | ⟨e, _⟩ :: os => return (← expr sites e) :: (← orderList sites os)

def cteList (sites : Sites) : List Sql.Cte → Lower (List Cte)
  | [] => pure []
  | ⟨label, _, q, _⟩ :: cs => do
    let q ← query sites q
    let rest ← cteList sites cs
    pure ({ name := label.name.name, columns := label.columns.map columnName, query := q } :: rest)

def body (sites : Sites) : Sql.Body → Lower Body
  | .select s => return .select (← select sites s)
  | .query q => return .query (← query sites q)
  | .setOp op _ left right => return .setOp op (← body sites left) (← body sites right)
  | .values _ rows => return .values (← rowList sites rows)
  | .unsupported kind _ => throw (.unsupported (kind ++ " query body"))

def rowList (sites : Sites) : List (List Sql.Expr) → Lower (List (List Expr))
  | [] => pure []
  | r :: rs => return (← exprs sites r) :: (← rowList sites rs)

def select (sites : Sites) : Sql.Select → Lower Select
  | ⟨distinct, _, items, _, tables, _, selection, _, groupBy, _, having, _⟩ => do
    let targets ← targetList sites items
    let sources ← tablesList sites tables
    let groupBy ← exprs sites groupBy
    let selection ← expr? sites selection
    let having ← expr? sites having
    pure { distinct, targets, sources, selection, groupBy, having }

def targetList (sites : Sites) : List Sql.SelectItem → Lower (List Target)
  | [] => pure []
  | i :: is => return (← target sites i) :: (← targetList sites is)

def target (sites : Sites) : Sql.SelectItem → Lower Target
  | .expr e =>
    match embedded? e with
    | some qualifier => return { value := ← embed qualifier, name := none }
    | none => return { value := ← expr sites e, name := none }
  | .aliased e name => return { value := ← expr sites e, name := some name.name }
  | .star qualifier => return { value := ← star qualifier.names, name := none }

def tablesList (sites : Sites) : List Sql.Tables → Lower (List FromItem)
  | [] => pure []
  | t :: ts => return (← tables sites t) :: (← tablesList sites ts)

def tables (sites : Sites) : Sql.Tables → Lower FromItem
  | ⟨first, joins⟩ => do joined sites joins (← factor sites first)

def joined (sites : Sites) : List Sql.Join → FromItem → Lower FromItem
  | [], left => pure left
  | ⟨_, kind, f, condition, _⟩ :: js, left => do
    let right ← factor sites f
    let condition ← expr? sites condition
    joined sites js (.join kind left right condition)

def factor (sites : Sites) : Sql.Factor → Lower FromItem
  | .table name _ as _ =>
    return .range { relation := ← tableName name, label := label (as.map Sql.Label.name) }
  | .derived _ q as => return .subquery (← query sites q) (label (as.map Sql.Label.name))
  | .nested t _ => tables sites t
  | .other kind _ => pure (.other kind)

end

def targetTable (sites : Sites) (t : Sql.Tables) : Lower RangeVar := do
  match ← tables sites t with
  | .range r => pure r
  | item => throw (.unsupported (item.kind ++ " as target relation"))

def assignment (sites : Sites) (a : Sql.Assignment) : Lower Assignment := do
  match a.target with
  | .column name => return { column := name.last, value := ← expr sites a.value }
  | .columns _ => throw (.unsupported "multi-column assignment")

def onConflict (sites : Sites) : Sql.OnConflict → Lower (List Assignment × Option Expr)
  | .update _ assignments selection =>
    return (← assignments.mapM (assignment sites), ← expr? sites selection)
  | _ => pure ([], none)

def insert (sites : Sites) (i : Sql.Insert) : Lower Insert := do
  let source ← i.source.mapM (query sites)
  let (onConflict, conflictSelection) ← onConflict sites i.onConflict
  let relation ← tableName i.table
  let returning ← targetList sites i.returning
  pure
    { relation := { relation, label := label i.label }
      columns := i.columns.map Sql.Ident.name
      source, onConflict, conflictSelection, returning }

def update (sites : Sites) (u : Sql.Update) : Lower Update := do
  let relation ← targetTable sites u.table
  let assignments ← u.assignments.mapM (assignment sites)
  let sources ← tablesList sites u.sources.toList
  let selection ← expr? sites u.selection
  let returning ← targetList sites u.returning
  pure { relation, assignments, sources, selection, returning }

def delete (sites : Sites) (d : Sql.Delete) : Lower Delete := do
  match d.tables with
  | [] => throw (.syntaxError .deleteWithoutTable)
  | t :: _ =>
    let sources ← tablesList sites d.sources
    let relation ← targetTable sites t
    let selection ← expr? sites d.selection
    let returning ← targetList sites d.returning
    pure { relation, sources, selection, returning }

def statement (sites : Sites) : Sql.Statement → Lower Statement
  | .query q => return .select (← query sites q)
  | .insert i => return .insert (← insert sites i)
  | .update u => return .update (← update sites u)
  | .delete d => return .delete (← delete sites d)
  | .truncate names =>
    return .truncate (← names.mapM fun n => return { relation := ← tableName n, label := none })
  | .define d => return .define (← d.mapM fun n => tableName n)
  | .noOp kind => pure (.noOp kind)
  | .other kind => pure (.other kind)

end Lower

def Statement.read (text : Text) (sites : Sites) : Except Error Statement := do
  match Lexer.lex text with
  | none => throw (.syntaxError .malformed)
  | some ls =>
    match Sql.Statement.parse? (Sites.significant ls) with
    | none => throw (.syntaxError .malformed)
    | some s => (Lower.statement sites s).run' sites.stars

structure SourceStatement where
  chunk : Chunk
  statement : Statement

namespace SourceStatement

def ofChunk (chunk : Chunk) : Except Error SourceStatement :=
  return { chunk, statement := ← Statement.read chunk.text chunk.sites }

end SourceStatement

namespace Script

def parse (t : Text) : Except Error (List SourceStatement) := do
  (← split t).mapM SourceStatement.ofChunk

def single (t : Text) : Except Error Chunk := do
  match ← split t with
  | [chunk] => pure chunk
  | chunks => throw (.syntaxError (.statementCount chunks.length))

def parseOne (t : Text) : Except Error SourceStatement := do
  SourceStatement.ofChunk (← single t)

end Script

end TypedSql
