import TypedSql.Sql.Keyword
import TypedSql.Sql.Render

/-!
# Reading tokens

A parser takes tokens from the front of a list. It fails where the tokens do not fit, and where things
are nested too deeply; only the first kind of mismatch lets another reading be tried. Loops stop at the
latest when the tokens that were there at their start are used up.
-/

namespace TypedSql.Sql

inductive Failure where
  | mismatch
  | tooDeep
  deriving Repr, DecidableEq

abbrev Parser := StateT (List Token) (Except Failure)

namespace Parser

def mismatch {α : Type} : Parser α :=
  throw .mismatch

def attempt {α : Type} (p : Parser α) : Parser (Option α) := fun tokens =>
  match p tokens with
  | .ok (a, rest) => .ok (some a, rest)
  | .error .mismatch => .ok (none, tokens)
  | .error .tooDeep => .error .tooDeep

def outcome {α : Type} (p : Parser α) : Parser (Except Failure α) := fun tokens =>
  match p tokens with
  | .ok (a, rest) => .ok (.ok a, rest)
  | .error failure => .ok (.error failure, tokens)

def peek : Parser (Option Token) := fun tokens =>
  .ok (tokens.head?, tokens)

def next : Parser Token := fun tokens =>
  match tokens with
  | t :: rest => .ok (t, rest)
  | [] => .error .mismatch

def taken (p : Token → Bool) : Parser Bool := fun tokens =>
  match tokens with
  | t :: rest => if p t then .ok (true, rest) else .ok (false, tokens)
  | [] => .ok (false, [])

def require (b : Bool) : Parser Unit :=
  if b then pure () else mismatch

def symbol? (s : String) : Parser Bool :=
  taken (Token.isSymbol s)

def symbol (s : String) : Parser Unit := do
  require (← symbol? s)

def keyword? (k : String) : Parser Bool :=
  taken (Token.isKeyword k)

def keyword (k : String) : Parser Unit := do
  require (← keyword? k)

def keywords (ks : List String) : Parser Unit :=
  ks.forM keyword

def keywords? (ks : List String) : Parser Bool :=
  return (← attempt (keywords ks)).isSome

def oneOf? (ks : List String) : Parser (Option String) := fun tokens =>
  match tokens with
  | .word w :: rest =>
    if ks.contains w.keyword then .ok (some w.keyword, rest) else .ok (none, tokens)
  | _ => .ok (none, tokens)

def oneOf (ks : List String) : Parser String := do
  match ← oneOf? ks with
  | some k => pure k
  | none => mismatch

def nextIsSymbol (s : String) : Parser Bool := do
  match ← peek with
  | some t => pure (t.isSymbol s)
  | none => pure false

def nextIsKeyword (k : String) : Parser Bool := do
  match ← peek with
  | some t => pure (t.isKeyword k)
  | none => pure false

def nextAre (ks : List String) : Parser Bool := do
  let tokens ← get
  let found ← keywords? ks
  set tokens
  pure found

def when? {α : Type} (b : Bool) (p : Parser α) : Parser (Option α) :=
  if b then some <$> p else pure none

def after? {α : Type} (k : String) (p : Parser α) : Parser (Option α) := do
  when? (← keyword? k) p

def manyFrom {α : Type} (p : Parser (Option α)) : Nat → Parser (List α)
  | 0 => pure []
  | fuel + 1 => do
    match ← p with
    | some a => return a :: (← manyFrom p fuel)
    | none => pure []

def many {α : Type} (p : Parser (Option α)) : Parser (List α) := do
  manyFrom p ((← get).length + 1)

def extendFrom {α : Type} (step : α → Parser (Option α)) : Nat → α → Parser α
  | 0, a => pure a
  | fuel + 1, a => do
    match ← step a with
    | some b => extendFrom step fuel b
    | none => pure a

def extend {α : Type} (step : α → Parser (Option α)) (a : α) : Parser α := do
  extendFrom step ((← get).length + 1) a

def commaList {α : Type} (p : Parser α) : Parser (List α) := do
  let a ← p
  let more ← many do when? (← symbol? ",") p
  pure (a :: more)

def commaList0 {α : Type} (p : Parser α) (close : String) : Parser (List α) := do
  if ← nextIsSymbol close then pure [] else commaList p

def parens {α : Type} (p : Parser α) : Parser α := do
  symbol "("
  let a ← p
  symbol ")"
  pure a

def parens? {α : Type} (p : Parser α) : Parser (Option α) := do
  if ← nextIsSymbol "(" then some <$> parens p else pure none

def ident : Parser Ident := do
  match ← next with
  | .word w => pure (.ofWord w)
  | .string .plain t => pure { text := t, quote := some '\'' }
  | _ => mismatch

def objectName : Parser ObjectName := do
  let first ← ident
  let more ← many do when? (← symbol? ".") ident
  pure (first :: more)

/-- A dotted name whose mistakes are forgiven: what is no name is taken in its place. -/
def looseNameFrom : Nat → Parser Unit
  | 0 => pure ()
  | fuel + 1 => do
    match ← get with
    | .word _ :: .symbol "." :: rest => set rest *> looseNameFrom fuel
    | .string .plain _ :: .symbol "." :: rest => set rest *> looseNameFrom fuel
    | _ :: rest => set rest
    | [] => pure ()

def looseName : Parser Unit := do
  looseNameFrom ((← get).length + 1)

def literalString : Parser Text := do
  match ← next with
  | .word w => if w.quoted || !isKeyword w.keyword then pure w.text else mismatch
  | .string .plain t => pure t
  | .string .escaped t => pure t
  | .string .unicode t => pure t
  | _ => mismatch

def literalByte : Parser Text := do
  let t ← literalString
  require (t.bytes = 1)
  pure t

def plainString : Parser Text := do
  match ← next with
  | .string .plain t => pure t
  | _ => mismatch

def maxNatural : Nat := 0xFFFFFFFFFFFFFFFF

def natural : Parser Nat := do
  match ← next with
  | .number digits _ =>
    require (digits.all Char.isDigit)
    let n := digits.foldl (fun n c => n * 10 + (c.toNat - 48)) 0
    require (n ≤ maxNatural)
    pure n
  | _ => mismatch

def value : Parser Value := do
  match ← next with
  | .word w =>
    if w.quoted then pure (.word w.text)
    else if w.keyword = "TRUE" then pure (.boolean true)
    else if w.keyword = "FALSE" then pure (.boolean false)
    else if w.keyword = "NULL" then pure .null
    else mismatch
  | .number digits long => pure (.number digits long)
  | .string form t => pure (.string form t)
  | .placeholder t => pure (.placeholder t)
  | .symbol s =>
    if s = ":" || s = "@" then
      match ← next with
      | .word w => pure (.placeholder (s.toList ++ w.text))
      | .number digits false => pure (.placeholder (s.toList ++ digits))
      | _ => mismatch
    else mismatch
  | _ => mismatch

def numberValue : Parser Value := do
  match ← value with
  | .number digits long => pure (.number digits long)
  | .placeholder t => pure (.placeholder t)
  | _ => mismatch

def signedNumber : Parser String := do
  let sign ← do
    if ← symbol? "-" then pure "-"
    else if ← symbol? "+" then pure "+"
    else pure ""
  return sign ++ (← numberValue).render

def label? (reserved : List String) : Parser (Option Ident) := do
  if ← keyword? "AS" then some <$> ident
  else
    match ← peek with
    | some (.word w) => if reserved.contains w.keyword then pure none else some <$> ident
    | some (.string .plain _) => some <$> ident
    | _ => pure none

def reservedAfterExpr : List String :=
  ["WITH", "EXPLAIN", "ANALYZE", "SELECT", "WHERE", "GROUP", "SORT", "HAVING", "ORDER", "TOP",
  "LATERAL", "VIEW", "LIMIT", "OFFSET", "FETCH", "UNION", "EXCEPT", "INTERSECT", "CLUSTER",
  "DISTRIBUTE", "RETURNING", "FROM", "INTO", "END"]

def reservedAfterTable : List String :=
  ["WITH", "EXPLAIN", "ANALYZE", "SELECT", "WHERE", "GROUP", "SORT", "HAVING", "ORDER", "PIVOT",
  "UNPIVOT", "TOP", "LATERAL", "VIEW", "LIMIT", "OFFSET", "FETCH", "UNION", "EXCEPT", "INTERSECT",
  "ON", "JOIN", "INNER", "CROSS", "FULL", "LEFT", "RIGHT", "NATURAL", "USING", "CLUSTER",
  "DISTRIBUTE", "GLOBAL", "ANTI", "SEMI", "OUTER", "SET", "QUALIFY", "WINDOW", "END", "FOR",
  "PARTITION", "PREWHERE", "SETTINGS", "FORMAT", "START", "CONNECT", "MATCH_RECOGNIZE"]

def columns : Parser (List Ident) :=
  parens (commaList ident)

end Parser

end TypedSql.Sql
