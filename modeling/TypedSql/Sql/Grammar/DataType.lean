import TypedSql.Sql.Parser

/-!
# Types

Names of types. A type that the language knows is printed by its keywords, and its name is that
printed form without lengths and in lower case. Any other type is named by its last word.
-/

namespace TypedSql.Sql

def dropParens (depth : Nat) : Text → Text
  | [] => []
  | c :: t =>
    if c = '(' then dropParens (depth + 1) t
    else if c = ')' then dropParens (depth - 1) t
    else if depth = 0 then c :: dropParens depth t
    else dropParens depth t

namespace DataType

def nameOfText (text : String) : String :=
  Text.toString
    (Text.lower ([' '].intercalate (Text.words (dropParens 0 text.toList))))

def ofText (text : String) : DataType :=
  { text, type := .ofName (nameOfText text) }

def ofName (name : ObjectName) (modifiers : List String) : DataType :=
  { text := ObjectName.render name ++
      if modifiers.isEmpty then "" else "(" ++ ", ".intercalate modifiers ++ ")"
    type := { schema := name.schema, name := name.last }
    custom := true }

def array (d : DataType) (size : Option Nat) : DataType :=
  { text := d.text ++ "[" ++ (size.map toString).getD "" ++ "]", type := d.type.arrayOf }

def single : List (String × String) :=
  [("BOOLEAN", "BOOLEAN"), ("BOOL", "BOOL"), ("REAL", "REAL"), ("FLOAT4", "FLOAT4"),
  ("FLOAT8", "FLOAT8"), ("FLOAT32", "Float32"), ("FLOAT64", "Float64"), ("UUID", "UUID"),
  ("DATE", "DATE"), ("DATE32", "Date32"), ("JSON", "JSON"), ("JSONB", "JSONB"),
  ("REGCLASS", "REGCLASS"), ("TEXT", "TEXT"), ("TINYTEXT", "TINYTEXT"),
  ("MEDIUMTEXT", "MEDIUMTEXT"), ("LONGTEXT", "LONGTEXT"), ("BYTEA", "BYTEA"),
  ("TINYBLOB", "TINYBLOB"), ("MEDIUMBLOB", "MEDIUMBLOB"), ("LONGBLOB", "LONGBLOB"),
  ("INTERVAL", "INTERVAL"), ("TRIGGER", "TRIGGER"), ("INT16", "Int16"), ("INT32", "Int32"),
  ("INT64", "Int64"), ("INT128", "Int128"), ("INT256", "Int256"), ("UINT8", "UInt8"),
  ("UINT16", "UInt16"), ("UINT32", "UInt32"), ("UINT64", "UInt64"), ("UINT128", "UInt128"),
  ("UINT256", "UInt256")]

def integers : List String :=
  ["TINYINT", "INT2", "SMALLINT", "MEDIUMINT", "INT", "INT4", "INT8", "INTEGER", "BIGINT"]

def withLength : List String :=
  ["FLOAT", "CLOB", "BINARY", "VARBINARY", "BLOB", "BYTES", "DATETIME", "STRING"]

def withScale : List String :=
  ["NUMERIC", "DECIMAL", "DEC", "BIGNUMERIC", "BIGDECIMAL"]

end DataType

namespace Parser

def length? : Parser String := do
  match ← parens? natural with
  | some n => pure ("(" ++ toString n ++ ")")
  | none => pure ""

def charLength? : Parser String := do
  let inner ← parens? do
    if ← keyword? "MAX" then pure "MAX"
    else
      let n ← natural
      match ← oneOf? ["CHARACTERS", "OCTETS"] with
      | some unit => pure (toString n ++ " " ++ unit)
      | none => pure (toString n)
  match inner with
  | some text => pure ("(" ++ text ++ ")")
  | none => pure ""

def scale? : Parser String := do
  let inner ← parens? do
    let digits ← natural
    if ← symbol? "," then return toString digits ++ "," ++ toString (← natural)
    else pure (toString digits)
  match inner with
  | some text => pure ("(" ++ text ++ ")")
  | none => pure ""

def timeZone? : Parser String := do
  let length ← length?
  match ← oneOf? ["WITH", "WITHOUT"] with
  | some k => keywords ["TIME", "ZONE"] *> pure (length ++ " " ++ k ++ " TIME ZONE")
  | none => pure length

def characterType (k : String) : Parser String := do
  if ← keyword? "VARYING" then return k ++ " VARYING" ++ (← charLength?)
  else if ← keywords? ["LARGE", "OBJECT"] then return k ++ " LARGE OBJECT" ++ (← length?)
  else return k ++ (← charLength?)

def modifier : Parser (Option (List String)) := do
  match ← next with
  | .word w => pure (some [w.render])
  | .number digits _ => pure (some [digits.toString])
  | .string .plain t => pure (some [t.toString])
  | .symbol s => if s = "," then pure (some []) else if s = ")" then pure none else mismatch
  | _ => mismatch

def modifiers : Parser (List String) := do
  if ← symbol? "(" then return (← many modifier).flatten else pure []

def enumLabels : Parser String := do
  let labels ← parens (commaList do
    let name := quoted '\'' (← literalString)
    if ← symbol? "=" then return name ++ " = " ++ (← signedNumber) else pure name)
  pure ("(" ++ ", ".intercalate labels ++ ")")

def dateTime64 : Parser String := do
  let inner ← parens do
    let digits ← natural
    if ← symbol? "," then return toString digits ++ ", '" ++ (← literalString).toString ++ "'"
    else pure (toString digits)
  pure ("DateTime64(" ++ inner ++ ")")

/-- Any type without the brackets after it. A type between angle brackets may end in two of them,
of which the second is then left over. -/
def baseType (inner : Parser (DataType × Bool)) : Parser (DataType × Bool) := do
  let plain (text : String) : DataType × Bool := (.ofText text, false)
  match ← peek with
  | some (.word w) =>
    let k := w.keyword
    match DataType.single.lookup k with
    | some text => next *> pure (plain text)
    | none =>
      if DataType.integers.contains k then
        let _ ← next
        let length ← length?
        let unsigned ← keyword? "UNSIGNED"
        pure (plain (k ++ length ++ textIf unsigned " UNSIGNED"))
      else if DataType.withLength.contains k then next *> return plain (k ++ (← length?))
      else if DataType.withScale.contains k then next *> return plain (k ++ (← scale?))
      else if k = "DOUBLE" then
        let _ ← next
        pure (plain (if ← keyword? "PRECISION" then "DOUBLE PRECISION" else "DOUBLE"))
      else if k = "VARCHAR" || k = "NVARCHAR" then next *> return plain (k ++ (← charLength?))
      else if k = "CHARACTER" || k = "CHAR" then next *> return plain (← characterType k)
      else if k = "BIT" then
        let _ ← next
        let varying ← keyword? "VARYING"
        return plain ("BIT" ++ textIf varying " VARYING" ++ (← length?))
      else if k = "TIMESTAMP" || k = "TIME" then next *> return plain (k ++ (← timeZone?))
      else if k = "TIMESTAMPTZ" || k = "TIMETZ" then next *> return plain (k ++ (← length?))
      else if k = "ENUM" || k = "ENUM8" || k = "ENUM16" then
        next *> return plain (k ++ (← enumLabels))
      else if k = "SET" then
        let _ ← next
        let values ← parens (commaList plainString)
        pure (plain ("SET(" ++ ", ".intercalate (values.map (quoted '\'')) ++ ")"))
      else if k = "FIXEDSTRING" then
        let _ ← next
        let length ← parens natural
        pure (plain ("FixedString(" ++ toString length ++ ")"))
      else if k = "DATETIME64" then next *> return plain (← dateTime64)
      else if k = "ARRAY" then
        let _ ← next
        symbol "<"
        let (element, closed) ← inner
        let type : DataType := { text := "ARRAY<" ++ element.text ++ ">", type := element.type.arrayOf }
        if closed then pure (type, false)
        else if ← symbol? ">" then pure (type, false)
        else symbol ">>" *> pure (type, true)
      else
        let name ← objectName
        pure (.ofName name (← modifiers), false)
  | _ => mismatch

def typeFrom : Nat → Parser (DataType × Bool)
  | 0 => mismatch
  | fuel + 1 => do
    let (base, closed) ← baseType (typeFrom fuel)
    let type ← extend (fun (d : DataType) => do
      if ← symbol? "[" then
        let size ← attempt natural
        symbol "]"
        pure (some (d.array size))
      else pure none) base
    pure (type, closed)

def dataType : Parser DataType := do
  let (type, closed) ← typeFrom ((← get).length + 1)
  require !closed
  pure type

end Parser

end TypedSql.Sql
