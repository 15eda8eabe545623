import TypedSql.Token
import TypedSql.Text.Numeric
import TypedSql.Text.Position

/-!
# Reading tokens

`step` reads one token: given the first character and the text after it, it answers the token and
how many characters of that text belong to it. Tokens are read with the line and the column at which
they start, and the lexemes are cut out of the text at these positions. A text with an unfinished
string, quoted name or comment has no lexemes at all.
-/

namespace TypedSql.Lexer

def isWordStart (c : Char) : Bool :=
  Text.isAlphabetic c || c == '_'

def isWordPart (c : Char) : Bool :=
  Text.isAlphabetic c || c.isDigit || c == '$' || c == '_'

def isHexDigit (c : Char) : Bool :=
  c.isDigit || ('a' ≤ c && c ≤ 'f') || ('A' ≤ c && c ≤ 'F')

def isOctalDigit (c : Char) : Bool :=
  '0' ≤ c && c ≤ '7'

def hexValue (c : Char) : Nat :=
  if c.isDigit then c.toNat - 48
  else if 'a' ≤ c then c.toNat - 87
  else c.toNat - 55

def ofDigits (base : Nat) (digits : Text) : Nat :=
  digits.foldl (fun n c => n * base + hexValue c) 0

def charOfNat? (n : Nat) : Option Char :=
  if n.isValidChar then some (Char.ofNat n) else none

def quotedBody (q : Char) : Text → Option (Text × Nat)
  | [] => none
  | c :: t =>
    if c = q then
      match t with
      | d :: t' =>
        if d = q then (quotedBody q t').map fun (v, n) => (q :: v, n + 2) else some ([], 1)
      | [] => some ([], 1)
    else (quotedBody q t).map fun (v, n) => (c :: v, n + 1)

def simpleEscape (c : Char) : Char :=
  match c with
  | '0' => '\x00'
  | 'a' => '\x07'
  | 'b' => '\x08'
  | 'f' => '\x0c'
  | 'n' => '\n'
  | 'r' => '\r'
  | 't' => '\t'
  | 'Z' => '\x1a'
  | c => c

def backslashBody : Text → Option (Text × Nat)
  | [] => none
  | '\'' :: '\'' :: t => (backslashBody t).map fun (v, n) => ('\'' :: v, n + 2)
  | '\'' :: _ => some ([], 1)
  | '\\' :: c :: t => (backslashBody t).map fun (v, n) => (simpleEscape c :: v, n + 2)
  | '\\' :: [] => none
  | c :: t => (backslashBody t).map fun (v, n) => (c :: v, n + 1)

def unicodeEscape (count : Nat) (t : Text) : Option (Char × Nat) :=
  let digits := t.take count
  if digits.length < count then none
  else
    let significant :=
      match digits with
      | '+' :: ds => ds
      | ds => ds
    if significant.isEmpty || !significant.all isHexDigit then none
    else (charOfNat? (ofDigits 16 significant)).map (·, count)

/-- A byte given by its digits. It counts modulo 256 and must be ASCII. -/
def byteEscape (base : Nat) (digits : Text) : Option Char :=
  let n := ofDigits base digits % 256
  if n ≤ 127 then some (Char.ofNat n) else none

def escape : Text → Option (Char × Nat)
  | [] => none
  | c :: t =>
    match c with
    | 'b' => some ('\x08', 1)
    | 'f' => some ('\x0c', 1)
    | 'n' => some ('\n', 1)
    | 'r' => some ('\r', 1)
    | 't' => some ('\t', 1)
    | 'u' => (unicodeEscape 4 t).map fun (d, n) => (d, n + 1)
    | 'U' => (unicodeEscape 8 t).map fun (d, n) => (d, n + 1)
    | 'x' =>
      let digits := (t.take 2).takeWhile isHexDigit
      if digits.isEmpty then some ('x', 1)
      else (byteEscape 16 digits).map (·, digits.length + 1)
    | c =>
      if isOctalDigit c then
        let digits := c :: (t.take 2).takeWhile isOctalDigit
        (byteEscape 8 digits).map (·, digits.length)
      else some (c, 1)

def escapedBody : Nat → Text → Option (Text × Nat)
  | 0, _ => none
  | _ + 1, [] => none
  | fuel + 1, c :: t =>
    match c, t with
    | '\'', '\'' :: t' => (escapedBody fuel t').map fun (v, n) => ('\'' :: v, n + 2)
    | '\'', _ => some ([], 1)
    | '\\', _ =>
      match escape t with
      | none => none
      | some (d, k) =>
        if d = '\x00' then none
        else (escapedBody fuel (t.drop k)).map fun (v, n) => (d :: v, n + k + 1)
    | c, _ => (escapedBody fuel t).map fun (v, n) => (c :: v, n + 1)

def codePoint (count : Nat) (t : Text) : Option Char :=
  let digits := t.take count
  if digits.length < count || !digits.all isHexDigit then none else charOfNat? (ofDigits 16 digits)

def unicodeBody : Nat → Text → Option (Text × Nat)
  | 0, _ => none
  | _ + 1, [] => none
  | fuel + 1, c :: t =>
    match c, t with
    | '\'', '\'' :: t' => (unicodeBody fuel t').map fun (v, n) => ('\'' :: v, n + 2)
    | '\'', _ => some ([], 1)
    | '\\', '\\' :: t' => (unicodeBody fuel t').map fun (v, n) => ('\\' :: v, n + 2)
    | '\\', '+' :: t' =>
      match codePoint 6 t' with
      | none => none
      | some d => (unicodeBody fuel (t'.drop 6)).map fun (v, n) => (d :: v, n + 8)
    | '\\', _ =>
      match codePoint 4 t with
      | none => none
      | some d => (unicodeBody fuel (t.drop 4)).map fun (v, n) => (d :: v, n + 5)
    | c, _ => (unicodeBody fuel t).map fun (v, n) => (c :: v, n + 1)

def dollarBody (dollar : Bool) : Text → Option (Text × Nat)
  | [] => none
  | c :: t =>
    if dollar then
      if c = '$' then some ([], 1)
      else (dollarBody false t).map fun (v, n) => ('$' :: c :: v, n + 1)
    else if c = '$' then (dollarBody true t).map fun (v, n) => (v, n + 1)
    else (dollarBody false t).map fun (v, n) => (c :: v, n + 1)

/-- How far `t` begins with `tag` and a dollar sign: the number of characters of `t` that were
compared, and whether they were all as expected. Running out of text is no answer. -/
def closingTag : Text → Text → Option (Nat × Bool)
  | [], t =>
    match t with
    | '$' :: _ => some (1, true)
    | _ => some (0, false)
  | _ :: _, [] => none
  | c :: tag, d :: t =>
    if d = c then (closingTag tag t).map fun (n, b) => (n + 1, b) else some (1, false)

/-- The text up to the closing tag of a dollar-quoted string. After a dollar sign that begins no
closing tag, reading goes on behind the characters that were compared. -/
def taggedBody (tag : Text) : Nat → Text → Option (Text × Nat)
  | 0, _ => none
  | _ + 1, [] => none
  | fuel + 1, c :: t =>
    if c = '$' then
      match closingTag tag t with
      | none => none
      | some (k, true) => some ([], k + 1)
      | some (k, false) =>
        (taggedBody tag fuel (t.drop k)).map fun (v, n) => ('$' :: t.take k ++ v, n + k + 1)
    else (taggedBody tag fuel t).map fun (v, n) => (c :: v, n + 1)

def blockComment (depth : Nat) (last : Char) : Text → Option (Text × Nat)
  | [] => none
  | c :: t =>
    if last = '/' && c = '*' then
      (blockComment (depth + 1) c t).map fun (v, n) => (c :: v, n + 1)
    else if last = '*' && c = '/' then
      if depth ≤ 1 then some ([], 1)
      else (blockComment (depth - 1) c t).map fun (v, n) => (c :: v, n + 1)
    else (blockComment depth c t).map fun (v, n) => (c :: v, n + 1)

def lineComment : Text → Text
  | [] => []
  | c :: t => if c = '\n' then [c] else c :: lineComment t

def exponent : Text → Text
  | e :: t =>
    if e = 'e' || e = 'E' then
      match t with
      | s :: t' =>
        if s = '+' || s = '-' then
          let ds := t'.takeWhile Char.isDigit
          if ds.isEmpty then [] else e :: s :: ds
        else
          let ds := t.takeWhile Char.isDigit
          if ds.isEmpty then [] else e :: ds
      | [] => []
    else []
  | [] => []

def number (c : Char) (t : Text) : Token × Nat :=
  let whole := (c :: t).takeWhile Char.isDigit
  let rest := (c :: t).drop whole.length
  match whole, rest with
  | ['0'], 'x' :: rest' =>
    let digits := rest'.takeWhile isHexDigit
    (.string .hex digits, digits.length + 1)
  | _, _ =>
    let point := if rest.head? = some '.' then ['.'] else []
    let fraction := (rest.drop point.length).takeWhile Char.isDigit
    let digits := whole ++ point ++ fraction
    if digits = ['.'] then (.symbol ".", 0)
    else
      let exp := exponent ((c :: t).drop digits.length)
      let digits := digits ++ exp
      let long := ((c :: t).drop digits.length).head? = some 'L'
      (.number digits long, digits.length - 1 + if long then 1 else 0)

def word (c : Char) (t : Text) : Token × Nat :=
  let part := t.takeWhile isWordPart
  (.word (.bare (c :: part)), part.length)

def wordOrString (c : Char) (t : Text) : Option (Token × Nat) :=
  match c, t with
  | 'b', '\'' :: t' | 'B', '\'' :: t' =>
    (quotedBody '\'' t').map fun (v, n) => (.string .bits v, n + 1)
  | 'b', '"' :: t' | 'B', '"' :: t' =>
    (quotedBody '"' t').map fun (v, n) => (.string .bitsQuoted v, n + 1)
  | 'n', '\'' :: t' | 'N', '\'' :: t' =>
    (backslashBody t').map fun (v, n) => (.string .national v, n + 1)
  | 'e', '\'' :: t' | 'E', '\'' :: t' =>
    (escapedBody (t'.length + 1) t').map fun (v, n) => (.string .escaped v, n + 1)
  | 'u', '&' :: '\'' :: t' | 'U', '&' :: '\'' :: t' =>
    (unicodeBody (t'.length + 1) t').map fun (v, n) => (.string .unicode v, n + 2)
  | 'x', '\'' :: t' | 'X', '\'' :: t' =>
    (backslashBody t').map fun (v, n) => (.string .hex v, n + 1)
  | c, t => some (word c t)

def dollar (t : Text) : Option (Token × Nat) :=
  match t with
  | '$' :: t' => (dollarBody false t').map fun (v, n) => (.string (.dollar []) v, n + 1)
  | t =>
    let tag := t.takeWhile fun c => Text.isAlphanumeric c || c == '_'
    match t.drop tag.length with
    | '$' :: t' =>
      (taggedBody tag (t'.length + 1) t').map fun (v, n) =>
        (.string (.dollar tag) v, n + tag.length + 1)
    | _ => some (.placeholder ('$' :: tag), tag.length)

/-- Operators of more than one character, and those that take further operator characters to
themselves. A longer operator stands before the ones it begins with. -/
def operators : List (Text × Bool) :=
  [(['-', '>', '>'], true), (['-', '>'], true), (['-'], true), (['%'], true),
  (['|', '|', '/'], true), (['|', '|'], true), (['|', '/'], true), (['|'], true),
  (['=', '>'], false), (['=', '='], false),
  (['!', '~', '~', '*'], false), (['!', '~', '~'], false), (['!', '~', '*'], false),
  (['!', '~'], false), (['!', '='], false), (['!', '!'], false),
  (['<', '=', '>'], true), (['<', '='], true), (['<', '>'], true), (['<', '<'], true),
  (['<', '@'], true), (['<'], true),
  (['>', '='], true), (['>', '>'], true), (['>'], true),
  ([':', ':'], false), ([':', '='], false),
  (['&', '&'], true), (['&'], true), (['^', '@'], false),
  (['~', '~', '*'], true), (['~', '~'], true), (['~', '*'], true), (['~'], true),
  (['#', '>', '>'], true), (['#', '>'], true), (['#', '-'], true), (['#'], true),
  (['@', '>'], false), (['@', '?'], false), (['@', '@'], false)]

def isOperatorPart (c : Char) : Bool :=
  ['+', '-', '*', '/', '<', '>', '=', '~', '!', '@', '#', '%', '^', '&', '|', '\x60', '?'].contains c

def operator (c : Char) (t : Text) : Token × Nat :=
  match operators.find? fun (op, _) => op.isPrefixOf (c :: t) with
  | some (op, glues) =>
    let more := if glues then ((c :: t).drop op.length).takeWhile isOperatorPart else []
    (.symbol (op ++ more).toString, (op ++ more).length - 1)
  | none => (.symbol (String.ofList [c]), 0)

/-- The question mark operators. The bare one takes the character after it along. -/
def questionMark (t : Text) : Token × Nat :=
  match t with
  | '|' :: _ => (.symbol "?|", 1)
  | '&' :: _ => (.symbol "?&", 1)
  | _ :: _ => (.symbol "?", 1)
  | [] => (.symbol "?", 0)

def step (c : Char) (t : Text) : Option (Token × Nat) :=
  if c = ' ' || c = '\t' || c = '\n' then some (.blank, 0)
  else if c = '\r' then some (.blank, if t.head? = some '\n' then 1 else 0)
  else if isWordStart c then wordOrString c t
  else if c = '\'' then (quotedBody c t).map fun (v, n) => (.string .plain v, n)
  else if c = '"' then (quotedBody c t).map fun (v, n) => (.word (.ofQuoted v), n)
  else if c.isDigit || c = '.' then some (number c t)
  else if c = '-' && t.head? = some '-' then
    let text := lineComment (t.drop 1)
    some (.comment text, text.length + 1)
  else if c = '/' && t.head? = some '*' then
    (blockComment 1 ' ' (t.drop 1)).map fun (v, n) => (.comment v.dropLast, n + 1)
  else if c = '$' then dollar t
  else if c = '?' then some (questionMark t)
  else if Text.isBlank c then some (.blank, 0)
  else some (operator c t)

structure Located where
  token : Token
  start : Text.Position
  deriving Repr, DecidableEq

def tokensFrom : Nat → Text.Position → Text → Option (List Located)
  | _, _, [] => some []
  | 0, _, _ :: _ => none
  | fuel + 1, p, c :: t =>
    match step c t with
    | none => none
    | some (token, n) =>
      match tokensFrom fuel (p.advance (c :: t.take n)) (t.drop n) with
      | none => none
      | some ls => some ({ token, start := p } :: ls)

structure Extent where
  token : Token
  start : Nat
  stop : Nat
  deriving Repr, DecidableEq

def extend (stop : Nat) : List (Token × Nat) → List Extent
  | [] => []
  | (token, start) :: rest =>
    { token, start, stop := (rest.head?.map Prod.snd).getD stop } :: extend stop rest

def extents (t : Text) (ls : List Located) : List Extent :=
  let index := Text.LineIndex.ofText t
  extend t.bytes (ls.map fun l => (l.token, index.offset l.start))

def Extent.lexeme (t : Text) (e : Extent) : Lexeme :=
  { token := e.token, text := (t.slice? e.start e.stop).getD [] }

def lex (t : Text) : Option (List Lexeme) :=
  (tokensFrom t.length .start t).map fun ls => (extents t ls).map (Extent.lexeme t)

end TypedSql.Lexer
