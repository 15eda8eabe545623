import TypedSql.Text.Case

/-!
# Tokens

The tokens of a statement. A lexeme is a token with the text it was read from, so the texts of the
lexemes of a statement, one after the other, are the statement itself.
-/

namespace TypedSql

inductive StringForm where
  | plain
  | national
  | hex
  | bits
  | bitsQuoted
  | escaped
  | unicode
  | dollar (tag : Text)
  deriving Repr, DecidableEq

structure Word where
  text : Text
  quoted : Bool
  keyword : String
  deriving Repr, DecidableEq

namespace Word

def bare (text : Text) : Word :=
  { text, quoted := false, keyword := text.upper.toString }

def ofQuoted (text : Text) : Word :=
  { text, quoted := true, keyword := "" }

def name (w : Word) : String :=
  if w.quoted then w.text.toString else w.text.lower.toString

def render (w : Word) : String :=
  if w.quoted then "\"" ++ w.text.toString ++ "\"" else w.text.toString

end Word

inductive Token where
  | word (w : Word)
  | number (digits : Text) (long : Bool)
  | string (form : StringForm) (value : Text)
  | placeholder (text : Text)
  | symbol (text : String)
  | blank
  | comment (text : Text)
  deriving Repr, DecidableEq

namespace Token

def isTrivia : Token → Bool
  | .blank | .comment _ => true
  | _ => false

def isSemicolon : Token → Bool
  | .symbol s => s == ";"
  | _ => false

def isWord : Token → Bool
  | .word _ => true
  | _ => false

def isKeyword (keyword : String) : Token → Bool
  | .word w => w.keyword == keyword
  | _ => false

def isSymbol (text : String) : Token → Bool
  | .symbol s => s == text
  | _ => false

/-- A token as it is shown by itself. Quotes in it are not doubled, and an operator with two spellings
is shown in the first. -/
def render : Token → String
  | .word w => w.render
  | .number digits long => digits.toString ++ if long then "L" else ""
  | .string form t =>
    match form with
    | .plain => "'" ++ t.toString ++ "'"
    | .national => "N'" ++ t.toString ++ "'"
    | .hex => "X'" ++ t.toString ++ "'"
    | .bits => "B'" ++ t.toString ++ "'"
    | .bitsQuoted => "B\"" ++ t.toString ++ "\""
    | .escaped => "E'" ++ t.toString ++ "'"
    | .unicode => "U&'" ++ t.toString ++ "'"
    | .dollar tag => "$" ++ tag.toString ++ "$" ++ t.toString ++ "$" ++ tag.toString ++ "$"
  | .placeholder t => t.toString
  | .symbol s => if s = "!=" then "<>" else s
  | .blank => " "
  | .comment t => t.toString

end Token

structure Lexeme where
  token : Token
  text : Text
  deriving Repr, DecidableEq

namespace Lexeme

def isTrivia (l : Lexeme) : Bool :=
  l.token.isTrivia

def comment? (l : Lexeme) : Option Text :=
  match l.token with
  | .comment t => some t
  | _ => none

def cover (ls : List Lexeme) : Text :=
  ls.flatMap Lexeme.text

end Lexeme

end TypedSql
