import TypedSql.Error
import TypedSql.Site
import TypedSql.Token.Lexer

/-!
# Scripts

A script is a text of statements divided by semicolons. Each part with more than blanks and comments
in it is one chunk. The comments before a chunk belong to it, also those of earlier parts that hold
no statement.
-/

namespace TypedSql

structure Chunk where
  location : Nat
  line : Nat
  text : Text
  comments : List Text
  sites : Sites
  deriving Repr, DecidableEq

namespace Script

def parts : List Lexeme → List (List Lexeme)
  | [] => [[]]
  | l :: ls =>
    if l.token.isSemicolon then [l] :: parts ls
    else
      match parts ls with
      | [] => [[l]]
      | p :: ps => (l :: p) :: ps

def run (part : List Lexeme) : List Lexeme :=
  part.takeWhile fun l => !l.token.isSemicolon

def lead (part : List Lexeme) : List Lexeme :=
  (run part).takeWhile Lexeme.isTrivia

def body (part : List Lexeme) : List Lexeme :=
  (((run part).dropWhile Lexeme.isTrivia).reverse.dropWhile Lexeme.isTrivia).reverse

def comments (ls : List Lexeme) : List Text :=
  (ls.filterMap Lexeme.comment?).map Text.trim

def chunk (location line : Nat) (pending : List Text) (part : List Lexeme) : Chunk :=
  let before := Lexeme.cover (lead part)
  { location := location + before.bytes
    line := line + before.newlines
    text := Lexeme.cover (body part)
    comments := pending ++ comments (lead part)
    sites := Sites.scan (body part) }

/-- The chunks of a list of parts. `pending` holds the comments that no chunk has yet. -/
def chunks (location line : Nat) (pending : List Text) : List (List Lexeme) → List Chunk
  | [] => []
  | part :: rest =>
    let here := Lexeme.cover part
    let next := location + here.bytes
    let nextLine := line + here.newlines
    if (body part).isEmpty then chunks next nextLine (pending ++ comments (lead part)) rest
    else chunk location line pending part :: chunks next nextLine [] rest

def split (t : Text) : Except Error (List Chunk) :=
  match Lexer.lex t with
  | none => throw (.syntaxError .malformed)
  | some ls => pure (chunks 0 1 [] (parts ls))

def sites (t : Text) : Except Error Sites :=
  match Lexer.lex t with
  | none => throw (.syntaxError .malformed)
  | some ls => pure (Sites.scan ls)

end Script

end TypedSql
