import TypedSql.Text.Basic

/-!
# Lines and columns

A place in a text is also given by its line and its column, both counted from one, the column in
characters. Only a line feed ends a line.
-/

namespace TypedSql.Text

structure Position where
  line : Nat
  column : Nat
  deriving Repr, DecidableEq

def Position.start : Position := ⟨1, 1⟩

def Position.next (p : Position) (c : Char) : Position :=
  if c = '\n' then ⟨p.line + 1, 1⟩ else ⟨p.line, p.column + 1⟩

def Position.advance (p : Position) (t : Text) : Position :=
  t.foldl Position.next p

def lineStarts (t : Text) : List Nat :=
  0 :: go 0 t
where
  go (offset : Nat) : Text → List Nat
    | [] => []
    | c :: t =>
      let offset := offset + c.utf8Size
      if c = '\n' then offset :: go offset t else go offset t

structure LineIndex where
  text : Text
  starts : List Nat

def LineIndex.ofText (t : Text) : LineIndex :=
  { text := t, starts := lineStarts t }

def LineIndex.offset (index : LineIndex) (p : Position) : Nat :=
  match index.starts[p.line - 1]? with
  | none => index.text.bytes
  | some start =>
    match index.text.splitAtByte? start with
    | none => index.text.bytes
    | some (_, rest) =>
      if (rest.drop (p.column - 1)).isEmpty then index.text.bytes
      else start + bytes (rest.take (p.column - 1))

end TypedSql.Text
