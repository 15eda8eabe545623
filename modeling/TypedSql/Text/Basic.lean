import TypedSql.Text.Blank

/-!
# Source text

A text is a list of characters. Places in it are counted in bytes of its UTF-8 encoding, so a place
inside a character is no place of the text: `splitAtByte?` has no answer there.
-/

namespace TypedSql

abbrev Text := List Char

namespace Text

def toString (t : Text) : String :=
  String.ofList t

def bytes : Text → Nat
  | [] => 0
  | c :: t => c.utf8Size + bytes t

/-- The text before and after byte `n`, if `n` lies on a boundary of characters. -/
def splitAtByte? : Text → Nat → Option (Text × Text)
  | t, 0 => some ([], t)
  | [], _ + 1 => none
  | c :: t, n + 1 =>
    if c.utf8Size ≤ n + 1 then
      (splitAtByte? t (n + 1 - c.utf8Size)).map fun (a, b) => (c :: a, b)
    else none

def slice? (t : Text) (start stop : Nat) : Option Text :=
  if start ≤ stop then
    match splitAtByte? t start with
    | some (_, rest) => (splitAtByte? rest (stop - start)).map Prod.fst
    | none => none
  else none

def trimStart (t : Text) : Text :=
  t.dropWhile isBlank

def trimEnd (t : Text) : Text :=
  (t.reverse.dropWhile isBlank).reverse

def trim (t : Text) : Text :=
  trimEnd (trimStart t)

def words (t : Text) : List Text :=
  go [] t
where
  go (current : Text) : Text → List Text
    | [] => if current.isEmpty then [] else [current.reverse]
    | c :: t =>
      if isBlank c then
        if current.isEmpty then go [] t else current.reverse :: go [] t
      else go (c :: current) t

def newlines (t : Text) : Nat :=
  t.count '\n'

/-- The lines of a text without their ends, which are a newline or a carriage return and a newline. -/
def lines : Text → List Text
  | [] => []
  | '\n' :: t => [] :: lines t
  | '\r' :: '\n' :: t => [] :: lines t
  | c :: t =>
    match lines t with
    | [] => [[c]]
    | l :: ls => (c :: l) :: ls

def unlines (ls : List Text) : Text :=
  ['\n'].intercalate ls

def eqIgnoreCase (a b : Text) : Bool :=
  a.map Char.toLower == b.map Char.toLower

end Text

end TypedSql
