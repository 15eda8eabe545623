import TypedSql.Text.Basic
import TypedSql.Text.CaseRun
import TypedSql.Text.Cased

/-!
# Lower and upper case

Full case mapping of a text. It works character by character, except that a capital sigma becomes
the final small sigma at the end of a word.
-/

namespace TypedSql.Text

def startsCased (t : Text) : Bool :=
  match t.dropWhile isCaseIgnorable with
  | c :: _ => isCased c
  | [] => false

def lowerChar (c : Char) : Text :=
  if c.toNat < 128 then [c.toLower]
  else if c.toNat = 0x130 then [Char.ofNat 0x69, Char.ofNat 0x307]
  else [Char.ofNat (moveByRuns lowerRuns c.toNat)]

/-- The lower case of a text; `before` holds the characters already read, last one first. -/
def lowerFrom (before : Text) : Text → Text
  | [] => []
  | c :: t =>
    let here :=
      if c.toNat = 0x3A3 then
        if startsCased before && !startsCased t then [Char.ofNat 0x3C2] else [Char.ofNat 0x3C3]
      else lowerChar c
    here ++ lowerFrom (c :: before) t

def lower (t : Text) : Text :=
  lowerFrom [] t

def upperChar (c : Char) : Text :=
  if c.toNat < 128 then [c.toUpper]
  else
    match upperExpansions.lookup c.toNat with
    | some ns => ns.map Char.ofNat
    | none => [Char.ofNat (moveByRuns upperRuns c.toNat)]

def upper (t : Text) : Text :=
  t.flatMap upperChar

end TypedSql.Text
