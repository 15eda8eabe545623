import TypedSql.Token

/-!
# Sites

The places of a statement's text that an analysis may edit: wildcards of a select list, named
parameters and numbered placeholders. They are found among the lexemes alone, from left to right,
so every site lies where its text stands.
-/

namespace TypedSql

def pseudoSchema : String := "sqlc"

inductive NamedStyle where
  | arg
  | narg
  | sigil
  | slice
  deriving Repr, DecidableEq

structure StarSite where
  location : Nat
  text : Text
  qualifier : List String
  embed : Bool
  deriving Repr, DecidableEq

structure NamedSite where
  location : Nat
  text : Text
  name : String
  style : NamedStyle
  deriving Repr, DecidableEq

structure PositionalSite where
  location : Nat
  number : Nat
  deriving Repr, DecidableEq

structure Sites where
  stars : List StarSite := []
  named : List NamedSite := []
  positional : List PositionalSite := []
  deriving Repr, DecidableEq

namespace Sites

def maxNumber : Nat := 0xFFFFFFFFFFFFFFFF

def digitsValue? (digits : Text) : Option Nat :=
  if digits.isEmpty || !digits.all Char.isDigit then none
  else
    let n := digits.foldl (fun n c => n * 10 + (c.toNat - 48)) 0
    if n ≤ maxNumber then some n else none

def placeholderNumber? : Text → Option Nat
  | '$' :: digits => digitsValue? digits
  | _ => none

def isPseudoSchema (w : Word) : Bool :=
  !w.quoted && w.text.eqIgnoreCase pseudoSchema.toList

def takeSignificant : Nat → List Lexeme → Option (List Lexeme)
  | 0, _ => some []
  | _ + 1, [] => none
  | n + 1, l :: ls =>
    if l.isTrivia then (takeSignificant (n + 1) ls).map (l :: ·)
    else (takeSignificant n ls).map (l :: ·)

def significant (ls : List Lexeme) : List Token :=
  (ls.filter fun l => !l.isTrivia).map Lexeme.token

def call? (tokens : List Token) : Option (String × List Token) :=
  match tokens with
  | .symbol "." :: .word f :: .symbol "(" :: rest => some (f.name, rest)
  | _ => none

def namedStyle? (function : String) : Option NamedStyle :=
  if function = "arg" then some .arg
  else if function = "narg" then some .narg
  else if function = "slice" then some .slice
  else none

def namedCall? (location : Nat) (first : Lexeme) (rest : List Lexeme) : Option NamedSite :=
  match takeSignificant 5 rest with
  | none => none
  | some ls =>
    let site (f name : String) : Option NamedSite :=
      (namedStyle? f).map fun style =>
        { location, text := first.text ++ Lexeme.cover ls, name, style }
    match call? (significant ls) with
    | some (f, [.word w, .symbol ")"]) => site f w.name
    | some (f, [.string .plain s, .symbol ")"]) => site f s.toString
    | _ => none

def embedded? : List Token → Option (List String)
  | .word w :: .symbol s :: rest =>
    if s = ")" then some [w.name]
    else if s = "." then (embedded? rest).map (w.name :: ·)
    else none
  | _ => none

def embedCall? (location : Nat) (first : Lexeme) (rest : List Lexeme) : Option StarSite :=
  match call? (significant rest) with
  | none => none
  | some (f, args) =>
    if f = "embed" then
      match embedded? args with
      | none => none
      | some qualifier =>
        if qualifier.length ≤ 3 then
          (takeSignificant (3 + 2 * qualifier.length) rest).map fun ls =>
            { location, text := first.text ++ Lexeme.cover ls, qualifier, embed := true }
        else none
    else none

def spanTrivia (ls : List Lexeme) : List Lexeme × List Lexeme :=
  ls.span Lexeme.isTrivia

/-- The dotted words that end just before a period. `before` holds the lexemes before that period,
last one first; the answer is the words and the lexemes that they span, both in the order of the
text. -/
def dottedBefore : Nat → List Lexeme → List String × List Lexeme
  | 0, _ => ([], [])
  | fuel + 1, before =>
    let (gap, rest) := spanTrivia before
    match rest with
    | [] => ([], [])
    | l :: rest =>
      match l.token with
      | .word w =>
        let here := l :: gap.reverse
        let (gap', rest') := spanTrivia rest
        match rest' with
        | [] => ([w.name], here)
        | p :: rest' =>
          if p.token.isSymbol "." then
            match dottedBefore fuel rest' with
            | ([], _) => ([w.name], here)
            | (q, ls) => (q ++ [w.name], ls ++ p :: gap'.reverse ++ here)
          else ([w.name], here)
      | _ => ([], [])

def opensSelectList (t : Token) : Bool :=
  t.isKeyword "SELECT" || t.isKeyword "DISTINCT" || t.isKeyword "ALL" || t.isKeyword "RETURNING"

/-- A wildcard of a select list: a star after a comma, after a word that opens the list, or after a
dotted name. `before` holds the lexemes before the star, last one first. -/
def star? (location : Nat) (star : Lexeme) (before : List Lexeme) : Option StarSite :=
  let (gap, rest) := spanTrivia before
  match rest with
  | [] => none
  | p :: rest =>
    if p.token.isSymbol "." then
      match dottedBefore before.length rest with
      | ([], _) => none
      | (qualifier, ls) =>
        let lead := Lexeme.cover (ls ++ p :: gap.reverse)
        some { location := location - lead.bytes, text := lead ++ star.text, qualifier, embed := false }
    else if p.token.isSymbol "," || opensSelectList p.token then
      some { location, text := star.text, qualifier := [], embed := false }
    else none

def addStar (site : Option StarSite) (s : Sites) : Sites :=
  match site with
  | some site => { s with stars := site :: s.stars }
  | none => s

def addNamed (site : Option NamedSite) (s : Sites) : Sites :=
  match site with
  | some site => { s with named := site :: s.named }
  | none => s

def addPositional (site : Option PositionalSite) (s : Sites) : Sites :=
  match site with
  | some site => { s with positional := site :: s.positional }
  | none => s

def sigil? (location : Nat) (at_ : Lexeme) (rest : List Lexeme) : Option NamedSite :=
  match rest with
  | l :: _ =>
    match l.token with
    | .word w => some { location, text := at_.text ++ l.text, name := w.name, style := .sigil }
    | _ => none
  | [] => none

/-- Adds the sites that begin at lexeme `l`, which stands at `location` between the lexemes
`before` it, last one first, and the `rest`. -/
def addAt (location : Nat) (before : List Lexeme) (l : Lexeme) (rest : List Lexeme)
    (s : Sites) : Sites :=
  match l.token with
  | .placeholder p =>
    addPositional ((placeholderNumber? p).map fun number => { location, number }) s
  | .symbol "@" => addNamed (sigil? location l rest) s
  | .symbol "*" => addStar (star? location l before) s
  | .word w =>
    if isPseudoSchema w then
      match namedCall? location l rest with
      | some site => addNamed (some site) s
      | none => addStar (embedCall? location l rest) s
    else s
  | _ => s

def scanFrom (location : Nat) (before : List Lexeme) : List Lexeme → Sites
  | [] => {}
  | l :: rest =>
    addAt location before l rest (scanFrom (location + l.text.bytes) (l :: before) rest)

def scan (ls : List Lexeme) : Sites :=
  scanFrom 0 [] ls

def positionalLocation? (s : Sites) (number : Nat) : Option Nat :=
  (s.positional.find? (·.number == number)).map PositionalSite.location

end Sites

end TypedSql
