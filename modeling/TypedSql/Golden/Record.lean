import TypedSql.Text.Basic

/-!
# Golden files

A golden file is a list of records, each a directive with the lines after it up to a blank line. A
`schema` record holds definitions. A `query` record holds a statement and, after a line `----`, the lines
that its analysis is expected to give. The directive may instead name an expected error. A line that
starts with `#` before a directive is a comment.
-/

namespace TypedSql.Golden

inductive Record where
  | schema (line : Nat) (text : Text) (error : Option Text)
  | query (line : Nat) (text : Text) (expected : List Text) (error : Option Text)
  deriving Repr, DecidableEq

inductive RecordFault where
  | badDirective (line : Text)
  | unknownDirective (word : Text)
  deriving Repr, DecidableEq

structure RecordError where
  line : Nat
  fault : RecordFault
  deriving Repr, DecidableEq

def RecordFault.message : RecordFault → String
  | .badDirective line => "bad directive: " ++ Text.toString line
  | .unknownDirective word => "unknown directive: " ++ Text.toString word

def RecordError.message (e : RecordError) : String :=
  s!"Parse error at line {e.line}: {e.fault.message}"

abbrev NumberedLine := Nat × Text

def isBlankLine (l : Text) : Bool :=
  l.trim.isEmpty

def isComment (l : Text) : Bool :=
  l.trim.head? == some '#'

def isDivider (l : Text) : Bool :=
  l.trim == "----".toList

def paragraphs : List NumberedLine → List (List NumberedLine)
  | [] => [[]]
  | l :: ls =>
    if isBlankLine l.2 then [] :: paragraphs ls
    else
      match paragraphs ls with
      | [] => [[l]]
      | p :: ps => (l :: p) :: ps

def expectedError (line : Text) : List Text → Except RecordFault (Option Text)
  | [] => pure none
  | word :: code :: _ =>
    if word == "error".toList then pure (some code) else throw (.badDirective line)
  | _ => throw (.badDirective line)

def statementLines (ls : List Text) : List Text :=
  ls.takeWhile (!isDivider ·)

def expectedLines (ls : List Text) : List Text :=
  (((ls.dropWhile (!isDivider ·)).filter (!isDivider ·))).map Text.trimEnd

def Record.ofLines (line : Nat) (directive : Text) (body : List Text) :
    Except RecordFault Record := do
  let words := directive.words
  let error ← expectedError directive.trim words.tail
  let text := Text.unlines (statementLines body)
  let word := words.headD []
  if word == "schema".toList then return .schema line text error
  else if word == "query".toList then return .query line text (expectedLines body) error
  else throw (.unknownDirective word)

def Record.ofParagraph (p : List NumberedLine) : Except RecordError (Option Record) :=
  match p.dropWhile (isComment ·.2) with
  | [] => pure none
  | (line, directive) :: body =>
    match Record.ofLines line directive (body.map Prod.snd) with
    | .ok r => pure (some r)
    | .error fault => throw { line, fault }

def numberedLines (t : Text) : List NumberedLine :=
  t.lines.zipIdx.map fun (l, i) => (i + 1, l)

def Record.parse (t : Text) : Except RecordError (List Record) :=
  return (← (paragraphs (numberedLines t)).mapM Record.ofParagraph).filterMap id

end TypedSql.Golden
