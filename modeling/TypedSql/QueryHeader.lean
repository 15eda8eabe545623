import TypedSql.Error
import TypedSql.Text.Numeric

/-!
# Query headers

A comment of the form `name: Name :command` before a statement names the query and says how many rows
its caller expects. The other comments before it document the query.
-/

namespace TypedSql

inductive Command where
  | one
  | many
  | exec
  | execRows
  | execResult
  | execLastId
  | copyFrom
  | batchExec
  | batchMany
  | batchOne
  deriving Repr, DecidableEq

inductive Cardinality where
  | exactlyOne
  | many
  | execOnly
  | execWithRowCount
  deriving Repr, DecidableEq

namespace Command

def all : List Command :=
  [.one, .many, .exec, .execRows, .execResult, .execLastId, .copyFrom, .batchExec, .batchMany,
  .batchOne]

def name : Command → String
  | .one => "one"
  | .many => "many"
  | .exec => "exec"
  | .execRows => "execrows"
  | .execResult => "execresult"
  | .execLastId => "execlastid"
  | .copyFrom => "copyfrom"
  | .batchExec => "batchexec"
  | .batchMany => "batchmany"
  | .batchOne => "batchone"

def toString (c : Command) : String :=
  ":" ++ c.name

def cardinality : Command → Cardinality
  | .one | .batchOne => .exactlyOne
  | .many | .batchMany => .many
  | .execRows => .execWithRowCount
  | .exec | .execResult | .execLastId | .copyFrom | .batchExec => .execOnly

def ofText (t : Text) : Except Error Command :=
  match all.find? (·.toString == t.toString) with
  | some c => pure c
  | none => throw (.invalidHeader (.unknownCommand t))

end Command

structure QueryHeader where
  name : Text
  command : Command
  comments : List Text
  deriving Repr, DecidableEq

namespace QueryHeader

def isName : Text → Bool
  | [] => false
  | c :: t =>
    (Text.isAlphabetic c || c == '_') && t.all fun c => Text.isAlphanumeric c || c == '_'

def isNameLine (line : Text) : Bool :=
  ['n', 'a', 'm', 'e'].isPrefixOf line && line.contains ':'

def parseNameLine (line : Text) : Except Error (Text × Command) :=
  match line with
  | 'n' :: 'a' :: 'm' :: 'e' :: ':' :: ' ' :: rest =>
    match Text.words rest with
    | [_] => throw (.invalidHeader (.missingCommand line))
    | [name, command] => do
      let command ← Command.ofText command
      if isName name then pure (name, command) else throw (.invalidHeader (.badName name))
    | _ => throw (.invalidHeader (.wordCount line))
  | _ => throw (.invalidHeader (.malformed line))

/-- Reads the first comment meant to be a header and keeps the others; without such a comment
there is no header. -/
def parse (comments : List Text) : Except Error (Option QueryHeader) :=
  let lines := comments.map Text.trim
  match lines.dropWhile (!isNameLine ·) with
  | [] => pure none
  | line :: rest => do
    let (name, command) ← parseNameLine line
    pure (some { name, command, comments := lines.takeWhile (!isNameLine ·) ++ rest })

end QueryHeader

end TypedSql
