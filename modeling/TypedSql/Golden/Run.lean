import TypedSql.Golden.Rate
import TypedSql.Golden.Record
import TypedSql.Project

/-!
# Running golden files

The records of a golden file are run in turn on one project. A record passes if it gives what it expects.
-/

namespace TypedSql

namespace TypedColumn

def render (c : TypedColumn) : String :=
  (if c.name.isEmpty then "_" else c.name) ++ " " ++ c.dataType ++
    String.join (List.replicate c.dims "[]") ++ (if c.notNull then " not null" else " null")

end TypedColumn

namespace TypedQuery

def render (q : TypedQuery) : List Text :=
  ("sql ".toList ++ q.text) ::
    q.columns.map (fun c => ("column " ++ c.render).toList) ++
    q.params.map (fun p => s!"param {p.number} {p.column.render}".toList)

end TypedQuery

def LocatedError.message (e : LocatedError) : String :=
  s!"{e.line}: " ++ e.error.message?.getD "syntax error"

namespace Golden

structure Report where
  passed : Nat := 0
  failed : Nat := 0
  deriving Repr, DecidableEq

namespace Report

def total (r : Report) : Nat :=
  r.passed + r.failed

def rate (r : Report) : Rate :=
  .ofQuotient r.passed r.total

def add (a b : Report) : Report :=
  { passed := a.passed + b.passed, failed := a.failed + b.failed }

end Report

inductive Failure where
  | noError (expected : Text)
  | otherError (code : String) (expected : Option Text)
  | unexpectedError (text : Text) (error : LocatedError)
  | mismatch (text : Text) (expected actual : List Text)
  deriving Repr, DecidableEq

def Failure.message (line : Nat) : Failure → String
  | .noError expected => s!"line {line}: expected error {Text.toString expected} but got success\n"
  | .otherError code expected =>
    let wanted := match expected with
      | none => "None"
      | some e => "Some(" ++ Text.toString (Text.literal e) ++ ")"
    s!"line {line}: got error {code}, expected {wanted}\n"
  | .unexpectedError text e =>
    s!"line {line}: unexpected error for '{Text.toString text}': {e.message}\n"
  | .mismatch text expected actual =>
    s!"line {line}: result mismatch for: {Text.toString text}\nExpected:\n" ++
      Text.toString (Text.unlines expected) ++ "\nActual:\n" ++
      Text.toString (Text.unlines actual) ++ "\n"

def checkError {α : Type} (result : Except LocatedError α) (expected : Option Text) :
    Option Failure :=
  match result, expected with
  | .ok _, none => none
  | .ok _, some e => some (.noError e)
  | .error e, expected =>
    if expected == some e.error.code.toList then none
    else some (.otherError e.error.code expected)

def checkQuery (text : Text) (expected : List Text) :
    Except LocatedError TypedQuery → Option Failure
  | .ok q => if q.render = expected then none else some (.mismatch text expected q.render)
  | .error e => some (.unexpectedError text e)

namespace Record

def line : Record → Nat
  | .schema line _ _ => line
  | .query line _ _ _ => line

/-- Runs a record, which fails for a reason. Definitions change the project. -/
def run (p : Project) : Record → Option Failure × Project
  | .schema _ text error =>
    let (result, p) := p.addSchema text
    (checkError result error, p)
  | .query _ text _ (some code) => (checkError (p.analyse text) (some code), p)
  | .query _ text expected none => (checkQuery text expected (p.analyse text), p)

end Record

structure Result where
  report : Report := {}
  messages : List String := []
  deriving Repr, DecidableEq

namespace Result

def push (r : Result) (line : Nat) : Option Failure → Result
  | none => { r with report := { r.report with passed := r.report.passed + 1 } }
  | some f =>
    { report := { r.report with failed := r.report.failed + 1 }
      messages := f.message line :: r.messages }

end Result

def runRecords (p : Project) : List Record → Result × Project
  | [] => ({}, p)
  | r :: rs =>
    let (failure, p) := r.run p
    let (result, p) := runRecords p rs
    (result.push r.line failure, p)

/-- Runs the text of a golden file. A text with a bad record is not run at all. -/
def run (p : Project) (t : Text) : Except RecordError Result × Project :=
  match Record.parse t with
  | .error e => (.error e, p)
  | .ok records =>
    let (result, p) := runRecords p records
    (.ok result, p)

end Golden

end TypedSql
