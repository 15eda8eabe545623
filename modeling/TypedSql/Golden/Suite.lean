import TypedSql.Golden.Run

/-!
# Suites of golden files

The golden files below some folders are run one by one, each on a project of its own, and a summary of all
is shown. Files are given by their content, so that a suite needs no file system.
-/

namespace TypedSql.Golden

abbrev Path := List String

inductive ReadError where
  | noSuchFile
  | notAFolder
  | nameTooLong
  | other (message : String)
  deriving Repr, DecidableEq

def ReadError.message : ReadError → String
  | .noSuchFile => "No such file or directory (os error 2)"
  | .notAFolder => "Not a directory (os error 20)"
  | .nameTooLong => "File name too long (os error 36)"
  | .other message => message

inductive FileError where
  | read (e : ReadError)
  | record (e : RecordError)
  deriving Repr, DecidableEq

def FileError.message : FileError → String
  | .read e => "IO error: " ++ e.message
  | .record e => e.message

abbrev Content := Except ReadError Text

def runFile (settings : Settings) (content : Content) : Except FileError Result := do
  let text ← content.mapError .read
  (Golden.run (.initial settings) text).1.mapError .record

abbrev Folder := List (Path × Content)

def isGolden (path : Path) : Bool :=
  let name := (path.getLastD "").toList
  ".test".toList.isSuffixOf name && 5 < name.length

/-- Paths name by name; names by their characters. -/
def pathLE : Path → Path → Bool
  | [], _ => true
  | _ :: _, [] => false
  | a :: as, b :: bs => if a = b then pathLE as bs else a < b

def Folder.golden (f : Folder) : Folder :=
  (f.filter (isGolden ·.1)).mergeSort fun a b => pathLE a.1 b.1

def Folder.run (settings : Settings) (f : Folder) : Except FileError Report := do
  let results ← f.golden.mapM fun (_, content) => runFile settings content
  return results.foldl (fun total r => total.add r.report) {}

inductive Source where
  | folder (f : Folder)
  | file (content : Content)

def shownBelow (base : String) (path : Path) : String :=
  (if base.isEmpty || base.toList.getLast? == some '/' then base else base ++ "/") ++
    "/".intercalate path

namespace Folder

def steps (path : String) : Path :=
  (path.splitToList (· == '/')).filter fun s => !s.isEmpty && s != "."

def below (f : Folder) (path : Path) : Folder :=
  f.filterMap fun (p, content) =>
    if path.isPrefixOf p && path.length < p.length then some (p.drop path.length, content) else none

def hasFolder (f : Folder) (path : Path) : Bool :=
  path.isEmpty || !(f.below path).isEmpty

def maxNameSize : Nat := 255

def pathSizeLimit : Nat := 4096

/-- Where the names of a written path lead to from the place `here`. An empty name and a dot stay, two dots
go back; each name but the first needs a folder before it. What is above the folder is not known. -/
def walk (f : Folder) : Path → List String → Except ReadError Path
  | here, [] => pure here
  | here, name :: names =>
    if !f.hasFolder here then throw .notAFolder
    else if name.isEmpty || name = "." then f.walk here names
    else if name = ".." then
      if here.isEmpty then throw .noSuchFile else f.walk here.dropLast names
    else if maxNameSize < name.utf8ByteSize then throw .nameTooLong
    else
      let next := here ++ [name]
      if f.hasFolder next || (f.lookup next).isSome then f.walk next names
      else throw .noSuchFile

def resolve (f : Folder) (path : String) : Except ReadError Path :=
  if path.isEmpty || path.toList.head? == some '/' then throw .noSuchFile
  else if pathSizeLimit ≤ path.utf8ByteSize then throw .nameTooLong
  else f.walk [] (path.splitToList (· == '/'))

def source (f : Folder) (path : String) : Source :=
  match f.resolve path with
  | .error e => .file (.error e)
  | .ok place =>
    if f.hasFolder place then .folder (f.below place)
    else .file ((f.lookup place).getD (.error .noSuchFile))

end Folder

def Source.files (name : String) : Source → List (String × Content)
  | .folder f => f.golden.map fun (path, content) => (shownBelow name path, content)
  | .file content => [(name, content)]

structure Summary where
  lines : List String := []
  messages : List String := []
  report : Report := {}
  files : Nat := 0
  unreadable : Nat := 0
  deriving Repr, DecidableEq

namespace Summary

def addError (s : Summary) (path message : String) : Summary :=
  { s with
    lines := s.lines ++ [s!"ERR  {path}: {message}"]
    files := s.files + 1
    unreadable := s.unreadable + 1 }

def addResult (s : Summary) (path : String) (r : Result) : Summary :=
  let status := if r.report.failed = 0 then "ok  " else "FAIL"
  { s with
    lines := s.lines ++ [s!"{status} {path} ({r.report.passed}/{r.report.total})"]
    messages := s.messages ++ r.messages
    report := s.report.add r.report
    files := s.files + 1 }

def addFile (settings : Settings) (s : Summary) (path : String) (content : Content) : Summary :=
  match runFile settings content with
  | .error e => s.addError path e.message
  | .ok r => s.addResult path r

def run (settings : Settings) (sources : List (String × Source)) : Summary :=
  (sources.flatMap fun (name, s) => s.files name).foldl
    (fun s (path, content) => s.addFile settings path content) {}

def allLines (s : Summary) : List String :=
  s.lines ++ ["", "=== Summary ===", s!"Files:  {s.files} ({s.unreadable} unreadable)",
    s!"Passed: {s.report.passed}", s!"Failed: {s.report.failed}",
    s!"Pass rate: {s.report.rate.percent.toFixed 1}%"]

def output (s : Summary) : String :=
  String.join (s.allLines.map (· ++ "\n"))

def succeeded (s : Summary) : Bool :=
  s.report.failed == 0 && s.unreadable == 0

end Summary

end TypedSql.Golden
