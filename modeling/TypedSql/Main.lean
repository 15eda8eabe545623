import TypedSql.Golden.Suite

/-!
# Command line

Runs golden files. Each argument is a file or a folder that is searched for golden files; without
arguments the folder `fixtures` is run. With `VERBOSE` set, failures are explained.
-/

namespace TypedSql.Main

open Golden

def readError : IO.Error → ReadError
  | .noFileOrDirectory .. => .noSuchFile
  | e => .other (toString e)

def readContent (path : String) : IO Content := do
  match ← (IO.FS.readFile path).toBaseIO with
  | .ok s => return .ok s.toList
  | .error e => return .error (readError e)

def isFolder (path : String) : IO Bool := do
  ((← IO.currentDir) / path).isDir

partial def readFolder (path : String) : IO Folder := do
  let entries ← ((← IO.currentDir) / path).readDir
  let parts ← entries.toList.mapM fun entry => do
    let name := entry.fileName
    let inside := shownBelow path [name]
    if ← isFolder inside then
      return (← readFolder inside).map fun (rest, content) => (name :: rest, content)
    else if isGolden [name] then return [([name], ← readContent inside)]
    else return []
  return parts.flatten

def readSource (path : String) : IO Source := do
  if ← isFolder path then return .folder (← readFolder path)
  else return .file (← readContent path)

end TypedSql.Main

def main (args : List String) : IO UInt32 := do
  let paths := if args.isEmpty then ["fixtures"] else args
  let sources ← paths.mapM fun path => return (path, ← TypedSql.Main.readSource path)
  let summary := TypedSql.Golden.Summary.run {} sources
  if (← IO.getEnv "VERBOSE").isSome then
    IO.eprint (String.join summary.messages)
  IO.print summary.output
  return if summary.succeeded then 0 else 1
