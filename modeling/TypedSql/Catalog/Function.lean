import TypedSql.Definition
import TypedSql.Dict
import TypedSql.Error

/-!
# Functions of the catalog

Functions of one name are told apart by the types of their arguments. A call finds the function that it
means by the number and the names of its arguments alone.
-/

namespace TypedSql

structure Function where
  name : String
  parameters : List Parameter
  returns : TypeName
  comment : Option String := none
  deriving Repr, DecidableEq

namespace Function

def types (f : Function) : List TypeName :=
  f.parameters.map Parameter.type

def hasSignature (f : Function) (types : List TypeName) : Bool :=
  f.types == types

def position? (f : Function) (name : String) : Option Nat :=
  f.parameters.findIdx? fun p => !p.name.isEmpty && p.name == name

def fill (f : Function) (filled : List Bool) : List String → Option (List Bool)
  | [] => some filled
  | name :: names =>
    match f.position? name with
    | none => none
    | some i => if filled.getD i true then none else f.fill (filled.set i true) names

/-- Whether a call may give that many arguments by position and then these by name: every argument that
is left out must have a default. -/
def accepts (f : Function) (positional : Nat) (names : List String) : Bool :=
  if f.parameters.length < positional + names.length then false
  else
    let first := List.replicate positional true ++
      List.replicate (f.parameters.length - positional) false
    match f.fill first names with
    | none => false
    | some filled => (f.parameters.zip filled).all fun (p, given) => given || p.hasDefault

def parameter? (f : Function) (position : Nat) (label : Option String) : Option Parameter :=
  match label with
  | some name => f.parameters.find? (·.name == name)
  | none => f.parameters[position]?

end Function

namespace Signature

def describe (name : String) : Option (List TypeName) → String
  | none => name
  | some types =>
    name ++ "(" ++ ", ".intercalate (types.map fun t =>
      t.dataType ++ String.join (List.replicate t.dims "[]")) ++ ")"

end Signature

abbrev Functions := Dict (List Function)

namespace Functions

def overloads (fs : Functions) (name : String) : List Function :=
  (fs.get? name).getD []

def reserve (fs : Functions) (name : String) : Functions :=
  fs.insert name (fs.overloads name)

def push (fs : Functions) (f : Function) : Functions :=
  fs.insert f.name (fs.overloads f.name ++ [f])

/-- Adds a function. One with the same argument types is in the way unless it may be replaced, in which
case the new one takes its place. -/
def add (fs : Functions) (f : Function) (replace : Bool) : Except Error Functions :=
  let same := fun g : Function => g.hasSignature f.types
  match (fs.overloads f.name).findIdx? same with
  | none => return fs.push f
  | some i =>
    if replace then return fs.insert f.name ((fs.overloads f.name).set i f)
    else throw (.functionAlreadyExists f.name)

def meant (types : Option (List TypeName)) (f : Function) : Bool :=
  types.all f.hasSignature

def remove (fs : Functions) (name : String) (types : Option (List TypeName)) :
    Except Error Functions :=
  let overloads := fs.overloads name
  if overloads.any (meant types) then
    let rest := overloads.eraseP (meant types)
    return if rest.isEmpty then fs.erase name else fs.insert name rest
  else throw (.functionNotFound (Signature.describe name types))

private def builtin (name : String) (types : List String) (returns : String) : Function :=
  { name, parameters := types.map fun t => { type := .ofName t }, returns := .ofName returns }

def builtins : Functions :=
  [builtin "count" [] "bigint",
    builtin "count" ["any"] "bigint",
    builtin "sum" ["any"] "numeric",
    builtin "avg" ["any"] "numeric",
    builtin "min" ["any"] "any",
    builtin "max" ["any"] "any",
    builtin "lower" ["text"] "text",
    builtin "upper" ["text"] "text",
    builtin "length" ["text"] "integer",
    builtin "now" [] "timestamp with time zone",
    builtin "random" [] "double precision"].foldl push Dict.empty

end Functions

end TypedSql
