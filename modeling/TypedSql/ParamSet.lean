import TypedSql.Dict
import TypedSql.Site

/-!
# Named parameters of a statement

Named parameters are numbered from one in the order in which their names first appear. Every
occurrence of a name has the same number. The parameters are kept by their numbers, and the numbers
by the names.
-/

namespace TypedSql

structure NamedParam where
  name : String
  nullable : Bool
  slice : Bool
  deriving Repr, DecidableEq

structure ParamSet where
  params : List NamedParam := []
  numbers : Dict Nat := .empty
  deriving Repr, DecidableEq

namespace ParamSet

def number? (s : ParamSet) (name : String) : Option Nat :=
  s.numbers.get? name

/-- The number of a name, which is new if the name is. One nullable occurrence makes the parameter
nullable, and one slice makes it a slice. -/
def add (s : ParamSet) (name : String) (style : NamedStyle) : ParamSet × Nat :=
  let nullable := style == .narg
  let slice := style == .slice
  match s.numbers.get? name with
  | some number =>
    ({ s with params := s.params.modify (number - 1) fun p =>
        { p with nullable := p.nullable || nullable, slice := p.slice || slice } }, number)
  | none =>
    let params := s.params ++ [{ name, nullable, slice }]
    ({ params, numbers := s.numbers.insert name params.length }, params.length)

def get? (s : ParamSet) (number : Nat) : Option NamedParam :=
  match number with
  | 0 => none
  | i + 1 => s.params[i]?

def name? (s : ParamSet) (number : Nat) : Option String :=
  (s.get? number).map NamedParam.name

def isNullable (s : ParamSet) (number : Nat) : Bool :=
  (s.get? number).any NamedParam.nullable

def isSlice (s : ParamSet) (number : Nat) : Bool :=
  (s.get? number).any NamedParam.slice

def size (s : ParamSet) : Nat :=
  s.params.length

end ParamSet

end TypedSql
