import TypedSql.Error
import TypedSql.Statement.Visit

/-!
# Rules for the parameters of a statement

A statement writes its parameters in one style. Every call into the pseudo-schema must be one that was
read as a parameter or as an embedded table, and a slice must be the whole list that it stands in.
-/

namespace TypedSql

namespace Expr

def param? : Expr → Option Nat
  | .param number _ => some number
  | _ => none

def column? : Expr → Option (List String)
  | .column path => some path
  | _ => none

def named? : Expr → Option (String × NamedStyle)
  | .named name style => some (name, style)
  | _ => none

inductive ParamStyle where
  | positional
  | call
  | sigil
  deriving Repr, DecidableEq

def paramStyle? : Expr → Option ParamStyle
  | .param .. => some .positional
  | .named _ .sigil => some .sigil
  | .named _ _ => some .call
  | _ => none

def callFault (c : Call) (args : List Expr) : Error :=
  if ["arg", "narg", "slice", "embed"].contains c.name then
    .invalidFunctionCall <|
      match args, c.star with
      | [arg], false =>
        if c.name != "embed" then .notAName c.name
        else if arg.column?.isSome then .embedPosition
        else .embedNotTable
      | _, _ => .argumentCount c.name args.length
  else .functionNotFound c.qualifiedName

def callFault? : Expr → Option Error
  | .call c args =>
    if Text.eqIgnoreCase c.schema.toList pseudoSchema.toList then some (callFault c args) else none
  | _ => none

def sliceName? : Expr → Option String
  | .named name .slice => some name
  | _ => none

def sliceFault? : Expr → Option Error
  | .inList e items _ =>
    if items.length ≤ 1 then none
    else (items.findSome? sliceName?).map fun name =>
      let subject := match e with
        | .column path => path.getLastD ""
        | _ => "..."
      .invalidFunctionCall (.sliceNotAlone subject name)
  | _ => none

end Expr

namespace Statement

def usesStyle (s : Statement) (style : Expr.ParamStyle) : Bool :=
  s.exprs.any fun e => e.paramStyle? == some style

def checkStyle (s : Statement) : Except Error Unit :=
  if 1 < ([.positional, .call, .sigil].filter s.usesStyle).length then throw .mixedParameterStyle
  else pure ()

def checkEach (s : Statement) (fault? : Expr → Option Error) : Except Error Unit :=
  match s.exprs.findSome? fault? with
  | some e => throw e
  | none => pure ()

/-- The rules in the order in which they are checked. -/
def check (s : Statement) : Except Error Unit := do
  s.checkStyle
  s.checkEach Expr.callFault?
  s.checkEach Expr.sliceFault?

end Statement

end TypedSql
