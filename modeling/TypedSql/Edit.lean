import TypedSql.Error

/-!
# Edits

An edit replaces the text at a place of a statement. All places refer to the text before any edit, so
a list of edits is applied from the last place to the first.
-/

namespace TypedSql

structure Edit where
  location : Nat
  old : Text
  new : Text
  deriving Repr, DecidableEq

namespace Edit

def stop (e : Edit) : Nat :=
  e.location + e.old.bytes

def sort (edits : List Edit) : List Edit :=
  edits.mergeSort fun a b => a.location ≤ b.location

def checkApart : List Edit → Except Error Unit
  | a :: b :: rest =>
    if b.location < a.stop then throw (.invalidEdit (.overlap a.location b.location))
    else checkApart (b :: rest)
  | _ => pure ()

def check (text : Text) (e : Edit) : Except Error Unit :=
  match text.slice? e.location e.stop with
  | none => throw (.invalidEdit (.outside e.old e.location))
  | some found =>
    if found = e.old then pure () else throw (.invalidEdit (.mismatch e.old e.location found))

def between (text : Text) (start stop : Nat) : Text :=
  (text.slice? start stop).getD []

def replaceRange (out : Text) (start stop : Nat) (new : Text) : Text :=
  between out 0 start ++ new ++ between out stop out.bytes

/-- Makes sorted edits in place, from the last to the first. What an edit replaces is looked for in the
text before any edit. -/
def makeAll (text : Text) : List Edit → Except Error Text
  | [] => pure text
  | e :: rest => do
    let out ← makeAll text rest
    check text e
    pure (replaceRange out e.location e.stop e.new)

def apply (text : Text) (edits : List Edit) : Except Error Text := do
  let sorted := sort edits
  checkApart sorted
  makeAll text sorted

end Edit

end TypedSql
