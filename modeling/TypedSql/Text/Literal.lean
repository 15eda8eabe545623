import TypedSql.Text.Basic
import TypedSql.Text.Hidden

/-!
# Text shown in messages

A text shown between double quotes: quotes, backslashes and the common control characters are
escaped with a backslash, and characters without a glyph are shown by their number.
-/

namespace TypedSql.Text

def hexDigit (n : Nat) : Char :=
  if n < 10 then Char.ofNat (48 + n) else Char.ofNat (87 + n)

def hexDigits : Nat → Nat → Text
  | 0, _ => []
  | fuel + 1, n =>
    if n < 16 then [hexDigit n] else hexDigits fuel (n / 16) ++ [hexDigit (n % 16)]

def escapeChar (c : Char) : Text :=
  match c with
  | '\x00' => ['\\', '0']
  | '\t' => ['\\', 't']
  | '\r' => ['\\', 'r']
  | '\n' => ['\\', 'n']
  | '\\' => ['\\', '\\']
  | '"' => ['\\', '"']
  | c => if isHidden c then ['\\', 'u', '\x7b'] ++ hexDigits 8 c.toNat ++ ['\x7d'] else [c]

def literal (t : Text) : Text :=
  '"' :: t.flatMap escapeChar ++ ['"']

end TypedSql.Text
