/-!
# Rates

A rate is a quotient kept as a binary fraction of 53 significant digits, and is shown with a fixed number
of decimal places. Every rounding goes to the nearest value, and to the even one of two that are equally
near.
-/

namespace TypedSql.Golden

def roundDiv (n d : Nat) : Nat :=
  let q := n / d
  let r := n % d
  if 2 * r < d then q else if d < 2 * r then q + 1 else q + q % 2

/-- The number `digits / 2 ^ scale`. -/
structure Rate where
  digits : Nat
  scale : Nat
  deriving Repr, DecidableEq

namespace Rate

def zero : Rate :=
  ⟨0, 0⟩

def ofQuotient (n d : Nat) : Rate :=
  if n = 0 || d = 0 then zero
  else
    let scale := 52 + d.log2 - n.log2
    let scale := if n * Nat.pow 2 scale < Nat.pow 2 52 * d then scale + 1 else scale
    ⟨roundDiv (n * Nat.pow 2 scale) d, scale⟩

def percent (r : Rate) : Rate :=
  ofQuotient (r.digits * 100) (Nat.pow 2 r.scale)

def padded (width n : Nat) : String :=
  let digits := toString n
  String.ofList (List.replicate (width - digits.length) '0') ++ digits

def toFixed (places : Nat) (r : Rate) : String :=
  let unit := Nat.pow 10 places
  let n := roundDiv (r.digits * unit) (Nat.pow 2 r.scale)
  s!"{n / unit}." ++ padded places (n % unit)

end Rate

end TypedSql.Golden
