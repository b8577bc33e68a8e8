/-!
Whole numbers in decimal, as port numbers and counts are written.
-/

namespace SshTunnel

/-- The value of a row of ASCII digits, most significant first, or nothing if one is not a digit. -/
def digitsValue? : Nat → List Char → Option Nat
  | n, [] => some n
  | n, c :: s => if '0' ≤ c ∧ c ≤ '9' then digitsValue? (10 * n + (c.toNat - 48)) s else none

/-- A decimal numeral below `bound`: at least one digit, leading zeros and one plus sign allowed. -/
def numeral? (bound : Nat) (s : List Char) : Option Nat :=
  let digits := match s with
    | '+' :: rest => rest
    | s => s
  if digits = [] then none
  else (digitsValue? 0 digits).bind fun n => if n < bound then some n else none

end SshTunnel
