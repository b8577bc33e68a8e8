import SshTunnel.Bytes.Basic

/-!
Base64 with padding.  A text is read group by group of four characters; `decode?` takes padding only at
the very end, `decodeGroups?` skips line ends and takes it at the end of any group, so that texts written
one after the other read as one.  Both want zeros for the bits that no byte uses; `decodeLoose?` does not
look at them, so that some bytes can be read from more than one text.
-/

namespace SshTunnel.Base64

/-! ### Digits -/

def digit (n : Nat) : Char :=
  if n < 26 then Char.ofNat (n + 65)
  else if n < 52 then Char.ofNat (n + 71)
  else if n < 62 then Char.ofNat (n - 4)
  else if n = 62 then '+'
  else '/'

def value? (c : Char) : Option Nat :=
  if 'A' ≤ c ∧ c ≤ 'Z' then some (c.toNat - 65)
  else if 'a' ≤ c ∧ c ≤ 'z' then some (c.toNat - 71)
  else if '0' ≤ c ∧ c ≤ '9' then some (c.toNat + 4)
  else if c = '+' then some 62
  else if c = '/' then some 63
  else none

theorem value?_digit {n : Nat} (h : n < 64) : value? (digit n) = some n := by
  revert n; decide

/-! ### Writing -/

def encode : Bytes → List Char
  | [] => []
  | [a] => [digit (a.toNat / 4), digit (a.toNat % 4 * 16), '=', '=']
  | [a, b] =>
    [digit (a.toNat / 4), digit (a.toNat % 4 * 16 + b.toNat / 16), digit (b.toNat % 16 * 4), '=']
  | a :: b :: c :: rest =>
    digit (a.toNat / 4) :: digit (a.toNat % 4 * 16 + b.toNat / 16) ::
      digit (b.toNat % 16 * 4 + c.toNat / 64) :: digit (c.toNat % 64) :: encode rest

/-- The same without the padding. -/
def encodeUnpadded (b : Bytes) : List Char := (encode b).filter (· ≠ '=')

/-! ### Reading -/

/-- The bytes of one group of four characters; bits that no byte uses must be zero unless `loose`. -/
def group? (loose : Bool) (a b c d : Char) : Option Bytes := do
  let a ← value? a
  let b ← value? b
  if c = '=' then
    if d = '=' ∧ (loose ∨ b % 16 = 0) then some [UInt8.ofNat (a * 4 + b / 16)] else none
  else
    let c ← value? c
    if d = '=' then
      if loose ∨ c % 4 = 0 then some [UInt8.ofNat (a * 4 + b / 16), UInt8.ofNat (b % 16 * 16 + c / 4)] else none
    else
      let d ← value? d
      some [UInt8.ofNat (a * 4 + b / 16), UInt8.ofNat (b % 16 * 16 + c / 4), UInt8.ofNat (c % 4 * 64 + d)]

/-- Reads whole groups; a padded one must be the last unless `joined`. -/
def groups? (loose joined : Bool) : List Char → Option Bytes
  | [] => some []
  | a :: b :: c :: d :: rest => do
    let g ← group? loose a b c d
    if d = '=' ∧ joined = false ∧ rest ≠ [] then none
    else return g ++ (← groups? loose joined rest)
  | _ => none

def decode? (s : List Char) : Option Bytes := groups? false false s

def decodeLoose? (s : List Char) : Option Bytes := groups? true false s

def decodeGroups? (s : List Char) : Option Bytes :=
  groups? false true (s.filter fun c => c ≠ '\r' ∧ c ≠ '\n')

end SshTunnel.Base64
