/-!
Rows of bytes, big-endian numbers in them, and hexadecimal text.
-/

namespace SshTunnel

abbrev Bytes := List UInt8

namespace Bytes

/-- The number that bytes stand for, most significant byte first. -/
def toNat (b : Bytes) : Nat := b.foldl (fun n x => n * 256 + x.toNat) 0

/-- The last `len` bytes of a number, most significant first. -/
def ofNat (len : Nat) (n : Nat) : Bytes :=
  match len with
  | 0 => []
  | k + 1 => UInt8.ofNat (n / Nat.pow 256 k) :: ofNat k n

@[simp] theorem length_ofNat (len n : Nat) : (ofNat len n).length = len := by
  induction len with
  | zero => rfl
  | succ k ih => simp [ofNat, ih]

/-- The ASCII characters of a text; other characters lose their high bits. -/
def ofAscii (s : String) : Bytes := s.toList.map fun c => UInt8.ofNat c.toNat

def hexDigit (n : Nat) : Char := if n < 10 then Char.ofNat (n + 48) else Char.ofNat (n + 87)

/-- Two lower-case digits for each byte. -/
def hex (b : Bytes) : String :=
  String.ofList (b.flatMap fun x => [hexDigit (x.toNat / 16), hexDigit (x.toNat % 16)])

def hexValue? (c : Char) : Option Nat :=
  if '0' ≤ c ∧ c ≤ '9' then some (c.toNat - 48)
  else if 'a' ≤ c ∧ c ≤ 'f' then some (c.toNat - 87)
  else if 'A' ≤ c ∧ c ≤ 'F' then some (c.toNat - 55)
  else none

/-- The bytes of hexadecimal text, in digits of either case. -/
def ofHex? : List Char → Option Bytes
  | [] => some []
  | a :: b :: rest => do return UInt8.ofNat ((← hexValue? a) * 16 + (← hexValue? b)) :: (← ofHex? rest)
  | [_] => none

end Bytes

end SshTunnel
