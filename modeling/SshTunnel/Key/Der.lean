import SshTunnel.Key.Wire

/-!
DER, as far as private keys need it: elements with a tag and the shortest form of a length.  Elements that
are only placed by their number in the context are looked for in order of these numbers.
-/

namespace SshTunnel.Der

open Wire

/-- The tags of the universal types that are known; numbers above 30 would need a longer form of tag. -/
def isTag (tag : UInt8) : Bool :=
  if tag < 0x40 then
    [0x01, 0x02, 0x03, 0x04, 0x05, 0x06, 0x09, 0x0a, 0x0c, 0x12, 0x13, 0x14, 0x15, 0x16, 0x17, 0x18, 0x1a,
      0x1e, 0x30, 0x31].contains tag
  else tag &&& 0x1f ≠ 0x1f

/-- A length in its shortest form. -/
def length : Reader Nat := do
  match ← take 1 with
  | [x] =>
    if x < 128 then return x.toNat
    else
      let k := x.toNat - 128
      if k = 0 ∨ 4 < k then fail
      let n := Bytes.toNat (← take k)
      if n < 128 ∨ n < Nat.pow 256 (k - 1) then fail else return n
  | _ => fail

/-- Any element: its tag and contents. -/
def any : Reader (UInt8 × Bytes) := do
  match ← take 1 with
  | [tag] => if isTag tag then return (tag, ← take (← length)) else fail
  | _ => fail

def element (tag : UInt8) : Reader Bytes := do
  let (t, b) ← any
  if t = tag then return b else fail

/-- All of some bytes, read as the contents of an element. -/
def contents {α : Type} (read : Reader α) (b : Bytes) : Reader α := fun rest =>
  (whole read b).map fun a => (a, rest)

def sequence {α : Type} (read : Reader α) : Reader α := do contents read (← element 0x30)

def octets : Reader Bytes := element 0x04

/-- The contents of a bit string of whole bytes. -/
def wholeBits : Bytes → Reader Bytes
  | 0 :: rest => return rest
  | _ => fail

def bits : Reader Bytes := do wholeBits (← element 0x03)

def smallNat : Reader Nat := do
  match ← element 0x02 with
  | [x] => if x < 128 then return x.toNat else fail
  | _ => fail

/-- A whole number from 0 to 65535. -/
def nat16 : Reader Nat := do
  match ← element 0x02 with
  | [x] => if x < 128 then return x.toNat else fail
  | [x, y] => if x < 128 ∧ (x ≠ 0 ∨ 128 ≤ y) then return Bytes.toNat [x, y] else fail
  | [0, x, y] => if 128 ≤ x then return Bytes.toNat [x, y] else fail
  | _ => fail

/-! ### Elements by their number in the context -/

def isContextual (tag : UInt8) : Bool := tag &&& 0xc0 = 0x80

def number (tag : UInt8) : UInt8 := tag &&& 0x1f

/-- The element with number `n` if it comes next; those with smaller numbers before it are skipped.
`fuel` bounds how many. -/
def contextualWith : Nat → UInt8 → Reader (Option (UInt8 × Bytes))
  | 0, _ => fail
  | fuel + 1, n => do
    match (← get).head? with
    | none => return none
    | some tag =>
      if isTag tag = false then fail
      else if isContextual tag = false ∨ n < number tag then return none
      else
        let e ← any
        if number tag = n then return some e else contextualWith fuel n

def contextual (n : UInt8) : Reader (Option (UInt8 × Bytes)) := do
  contextualWith ((← get).length + 1) n

/-- The same for an element that holds another one, which is read. -/
def wrapped {α : Type} (n : UInt8) (read : Reader α) : Reader (Option α) := do
  match ← contextual n with
  | none => return none
  | some (tag, b) => if tag = 0xa0 ||| n then return some (← contents read b) else fail

/-- The same for a bit string whose own tag is replaced by the number. -/
def retaggedBits (n : UInt8) : Reader (Option Bytes) := do
  match ← contextual n with
  | none => return none
  | some (tag, b) => if tag = 0x80 ||| n then return some (← wholeBits b) else fail

/-- Elements to the end, each with a number in the context and holding one other element; none of them
means anything here. -/
def skipWrapped : Nat → Reader Unit
  | 0 => fail
  | fuel + 1 => do
    if (← get) = [] then return
    let (tag, b) ← any
    if tag &&& 0xe0 ≠ 0xa0 then fail
    discard (contents any b)
    skipWrapped fuel

/-! ### Object identifiers -/

/-- The numbers of an identifier after the first two: seven bits a byte, less than 2^32. -/
def areArcs (used : Nat) : Bytes → Bool
  | [] => used = 0
  | x :: rest =>
    if 4 ≤ used ∧ 16 ≤ x then false
    else areArcs (if 128 ≤ x then used + 1 else 0) rest

/-- An identifier of three to 39 bytes; its first byte stands for two numbers. -/
def objectId : Reader Bytes := do
  let b ← element 0x06
  if b.length < 3 ∨ 39 < b.length ∨ 120 ≤ b.headD 0 ∨ areArcs 0 b.tail = false then fail else return b

def ed25519Id : Bytes := [0x2b, 0x65, 0x70]

def ecPublicKeyId : Bytes := [0x2a, 0x86, 0x48, 0xce, 0x3d, 0x02, 0x01]

def p256Id : Bytes := [0x2a, 0x86, 0x48, 0xce, 0x3d, 0x03, 0x01, 0x07]

def p384Id : Bytes := [0x2b, 0x81, 0x04, 0x00, 0x22]

def p521Id : Bytes := [0x2b, 0x81, 0x04, 0x00, 0x23]

/-- The older schemes of encryption by password differ only in the last number. -/
def isOldPasswordScheme (b : Bytes) : Bool :=
  b.dropLast = [0x2a, 0x86, 0x48, 0x86, 0xf7, 0x0d, 0x01, 0x05] &&
    [1, 3, 4, 6, 10, 11].contains (b.getLastD 0)

end SshTunnel.Der
