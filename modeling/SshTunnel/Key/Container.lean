import SshTunnel.Key.Private

/-!
OpenSSH containers of private keys: how the key is encrypted, its public part, and the part that is
encrypted or not.  An encrypted part is recognised but not decrypted.
-/

namespace SshTunnel.PrivateKey

open Wire

/-! ### Pairs of a public and a private key -/

/-- A pair of an Ed25519 seed and its point, which must belong together. -/
def readEdwardsPair : Reader PrivateKey := do
  let point ← fixed 32
  let pair ← fixed 64
  let seed := pair.take 32
  if pair.drop 32 = point ∧ Curve.Edwards.publicKey seed = point then return ed25519 seed point else fail

/-- The secret number of a curve: as long as a coordinate, with a zero byte in front or not.  On the largest
curve up to two bytes may be missing at the end. -/
def readSecret (c : Curve.Nist) : Reader Bytes := do
  let n ← length
  within n do
    if n = c.size + 1 then
      if (← take 1) ≠ [0] then fail
    match c with
    | .p521 => if n < 64 then fail else take (min n c.size)
    | _ => take c.size

/-- The flags and the handle of a key that a security key holds; a reserved field follows. -/
def readHandle : Reader (UInt8 × Bytes) := do
  match ← take 1 with
  | [flags] =>
    let handle ← string
    discard string
    return (flags, handle)
  | _ => fail

/-- A pair begins with the public key, but for the order of the numbers of an RSA key. -/
def readPair : Reader PrivateKey := do
  let algorithm ← label
  match algorithm with
  | "ssh-ed25519" => readEdwardsPair
  | "ssh-rsa" | "rsa-sha2-256" | "rsa-sha2-512" => do
    let n ← integer
    let e ← integer
    return rsa e n (← (List.replicate 4 ()).mapM fun _ => integer)
  | _ => match ← PublicKey.readFields algorithm with
    | .ecdsa c p => return ecdsa c (← readSecret c) p
    | .dsa p q g y => return dsa p q g y (← integer)
    | .heldEd25519 p a => do
      let (flags, handle) ← readHandle
      return heldEd25519 p a flags handle
    | .heldEcdsa p a => do
      let (flags, handle) ← readHandle
      return heldEcdsa p a flags handle
    | .named name b => return named name b (← string)
    | .ed25519 _ | .rsa .. => fail

/-! ### Encryption -/

/-- How a container is encrypted: the size of a block, and whether 16 bytes of authentication follow. -/
structure Cipher where
  blockSize : Nat
  hasTag : Bool
deriving DecidableEq, Repr

def ciphers : List (String × Cipher) := [
  ("aes128-cbc", ⟨16, false⟩), ("aes192-cbc", ⟨16, false⟩), ("aes256-cbc", ⟨16, false⟩),
  ("aes128-ctr", ⟨16, false⟩), ("aes192-ctr", ⟨16, false⟩), ("aes256-ctr", ⟨16, false⟩),
  ("aes128-gcm@openssh.com", ⟨16, true⟩), ("aes256-gcm@openssh.com", ⟨16, true⟩),
  ("chacha20-poly1305@openssh.com", ⟨8, true⟩), ("3des-cbc", ⟨8, false⟩)]

/-- The cipher, if there is one. -/
def readCipher : Reader (Option Cipher) := do
  let name ← label
  if name = "none" then return none
  match ciphers.lookup name with
  | some c => return some c
  | none => unknown name

/-- Whether a key is derived from a passphrase. -/
def readDerivation : Reader Bool := do
  match ← label with
  | "none" => if (← length) = 0 then return false else fail
  | "bcrypt" => inside do
    discard string
    discard nat32
    return true
  | name => unknown name

/-! ### Containers -/

/-- The bytes 1, 2, 3 … that fill up the last block. -/
def isFiller (b : Bytes) : Bool := b.length ≤ 16 && b = (List.range b.length).map fun i => UInt8.ofNat (i + 1)

/-- A part that is not encrypted: two equal numbers, the pair, a comment and filler. -/
def readOpenPart (publicKey : PublicKey) : Reader PrivateKey := do
  let n ← length
  let available := (← get).length
  if n % 8 ≠ 0 then fail
  within n do
    let x ← nat32
    let y ← nat32
    if x ≠ y then fail
    let k ← readPair
    if k.publicKey ≠ publicKey then fail
    discard text
    let filler ← rest
    if n = available ∧ isFiller filler then return k else fail

/-- Passes over an encrypted part. -/
def skipSealedPart (c : Cipher) : Reader Unit := do
  let b ← string
  if b.length % c.blockSize ≠ 0 then fail
  if c.hasTag then discard (take 16)

inductive Container
  | clear (key : PrivateKey)
  /-- Encrypted, with a key derived from a passphrase or not. -/
  | encrypted (derived : Bool)
deriving DecidableEq, Repr

def magic : Bytes := Bytes.ofAscii "openssh-key-v1" ++ [0]

/-- A container with one key. -/
def readContainer : Reader Container := do
  if (← take magic.length) ≠ magic then fail
  let cipher ← readCipher
  let derived ← readDerivation
  if (← length) ≠ 1 then fail
  let publicKey ← inside PublicKey.read
  match cipher with
  | some c =>
    skipSealedPart c
    return .encrypted derived
  | none => if derived then fail else return .clear (← readOpenPart publicKey)

/-- The key in a container.  A passphrase is only looked at if the container is encrypted. -/
def ofContainer (b : Bytes) (passphrase : Option String) : Except Fault PrivateKey :=
  match whole readContainer b with
  | .error f => .error (.ofWire f)
  | .ok (.clear k) => .ok k
  | .ok (.encrypted derived) =>
    if passphrase.isSome ∧ derived = false then .error .notEncrypted else .error .unreadable

end SshTunnel.PrivateKey
