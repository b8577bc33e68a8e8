import SshTunnel.Key.Public

/-!
Private keys of users, how they are read from a text, and why a text may not be taken for one.
-/

namespace SshTunnel

inductive PrivateKey
  | ed25519 (seed point : Bytes)
  | ecdsa (curve : Curve.Nist) (secret point : Bytes)
  | rsa (e n : Bytes) (secret : List Bytes)
  | dsa (p q g y secret : Bytes)
  /-- A key held by a security key, by the handle that the device knows it by. -/
  | heldEd25519 (point application : Bytes) (flags : UInt8) (handle : Bytes)
  | heldEcdsa (point application : Bytes) (flags : UInt8) (handle : Bytes)
  | named (algorithm : PublicKey.DomainName) (body secret : Bytes)
deriving DecidableEq, Repr

namespace PrivateKey

def publicKey : PrivateKey → PublicKey
  | ed25519 _ p => .ed25519 p
  | ecdsa c _ p => .ecdsa c p
  | rsa e n _ => .rsa e n
  | dsa p q g y _ => .dsa p q g y
  | heldEd25519 p a _ _ => .heldEd25519 p a
  | heldEcdsa p a _ _ => .heldEcdsa p a
  | named a b _ => .named a b

/-- What a key library makes of a text and a passphrase: the private key that the text holds, decrypted where it
has to be, or in words why there is none. -/
abbrev Decoder := String → Option String → Except String PrivateKey

/-- Why a text is not read as a key. -/
inductive Fault
  | unreadable
  /-- Words in the text stand for nothing known. -/
  | notUnderstood (words : String)
  /-- It is encrypted under one of the older schemes. -/
  | oldEncryption
  /-- It is said to be encrypted, but no key can come from the passphrase. -/
  | notEncrypted
deriving DecidableEq, Repr

/-- A fault in words; words that were not understood are repeated. -/
def Fault.text : Fault → String
  | unreadable => "could not read key"
  | notUnderstood w => "not understood: '" ++ w ++ "'"
  | oldEncryption => "password-based encryption of the older kind is not supported"
  | notEncrypted => "key is already decrypted"

def Fault.ofWire : Wire.Fault → Fault
  | .malformed => unreadable
  | .unknownLabel l => notUnderstood l

end PrivateKey

/-- A key on a curve from its secret; a public point that comes with it must be the right one. -/
def PrivateKey.ofSecret? (c : Curve.Nist) (secret : Bytes) (point : Option Bytes) : Option PrivateKey :=
  let n := Bytes.toNat secret
  if secret.length < 24 ∨ c.size < secret.length ∨ n = 0 ∨ c.order ≤ n then none
  else
    let q := c.publicPoint n
    if point.all fun p => p = c.encode q ∨ p = c.encodeShort q then
      some (ecdsa c (Bytes.ofNat c.size n) (c.encode q))
    else none

end SshTunnel
