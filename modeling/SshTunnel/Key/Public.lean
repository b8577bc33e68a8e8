import SshTunnel.Bytes.Base64
import SshTunnel.Curve.Nist
import SshTunnel.Digest.Sha256
import SshTunnel.Key.Wire

/-!
Public keys of hosts and users: their encoding as bytes, their algorithm and their fingerprint.  Reading
skips what follows a key, so a key has one encoding, the one it is written in.
-/

namespace SshTunnel

namespace PublicKey

/-- The longest name of an algorithm. -/
def maxNameLength : Nat := 64

/-- A name with one `@` between two nonempty parts, in ASCII and not too long. -/
def isDomainName (s : String) : Bool :=
  let (name, domain) := s.toList.span (· ≠ '@')
  s.toList.all (fun c => c.toNat < 128) && s.length ≤ maxNameLength && !name.isEmpty && 1 < domain.length &&
    !domain.tail.contains '@'

structure DomainName where
  text : String
  isName : isDomainName text
deriving DecidableEq, Repr

end PublicKey

inductive PublicKey
  | rsa (e n : Bytes)
  | dsa (p q g y : Bytes)
  | ecdsa (curve : Curve.Nist) (point : Bytes)
  | ed25519 (point : Bytes)
  /-- A key held by a security key, with the application it is for. -/
  | heldEd25519 (point application : Bytes)
  | heldEcdsa (point application : Bytes)
  /-- A key of an algorithm that is only known by a name with a domain. -/
  | named (algorithm : PublicKey.DomainName) (body : Bytes)
deriving DecidableEq, Repr

namespace PublicKey

def algorithm : PublicKey → String
  | rsa .. => "ssh-rsa"
  | dsa .. => "ssh-dss"
  | ecdsa c _ => "ecdsa-sha2-" ++ c.name
  | ed25519 _ => "ssh-ed25519"
  | heldEd25519 .. => "sk-ssh-ed25519@openssh.com"
  | heldEcdsa .. => "sk-ecdsa-sha2-nistp256@openssh.com"
  | named a _ => a.text

/-! ### Bytes -/

def encode (k : PublicKey) : Bytes :=
  Wire.putString (Text.encode k.algorithm) ++
    match k with
    | rsa e n => Wire.putString e ++ Wire.putString n
    | dsa p q g y => Wire.putString p ++ Wire.putString q ++ Wire.putString g ++ Wire.putString y
    | ecdsa c p => Wire.putString (Text.encode c.name) ++ Wire.putString p
    | ed25519 p => Wire.putString p
    | heldEd25519 p a => Wire.putString p ++ Wire.putString a
    | heldEcdsa p a =>
      Wire.putString (Text.encode Curve.Nist.p256.name) ++ Wire.putString p ++ Wire.putString a
    | named _ b => Wire.putString b

/-- The names of algorithms that have no domain. -/
def plainNames : List String := [
  "ssh-rsa", "rsa-sha2-256", "rsa-sha2-512", "ssh-dss", "ssh-ed25519", "ecdsa-sha2-nistp256",
  "ecdsa-sha2-nistp384", "ecdsa-sha2-nistp521"]

/-- Whether a name is one of an algorithm, known or not. -/
def isAlgorithm (name : String) : Bool := plainNames.contains name || isDomainName name

/-- A curve and a point on it, which is not checked to fulfil the equation. -/
def readPoint : Wire.Reader (Curve.Nist × Bytes) := do
  let name ← Wire.label
  match Curve.Nist.ofName? name with
  | none => Wire.unknown name
  | some c =>
    let p ← Wire.string
    if c.isPoint p then return (c, p) else Wire.fail

/-- A point of the one curve that security keys use; any form of point will do. -/
def readHeldPoint : Wire.Reader Bytes := do
  let name ← Wire.label
  match Curve.Nist.ofName? name with
  | none => Wire.unknown name
  | some .p256 =>
    let p ← Wire.string
    if Curve.Nist.p256.isAnyPoint p then return p else Wire.fail
  | some _ => Wire.fail

/-- An application, which must be a text. -/
def readApplication : Wire.Reader Bytes := do return Text.encode (← Wire.text)

/-- The fields of a key after the name of its algorithm. -/
def readFields (algorithm : String) : Wire.Reader PublicKey :=
  match algorithm with
  | "ssh-rsa" | "rsa-sha2-256" | "rsa-sha2-512" => do return rsa (← Wire.integer) (← Wire.integer)
  | "ssh-dss" => do return dsa (← Wire.integer) (← Wire.integer) (← Wire.integer) (← Wire.integer)
  | "ssh-ed25519" => do return ed25519 (← Wire.fixed 32)
  | "ecdsa-sha2-nistp256" | "ecdsa-sha2-nistp384" | "ecdsa-sha2-nistp521" => do
    let (c, p) ← readPoint
    if "ecdsa-sha2-" ++ c.name = algorithm then return ecdsa c p else Wire.fail
  | "sk-ssh-ed25519@openssh.com" => do return heldEd25519 (← Wire.fixed 32) (← readApplication)
  | "sk-ecdsa-sha2-nistp256@openssh.com" => do return heldEcdsa (← readHeldPoint) (← readApplication)
  | name => do
    if h : isDomainName name then return named ⟨name, h⟩ (← Wire.string) else Wire.unknown name

def read : Wire.Reader PublicKey := do readFields (← Wire.label)

/-- The key at the start of some bytes. -/
def decode? (b : Bytes) : Option PublicKey := (read.run b).toOption.map Prod.fst

/-- A key that some bytes are read as. -/
def Legible (k : PublicKey) : Prop := ∃ b, decode? b = some k

/-! ### Texts -/

/-- The key as base64, as key files and trust stores hold it. -/
def base64 (k : PublicKey) : String := String.ofList (Base64.encode k.encode)

/-- The key written as base64. -/
def ofBase64? (s : String) : Option PublicKey := (Base64.decodeGroups? s.toList).bind decode?

end PublicKey

/-- How bytes are shown to be compared by eye. -/
def fingerprint (b : Bytes) : String :=
  "SHA256:" ++ String.ofList (Base64.encodeUnpadded (Digest.sha256 b))

def PublicKey.fingerprint (k : PublicKey) : String := SshTunnel.fingerprint k.encode

end SshTunnel
