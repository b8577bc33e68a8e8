import SshTunnel.Decimal.Numeral
import SshTunnel.Digest.Hmac
import SshTunnel.Digest.Sha1
import SshTunnel.Key.Private
import SshTunnel.Text.Blank

/-!
Key files of PuTTY, versions 2 and 3: a head line, then lines `Name: value`.  A name that ends in `-Lines`
announces lines of base64, which hold the public and the private part.  An authentication code covers all
that matters.  Encrypted files are recognised but not decrypted.
-/

namespace SshTunnel.PrivateKey

def puttyHead : List Char := "PuTTY-User-Key-File-".toList

structure PuttyFile where
  version : Nat
  algorithm : String
  /-- Values by name, the latest first. -/
  values : List (String × String) := []
  publicPart : Option Bytes := none
  privatePart : Option Bytes := none

namespace PuttyFile

/-! ### Lines -/

/-- A line before and after its first colon that a space follows. -/
def cut? : List Char → Option (List Char × List Char)
  | ':' :: ' ' :: s => some ([], s)
  | c :: s => (cut? s).map fun (a, b) => (c :: a, b)
  | [] => none

/-- The version and the algorithm that the head line names. -/
def ofHead (line : List Char) : Except Fault PuttyFile :=
  let unclear : Fault := .notUnderstood (String.ofList line)
  match if puttyHead.isPrefixOf line then cut? (line.drop puttyHead.length) else none with
  | none => .error unclear
  | some (version, algorithm) => match numeral? 256 version with
    | none => .error unclear
    | some v =>
      if v ≠ 2 ∧ v ≠ 3 then .error .unreadable
      else if PublicKey.isAlgorithm (String.ofList algorithm) then
        .ok { version := v, algorithm := String.ofList algorithm }
      else .error unclear

/-- The names of single values. -/
def valueNames : List String := [
  "Encryption", "Comment", "Private-MAC", "Key-Derivation", "Argon2-Memory", "Argon2-Passes",
  "Argon2-Parallelism", "Argon2-Salt"]

def putValue (f : PuttyFile) (name value : String) : Except Fault PuttyFile :=
  if valueNames.contains name then .ok { f with values := (name, value) :: f.values }
  else .error (.notUnderstood name)

def putPart (f : PuttyFile) (name : String) (b : Bytes) : Except Fault PuttyFile :=
  if name = "Public-Lines" then .ok { f with publicPart := some b }
  else if name = "Private-Lines" then .ok { f with privatePart := some b }
  else .error (.notUnderstood name)

/-- The bytes in as many lines as are announced, and their number. -/
def part? (count : List Char) (lines : List (List Char)) : Option (Nat × Bytes) := do
  let n ← numeral? UInt64.size count
  let body := lines.take n
  if body.length < n then none
  return (n, ← Base64.decodeLoose? body.flatten)

/-- Takes in the lines after the head. -/
def read (f : PuttyFile) : List (List Char) → Except Fault PuttyFile
  | [] => .ok f
  | line :: lines => match cut? line with
    | none => .error (.notUnderstood (String.ofList line))
    | some (name, value) =>
      if "-Lines".toList.isSuffixOf name then match part? value lines with
        | none => .error .unreadable
        | some (n, b) => (f.putPart (String.ofList name) b).bind fun f => f.read (lines.drop n)
      else (f.putValue (String.ofList name) (String.ofList value)).bind fun f => f.read lines
termination_by lines => lines.length
decreasing_by
  all_goals simp only [List.length_drop, List.length_cons]; omega

/-! ### What the lines mean -/

/-- A value, empty if it is missing. -/
def value (f : PuttyFile) (name : String) : String := (f.values.lookup name).getD ""

/-- The ways from a passphrase to a key. -/
def derivations : List String := ["Argon2id", "Argon2i", "Argon2d"]

/-- What stands against the way from a passphrase to a key, which only version 3 names. -/
def derivationFault (f : PuttyFile) : Fault :=
  match f.values.lookup "Key-Derivation" with
  | some d => if f.version = 2 ∨ derivations.contains d then .unreadable else .notUnderstood d
  | none => .unreadable

/-- What stands against a file that is or claims to be encrypted; no encryption is nothing against it. -/
def encryptionFault? (f : PuttyFile) (passphrase : Option String) : Option Fault :=
  match f.values.lookup "Encryption" with
  | none | some "none" => none
  | some "aes256-cbc" => some (if passphrase.isSome then f.derivationFault else .unreadable)
  | some name => some (.notUnderstood name)

/-- The key of version 2's authentication code; version 3 has an empty one. -/
def codeKey : Bytes := Digest.sha1 (Bytes.ofAscii "putty-private-key-file-mac-key")

/-- The authentication code of a file with these parts. -/
def code (f : PuttyFile) (publicPart privatePart : Bytes) : Bytes :=
  let texts := [f.algorithm, f.value "Encryption", f.value "Comment"].map Text.encode
  let message := ((texts ++ [publicPart, privatePart]).map Wire.putString).flatten
  if f.version = 2 then Digest.hmac Digest.sha1 codeKey message else Digest.hmac Digest.sha256 [] message

/-- A seed of at most 32 bytes, in the form of a whole number; a shorter one is filled up with zeros. -/
def readSeed : Wire.Reader Bytes := do
  let b ← Wire.integer
  if 32 < b.length then Wire.fail else return b ++ List.replicate (32 - b.length) 0

/-- The secret number of a curve, which must be one that the curve has. -/
def readNumber (c : Curve.Nist) : Wire.Reader Bytes := do
  let b ← Wire.integer
  if b = [] ∨ 128 ≤ b.headD 0 then Wire.fail
  match ofSecret? c (if b.head? = some 0 then b.tail else b) none with
  | some (.ecdsa _ s _) => return s
  | _ => Wire.fail

/-- The private part that belongs to a public key; RSA keys are not taken in this form. -/
def readPrivate (k : PublicKey) : Wire.Reader PrivateKey :=
  match k with
  | .ed25519 p => do return ed25519 (← readSeed) p
  | .ecdsa c p => do return ecdsa c (← readNumber c) p
  | .dsa p q g y => do return dsa p q g y (← Wire.integer)
  | _ => Wire.fail

/-- The algorithms of keys that may come in this form. -/
def algorithms : List String := [
  "ssh-dss", "ssh-ed25519", "ecdsa-sha2-nistp256", "ecdsa-sha2-nistp384", "ecdsa-sha2-nistp521"]

/-- The key that the two parts hold; the algorithm has to be that of the head. -/
def keyOf (algorithm : String) (publicPart privatePart : Bytes) : Except Fault PrivateKey := do
  let k ← (Wire.whole PublicKey.read publicPart).mapError Fault.ofWire
  if algorithms.contains algorithm = false then throw (.notUnderstood algorithm)
  if k.algorithm ≠ algorithm then throw .unreadable
  let (k, _) ← ((readPrivate k).run privatePart).mapError Fault.ofWire
  return k

/-- The key of a file, whose authentication code must be right. -/
def key (f : PuttyFile) (passphrase : Option String) : Except Fault PrivateKey :=
  match f.encryptionFault? passphrase, f.publicPart, f.privatePart with
  | some e, _, _ => .error e
  | none, some publicPart, some privatePart =>
    if Bytes.ofHex? (f.value "Private-MAC").toList = some (f.code publicPart privatePart) then
      keyOf f.algorithm publicPart privatePart
    else .error .unreadable
  | none, _, _ => .error .unreadable

end PuttyFile

/-- Whether a text is to be read as a file of this kind; blanks before the head do not count, but make the
head a bad one. -/
def isPutty (text : List Char) : Bool := puttyHead.isPrefixOf (Text.trimStart text)

/-- The key in the lines of a file of this kind. -/
def ofPuttyLines (lines : List (List Char)) (passphrase : Option String) : Except Fault PrivateKey := do
  let f ← PuttyFile.ofHead (lines.headD [])
  let f ← f.read lines.tail
  f.key passphrase

end SshTunnel.PrivateKey
