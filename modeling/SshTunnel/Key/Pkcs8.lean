import SshTunnel.Key.Der
import SshTunnel.Key.Private

/-!
Private keys in DER: in PKCS #8, which names the algorithm, or by themselves as a key on a curve.  PKCS #8
with encryption is recognised but not decrypted.
-/

namespace SshTunnel.PrivateKey

open Wire

def curveOf? (id : Bytes) : Option Curve.Nist :=
  if id = Der.p256Id then some .p256
  else if id = Der.p384Id then some .p384
  else if id = Der.p521Id then some .p521
  else none

/-- A key on a curve as it is written: the secret, the curve and the public point. -/
structure CurveKey where
  secret : Bytes
  curve : Option Bytes
  point : Option Bytes
deriving DecidableEq, Repr

def readCurveKey : Reader CurveKey := Der.sequence do
  if (← Der.smallNat) ≠ 1 then fail
  return ⟨← Der.octets, ← Der.wrapped 0 Der.objectId, ← Der.wrapped 1 Der.bits⟩

/-- An algorithm by its identifier, and its parameters. -/
def readAlgorithm : Reader (Bytes × Option (UInt8 × Bytes)) := Der.sequence do
  let id ← Der.objectId
  if (← get) = [] then return (id, none) else return (id, some (← Der.any))

/-- A key that names its algorithm, as it is written. -/
structure NamedKey where
  algorithm : Bytes
  parameters : Option (UInt8 × Bytes)
  key : Bytes
  point : Option Bytes
deriving DecidableEq, Repr

/-- Version 1 is for keys with a public part, version 0 for those without. -/
def readNamedKey : Reader NamedKey := Der.sequence do
  let version ← Der.smallNat
  let (algorithm, parameters) ← readAlgorithm
  let key ← Der.octets
  let point ← Der.retaggedBits 1
  if 1 < version ∨ (version = 1) ≠ point.isSome then fail
  Der.skipWrapped ((← get).length + 1)
  return { algorithm, parameters, key, point }

/-- An Ed25519 key is made from its seed; of a public part only the length counts. -/
def NamedKey.ed25519? (k : NamedKey) : Option PrivateKey :=
  match k.key with
  | 0x04 :: 0x20 :: seed =>
    if seed.length = 32 ∧ k.parameters = none ∧ k.point.all (·.length = 32) then
      some (ed25519 seed (Curve.Edwards.publicKey seed))
    else none
  | _ => none

/-- The curve is the one that the parameters name. -/
def NamedKey.ecdsa? (k : NamedKey) : Option PrivateKey := do
  let (tag, id) ← k.parameters
  if tag ≠ 0x06 then none
  let inner ← (whole readCurveKey k.key).toOption
  ofSecret? (← curveOf? id) inner.secret inner.point

def NamedKey.privateKey? (k : NamedKey) : Option PrivateKey :=
  if k.algorithm = Der.ed25519Id then k.ed25519?
  else if k.algorithm = Der.ecPublicKeyId then k.ecdsa?
  else none

/-- A key in DER, with its algorithm named or by itself. -/
def ofDer? (b : Bytes) : Option PrivateKey :=
  match whole readNamedKey b with
  | .ok k => k.privateKey?
  | .error _ => do
    let k ← (whole readCurveKey b).toOption
    ofSecret? (← curveOf? (← k.curve)) k.secret k.point

/-- The parameters of an older scheme of encryption: eight bytes of salt and a count. -/
def readOldParameters : Reader Unit := do
  if (← Der.octets).length ≠ 8 then fail
  discard Der.nat16

/-- A key that is encrypted under one of the older schemes. -/
def readOldEncryption : Reader Unit := Der.sequence do
  match ← readAlgorithm with
  | (id, some (0x30, p)) =>
    if Der.isOldPasswordScheme id = false then fail
    Der.contents readOldParameters p
    discard Der.octets
  | _ => fail

/-- What decrypting DER comes to: older schemes are refused by name, and of the others none gives a key. -/
def decryptionFault (b : Bytes) : Fault :=
  match whole readOldEncryption b with
  | .ok () => .oldEncryption
  | .error _ => .unreadable

end SshTunnel.PrivateKey
