import SshTunnel.Curve.Edwards

/-!
The NIST curves y² = x³ - 3x + b over a prime field, of 256, 384 and 521 bits, and the public keys on them.
-/

namespace SshTunnel.Curve

inductive Nist
  | p256
  | p384
  | p521
deriving DecidableEq, Repr

namespace Nist

def name : Nist → String
  | p256 => "nistp256"
  | p384 => "nistp384"
  | p521 => "nistp521"

def all : List Nist := [p256, p384, p521]

def ofName? (s : String) : Option Nist := all.find? fun c => c.name = s

/-- Bytes of a coordinate. -/
def size : Nist → Nat
  | p256 => 32
  | p384 => 48
  | p521 => 66

def field : Nist → Nat
  | p256 => Nat.pow 2 256 - Nat.pow 2 224 + Nat.pow 2 192 + Nat.pow 2 96 - 1
  | p384 => Nat.pow 2 384 - Nat.pow 2 128 - Nat.pow 2 96 + Nat.pow 2 32 - 1
  | p521 => Nat.pow 2 521 - 1

/-- The number of points of the group. -/
def order : Nist → Nat
  | p256 => 0xffffffff00000000ffffffffffffffffbce6faada7179e84f3b9cac2fc632551
  | p384 =>
    0xffffffffffffffffffffffffffffffffffffffffffffffffc7634d81f4372ddf581a0db248b0a77aecec196accc52973
  | p521 => Nat.pow 2 521 - 657877501894328237357444332315020117536923257219387276263472201219398408051703

/-- The x and y coordinates of the generator. -/
def generator : Nist → Nat × Nat
  | p256 => (0x6b17d1f2e12c4247f8bce6e563a440f277037d812deb33a0f4a13945d898c296,
      0x4fe342e2fe1a7f9b8ee7eb4a7c0f9e162bce33576b315ececbb6406837bf51f5)
  | p384 => (
      0xaa87ca22be8b05378eb1c71ef320ad746e1d3b628ba79b9859f741e082542a385502f25dbf55296c3a545e3872760ab7,
      0x3617de4a96262c6f5d9e98bf9292dc29f8f41dbd289a147ce9da3113b5f0b8c00a60b1ce1d7e819d7a431d7c90ea0e5f)
  | p521 => (
      2661740802050217063228768716723360960729859168756973147706671368418802944996427808491545080627771902352094241225065558662157113545570916814161637315895999846,
      3757180025770020463545507224491183603594455134769762486694567779615544477440556316691234405012945539562144444537289428522585666729196580810124344277578376784)

/-- A point in Jacobian coordinates: x = X / Z², y = Y / Z³, and Z = 0 for the neutral point. -/
structure Point where
  x : Nat
  y : Nat
  z : Nat

def neutral : Point := ⟨1, 1, 0⟩

def sub (p a b : Nat) : Nat := (a + p - b % p) % p

def double (p : Nat) (a : Point) : Point :=
  let delta := a.z * a.z % p
  let gamma := a.y * a.y % p
  let beta := a.x * gamma % p
  let alpha := 3 * (sub p a.x delta) * (a.x + delta) % p
  let x := sub p (alpha * alpha % p) (8 * beta)
  let z := sub p (sub p ((a.y + a.z) * (a.y + a.z) % p) gamma) delta
  let y := sub p (alpha * sub p (4 * beta) x % p) (8 * gamma * gamma)
  ⟨x, y, z⟩

def add (p : Nat) (a b : Point) : Point :=
  if a.z = 0 then b
  else if b.z = 0 then a
  else
    let za := a.z * a.z % p
    let zb := b.z * b.z % p
    let ua := a.x * zb % p
    let ub := b.x * za % p
    let sa := a.y * b.z % p * zb % p
    let sb := b.y * a.z % p * za % p
    if ua = ub then if sa = sb then double p a else neutral
    else
      let h := sub p ub ua
      let i := 4 * h * h % p
      let j := h * i % p
      let r := 2 * sub p sb sa % p
      let v := ua * i % p
      let x := sub p (sub p (r * r % p) j) (2 * v)
      let y := sub p (r * sub p v x % p) (2 * sa * j)
      ⟨x, y, 2 * a.z * b.z % p * h % p⟩

/-- A multiple of a point, by doubling; `fuel` bounds the binary digits of the factor. -/
def multiple (p : Nat) : Nat → Nat → Point → Point
  | 0, _, _ => neutral
  | fuel + 1, n, a =>
    if n = 0 then neutral
    else
      let rest := multiple p fuel (n / 2) (double p a)
      if n % 2 = 1 then add p a rest else rest

/-- The public point of a secret number, as x and y. -/
def publicPoint (c : Nist) (secret : Nat) : Nat × Nat :=
  let p := c.field
  let g := c.generator
  let q := multiple p (8 * c.size) secret ⟨g.1, g.2, 1⟩
  let inv := invMod p q.z
  let inv₂ := inv * inv % p
  (q.x * inv₂ % p, q.y * inv₂ % p * inv % p)

/-- A point in full: the tag 4 and both coordinates. -/
def encode (c : Nist) (q : Nat × Nat) : Bytes := 4 :: Bytes.ofNat c.size q.1 ++ Bytes.ofNat c.size q.2

/-- A point by x and the parity of y. -/
def encodeShort (c : Nist) (q : Nat × Nat) : Bytes := UInt8.ofNat (2 + q.2 % 2) :: Bytes.ofNat c.size q.1

/-- Whether bytes have the form of a point other than the neutral one; the curve is not looked at. -/
def isPoint (c : Nist) (b : Bytes) : Bool :=
  match b with
  | 4 :: rest => rest.length == 2 * c.size
  | 2 :: rest => rest.length == c.size
  | 3 :: rest => rest.length == c.size
  | _ => false

/-- The same, but the neutral point and a point by x alone are taken as well. -/
def isAnyPoint (c : Nist) (b : Bytes) : Bool :=
  c.isPoint b || match b with
    | 0 :: rest => rest.isEmpty
    | 5 :: rest => rest.length == c.size
    | _ => false

end Nist

end SshTunnel.Curve
