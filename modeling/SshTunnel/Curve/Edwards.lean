import SshTunnel.Digest.Sha512

/-!
Ed25519 public keys.  The secret seed gives a number by SHA-512; the key is that multiple of the base
point of the curve -x² + y² = 1 + d x² y² over the field of 2^255 - 19 elements, by its y coordinate and
the parity of x.
-/

namespace SshTunnel.Curve

/-- A power modulo `p`, by squaring; `fuel` bounds the binary digits of the exponent. -/
def powMod (p : Nat) : Nat → Nat → Nat → Nat
  | 0, _, _ => 1 % p
  | fuel + 1, b, e =>
    if e = 0 then 1 % p
    else
      let half := powMod p fuel (b * b % p) (e / 2)
      if e % 2 = 1 then b * half % p else half

/-- The inverse modulo a prime; 0 for 0. -/
def invMod (p a : Nat) : Nat := powMod p (p.log2 + 1) (a % p) (p - 2)

namespace Edwards

def field : Nat := Nat.pow 2 255 - 19

def d : Nat := 37095705934669439343138083508754565189542113879843219016388785533085940283555

/-- A point in extended coordinates: x = X / Z, y = Y / Z, x y = T / Z. -/
structure Point where
  x : Nat
  y : Nat
  z : Nat
  t : Nat

def neutral : Point := ⟨0, 1, 1, 0⟩

def base : Point :=
  let x := 15112221349535400772501151409588531511454012693041857206046113283949847762202
  let y := 46316835694926478169428394003475163141307993866256225615783033603165251855960
  ⟨x, y, 1, x * y % field⟩

def sub (a b : Nat) : Nat := (a + field - b % field) % field

def add (p q : Point) : Point :=
  let a := sub p.y p.x * sub q.y q.x % field
  let b := (p.y + p.x) * (q.y + q.x) % field
  let c := 2 * p.t * q.t % field * d % field
  let e := 2 * p.z * q.z % field
  let f := sub b a
  let g := sub e c
  let h := (e + c) % field
  let i := (b + a) % field
  ⟨f * g % field, h * i % field, g * h % field, f * i % field⟩

/-- A multiple of a point, by doubling; `fuel` bounds the binary digits of the factor. -/
def multiple : Nat → Nat → Point → Point
  | 0, _, _ => neutral
  | fuel + 1, n, p =>
    if n = 0 then neutral
    else
      let rest := multiple fuel (n / 2) (add p p)
      if n % 2 = 1 then add p rest else rest

/-- The 32 bytes of a point, least significant first. -/
def encode (p : Point) : Bytes :=
  let inv := invMod field p.z
  let x := p.x * inv % field
  let y := p.y * inv % field
  (Bytes.ofNat 32 (y + x % 2 * Nat.pow 2 255)).reverse

/-- The secret number of a seed: cut to 254 binary digits with the top one set, a multiple of eight. -/
def secret (seed : Bytes) : Nat :=
  let n := Bytes.toNat ((Digest.sha512 seed).take 32).reverse
  n % Nat.pow 2 254 / 8 * 8 + Nat.pow 2 254

/-- The public key of a 32-byte seed. -/
def publicKey (seed : Bytes) : Bytes := encode (multiple 256 (secret seed) base)

end Edwards

end SshTunnel.Curve
