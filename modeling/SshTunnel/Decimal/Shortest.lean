/-!
Numbers with 24 significant bits, and the fewest decimal digits that tell one from its neighbours.  All
arithmetic is on quotients of natural numbers.
-/

namespace SshTunnel.Decimal

/-- A quotient of natural numbers. -/
structure Ratio where
  num : Nat
  den : Nat
deriving DecidableEq, Repr

namespace Ratio

/-- Multiplies by a power of a base, with a negative exponent too. -/
def scale (b : Nat) (e : Int) (r : Ratio) : Ratio :=
  if 0 ≤ e then ⟨r.num * Nat.pow b e.toNat, r.den⟩ else ⟨r.num, r.den * Nat.pow b (-e).toNat⟩

def add (r s : Ratio) : Ratio := ⟨r.num * s.den + s.num * r.den, r.den * s.den⟩

def le (r s : Ratio) : Bool := r.num * s.den ≤ s.num * r.den

def lt (r s : Ratio) : Bool := !s.le r

/-- The nearest natural number; a half goes to the even neighbour. -/
def round (r : Ratio) : Nat :=
  let q := r.num / r.den
  let twice := 2 * (r.num % r.den)
  if twice < r.den then q else if r.den < twice then q + 1 else q + q % 2

end Ratio

/-- A number `m * 2 ^ q`. -/
structure Binary where
  m : Nat
  q : Int
deriving DecidableEq, Repr

namespace Binary

def value (b : Binary) : Ratio := Ratio.scale 2 b.q ⟨b.m, 1⟩

/-- The least and the first too great `m` of full precision. -/
def least : Nat := Nat.pow 2 23

def limit : Nat := 2 * least

/-- The nearest number whose `m` has that many bits. -/
def ofRatio (r : Ratio) : Binary :=
  if r.num = 0 then ⟨0, 0⟩
  else
    let q : Int := Int.ofNat r.num.log2 - Int.ofNat r.den.log2 - 24
    let q := if (Ratio.mk limit 1).le (Ratio.scale 2 (-q) r) then q + 1 else q
    let m := (Ratio.scale 2 (-q) r).round
    if m = limit then ⟨least, q + 1⟩ else ⟨m, q⟩

/-- Whether a quotient is nearer to this number than to its neighbours; the middle goes to an even `m`. -/
def covers (b : Binary) (r : Ratio) : Bool :=
  let high := Ratio.scale 2 (b.q - 1) ⟨2 * b.m + 1, 1⟩
  let low := if b.m = least then Ratio.scale 2 (b.q - 2) ⟨4 * b.m - 1, 1⟩
    else Ratio.scale 2 (b.q - 1) ⟨2 * b.m - 1, 1⟩
  if b.m % 2 = 0 then low.le r && r.le high else low.lt r && r.lt high

end Binary

/-- A number `digits * 10 ^ exponent`. -/
structure Numeral where
  digits : Nat
  exponent : Int
deriving DecidableEq, Repr

def Numeral.value (d : Numeral) : Ratio := Ratio.scale 10 d.exponent ⟨d.digits, 1⟩

/-- The greatest power of ten that is not above a quotient, looked for from an exponent upwards. -/
def magnitude (r : Ratio) : Nat → Int → Int
  | 0, e => e
  | fuel + 1, e => if (Ratio.scale 10 (e + 1) ⟨1, 1⟩).le r then magnitude r fuel (e + 1) else e

/-- Of the two multiples of `10 ^ e` around a number, the nearer one that stands for it. -/
def onGrid? (b : Binary) (e : Int) : Option Numeral :=
  let r := Ratio.scale 10 (-e) b.value
  let below : Numeral := ⟨r.num / r.den, e⟩
  let above : Numeral := ⟨r.num / r.den + 1, e⟩
  let order := if r.den < 2 * (r.num % r.den) then [above, below] else [below, above]
  order.find? fun d => b.covers d.value

/-- The shortest decimal that stands for a number: one digit is tried first, then two, and so on. -/
def shortest (b : Binary) : Numeral :=
  if b.m = 0 then ⟨0, 0⟩
  else
    let top := magnitude b.value 100 (-50)
    ((List.range 9).findSome? fun n => onGrid? b (top - Int.ofNat n)).getD ⟨0, 0⟩

/-- A decimal without an exponent; a point only where there are digits behind it. -/
def Numeral.text (d : Numeral) : String :=
  let ds := toString d.digits
  if 0 ≤ d.exponent then ds ++ String.ofList (List.replicate d.exponent.toNat '0')
  else
    let places := (-d.exponent).toNat
    let padded := List.replicate (places + 1 - ds.length) '0' ++ ds.toList
    let whole := padded.length - places
    String.ofList (padded.take whole) ++ "." ++ String.ofList (padded.drop whole)

/-- Milliseconds as seconds: whole seconds and the rest are rounded first, then their sum. -/
def seconds (ms : Nat) : String :=
  let whole := Binary.ofRatio ⟨ms / 1000, 1⟩
  let rest := Binary.ofRatio ⟨ms % 1000, 1000⟩
  (shortest (Binary.ofRatio (whole.value.add rest.value))).text

end SshTunnel.Decimal
