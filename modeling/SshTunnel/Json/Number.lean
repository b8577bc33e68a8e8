import SshTunnel.Json.Scalar

/-!
Numbers in a JSON text.  Whole numbers below 2^64 are kept; every other number is only checked, and one
too large for a double is no number.
-/

namespace SshTunnel.Json

inductive Number
  | natural (n : Nat)
  | negative (n : Nat)
  /-- A number with a fraction or an exponent, beyond 64 bits, or a negative zero. -/
  | real
deriving DecidableEq, Repr

def isDigit (c : Char) : Bool := '0' ≤ c && c ≤ '9'

def digitValue (c : Char) : Nat := c.toNat - 48

/-- Takes up digits while the value stays below `bound`: the value, and how many were taken. -/
def absorb (bound : Nat) : Nat → List Char → Nat × Nat
  | n, [] => (n, 0)
  | n, c :: s =>
    let m := 10 * n + digitValue c
    if m < bound then
      let (v, k) := absorb bound m s
      (v, k + 1)
    else (n, 0)

/-! ### Range of a double -/

/-- The nearest number of at most 53 binary digits, scaled; a tie goes to the even one. -/
def roundTo53 (n : Nat) : Nat :=
  let bits := n.log2 + 1
  if bits ≤ 53 then n
  else
    let unit := Nat.pow 2 (bits - 53)
    let q := n / unit
    let r := n % unit
    (if unit < 2 * r ∨ (2 * r = unit ∧ q % 2 = 1) then q + 1 else q) * unit

/-- Whether `n` times a power of ten is beyond the doubles, each factor rounded by itself. -/
def tooLarge (n : Nat) (exponent : Int) : Bool :=
  match exponent with
  | .ofNat e => n ≠ 0 && (308 < e || Nat.pow 2 1024 - Nat.pow 2 970 ≤ roundTo53 n * roundTo53 (Nat.pow 10 e))
  | .negSucc _ => false

/-! ### Reading -/

/-- What follows the digits of a number, if it is an exponent: its value and the rest.  A row of digits
beyond 32 bits stands for an exponent without bound. -/
def readExponent (n : Nat) (scale : Int) (s : List Char) : Except Fault (List Char) :=
  let (positive, s) := match s with
    | '+' :: r => (true, r)
    | '-' :: r => (false, r)
    | s => (true, s)
  match s with
  | [] => .error .truncated
  | c :: _ =>
    if isDigit c then
      let digits := s.takeWhile isDigit
      let rest := s.dropWhile isDigit
      let (e, k) := absorb (UInt32.size / 2) 0 digits
      if k < digits.length then
        if n ≠ 0 ∧ positive then .error .malformed else .ok rest
      else if tooLarge n (if positive then scale + e else scale - e) then .error .malformed
      else .ok rest
    else .error .malformed

/-- What follows the digits before the point or, after it, the digits of the fraction. -/
def readTail (n : Nat) (scale : Int) (s : List Char) : Except Fault (List Char) :=
  match s with
  | c :: r =>
    if c = 'e' ∨ c = 'E' then readExponent n scale r
    else if tooLarge n scale then .error .malformed else .ok s
  | [] => if tooLarge n scale then .error .malformed else .ok s

/-- A fraction after its point, at least one digit long. -/
def readFraction (n : Nat) (scale : Int) (s : List Char) : Except Fault (List Char) :=
  match s with
  | [] => .error .truncated
  | c :: _ =>
    if isDigit c then
      let (m, k) := absorb UInt64.size n (s.takeWhile isDigit)
      readTail m (scale - k) (s.dropWhile isDigit)
    else .error .malformed

/-- A number without its sign. -/
def readMagnitude (s : List Char) : Except Fault (Option Nat × List Char) :=
  match s with
  | [] => .error .truncated
  | c :: r =>
    if ¬ isDigit c then .error .malformed
    else if c = '0' ∧ (r.head?.any isDigit) then .error .malformed
    else
      let digits := s.takeWhile isDigit
      let rest := s.dropWhile isDigit
      let (n, k) := absorb UInt64.size 0 digits
      let scale := digits.length - k
      match rest with
      | '.' :: r => do return (none, ← readFraction n scale r)
      | rest =>
        if scale = 0 ∧ rest.head? ≠ some 'e' ∧ rest.head? ≠ some 'E' then .ok (some n, rest)
        else do return (none, ← readTail n scale rest)

/-- A number that starts with a minus sign or a digit. -/
def readNumber (s : List Char) : Except Fault (Number × List Char) :=
  match s with
  | '-' :: r => do
    match ← readMagnitude r with
    | (some n, rest) =>
      return (if n = 0 ∨ UInt64.size / 2 < n then .real else .negative n, rest)
    | (none, rest) => return (.real, rest)
  | s => do
    match ← readMagnitude s with
    | (some n, rest) => return (.natural n, rest)
    | (none, rest) => return (.real, rest)

/-! ### Passing over -/

/-- Passes over a row of digits, at least one. -/
def skipDigits (s : List Char) : Except Fault (List Char) :=
  if s.head?.any isDigit then .ok (s.dropWhile isDigit) else .error .malformed

def skipExponent (s : List Char) : Except Fault (List Char) :=
  match s with
  | c :: r =>
    if c = 'e' ∨ c = 'E' then
      match r with
      | '+' :: r | '-' :: r => skipDigits r
      | r => skipDigits r
    else .ok s
  | [] => .ok s

/-- The digits in front of the point: a zero alone, or others. -/
def skipWhole (s : List Char) : Except Fault (List Char) :=
  if s.head? = some '0' then if s.tail.head?.any isDigit then .error .malformed else .ok s.tail
  else skipDigits s

/-- What follows the digits in front of the point. -/
def skipFraction (s : List Char) : Except Fault (List Char) :=
  if s.head? = some '.' then (skipDigits s.tail).bind skipExponent else skipExponent s

/-- Passes over a number of any size; one that ends early is malformed. -/
def skipNumber (s : List Char) : Except Fault (List Char) :=
  (skipWhole (if s.head? = some '-' then s.tail else s)).bind skipFraction

end SshTunnel.Json
