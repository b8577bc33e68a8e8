import SshTunnel.Text.Utf8

/-!
The fields of keys and key files: 32-bit lengths in front of strings, labels, and whole numbers as strings
without a needless zero byte.  A length in front of something that has its own form only limits what may
be read; what is left of it is left for the next field.
-/

namespace SshTunnel.Wire

/-- Why bytes cannot be read.  A label that stands for nothing known is kept, to be shown. -/
inductive Fault
  | malformed
  | unknownLabel (label : String)
deriving DecidableEq, Repr

/-- Reads something at the front of some bytes and leaves the rest. -/
abbrev Reader (α : Type) := StateT Bytes (Except Fault) α

def fail {α : Type} : Reader α := throw .malformed

/-- Exactly `n` bytes. -/
def take (n : Nat) : Reader Bytes := fun b =>
  if n ≤ b.length then .ok (b.take n, b.drop n) else .error .malformed

def nat32 : Reader Nat := do return Bytes.toNat (← take 4)

/-- The longest string that is read. -/
def maxLength : Nat := 0xfffff

def length : Reader Nat := do
  let n ← nat32
  if n ≤ maxLength then return n else fail

def string : Reader Bytes := do take (← length)

/-- A string that must be UTF-8. -/
def text : Reader String := do
  match Text.decode? (← string) with
  | some s => return s
  | none => fail

/-- A short text that names something: at most 48 bytes. -/
def label : Reader String := do
  let n ← length
  if 48 < n then fail
  match Text.decode? (← take n) with
  | some s => return s
  | none => fail

def unknown {α : Type} (label : String) : Reader α := throw (.unknownLabel label)

/-- Whether bytes are the shortest form of a whole number. -/
def isMinimal : Bytes → Bool
  | [x] => x ≠ 0
  | 0 :: y :: _ => 128 ≤ y
  | _ => true

/-- A string that is the shortest form of a whole number. -/
def integer : Reader Bytes := do
  let b ← string
  if isMinimal b then return b else fail

/-- Runs a reader on at most `n` bytes; what it leaves of them comes before the rest. -/
def within {α : Type} (n : Nat) (read : Reader α) : Reader α := fun b =>
  match read (b.take n) with
  | .error f => .error f
  | .ok (a, left) => .ok (a, left ++ b.drop n)

/-- Runs a reader under the limit that a length before it sets. -/
def inside {α : Type} (read : Reader α) : Reader α := do within (← length) read

/-- `n` bytes under such a limit. -/
def fixed (n : Nat) : Reader Bytes := inside (take n)

/-- All that is left. -/
def rest : Reader Bytes := fun b => .ok (b, [])

def atEnd : Reader Unit := fun b => if b = [] then .ok ((), b) else .error .malformed

/-- The whole of some bytes, read by one reader. -/
def whole {α : Type} (read : Reader α) (b : Bytes) : Except Fault α :=
  ((do let a ← read; atEnd; return a : Reader α).run b).map Prod.fst

/-! ### Writing -/

def putString (b : Bytes) : Bytes := Bytes.ofNat 4 b.length ++ b

end SshTunnel.Wire
