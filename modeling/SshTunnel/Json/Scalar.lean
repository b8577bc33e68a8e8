/-!
The scalars of a JSON text, read from the left: blanks, names such as `null`, strings and numbers.  The
first fault in the text decides: what is not JSON, what is JSON but does not fit, or a text that ends early.
-/

namespace SshTunnel.Json

inductive Fault
  /-- Not a JSON text. -/
  | malformed
  /-- Well formed so far, but of the wrong type or range, repeated or missing. -/
  | unfit
  /-- The text ends early. -/
  | truncated
deriving DecidableEq, Repr

/-- Reads something at the start of a text and leaves the rest. -/
abbrev Reader (α : Type) := List Char → Except Fault (α × List Char)

def isGap (c : Char) : Bool := c = ' ' || c = '\n' || c = '\t' || c = '\r'

def skipGap (s : List Char) : List Char := s.dropWhile isGap

/-- Reads the rest of a name such as `null`. -/
def readName : List Char → List Char → Except Fault (List Char)
  | [], s => .ok s
  | _ :: _, [] => .error .truncated
  | c :: w, d :: s => if c = d then readName w s else .error .malformed

/-! ### Strings -/

def hexValue? (c : Char) : Option Nat :=
  if '0' ≤ c ∧ c ≤ '9' then some (c.toNat - 48)
  else if 'a' ≤ c ∧ c ≤ 'f' then some (c.toNat - 87)
  else if 'A' ≤ c ∧ c ≤ 'F' then some (c.toNat - 55)
  else none

/-- The number that four hexadecimal digits stand for. -/
def unit? (a b c d : Char) : Option Nat :=
  match hexValue? a, hexValue? b, hexValue? c, hexValue? d with
  | some a, some b, some c, some d => some (((a * 16 + b) * 16 + c) * 16 + d)
  | _, _, _, _ => none

/-- The fault of an escape with fewer than four characters after it: the text has ended only if it
ends within four bytes. -/
def shortEscape (s : List Char) : Fault :=
  if (String.ofList s).utf8ByteSize < 4 then .truncated else .malformed

/-- What a letter after a backslash stands for. -/
def escaped? (c : Char) : Option Char :=
  if c = '"' ∨ c = '\\' ∨ c = '/' then some c
  else if c = 'b' then some '\x08'
  else if c = 'f' then some '\x0c'
  else if c = 'n' then some '\n'
  else if c = 'r' then some '\r'
  else if c = 't' then some '\t'
  else none

def isHighUnit (n : Nat) : Bool := 0xD800 ≤ n && n ≤ 0xDBFF

def isLowUnit (n : Nat) : Bool := 0xDC00 ≤ n && n ≤ 0xDFFF

/-- The character of a pair of units outside the first plane. -/
def ofUnits (high low : Nat) : Char := Char.ofNat ((high - 0xD800) * 1024 + (low - 0xDC00) + 0x10000)

def consChar (c : Char) (r : Except Fault (List Char × List Char)) : Except Fault (List Char × List Char) :=
  match r with
  | .ok (t, rest) => .ok (c :: t, rest)
  | .error e => .error e

/-- Reads a string after its opening quote.  Escaped units outside the first plane come in pairs. -/
def readText : List Char → Except Fault (List Char × List Char)
  | [] => .error .truncated
  | c :: s =>
    if c = '"' then .ok ([], s)
    else if c = '\\' then
      match s with
      | [] => .error .truncated
      | e :: s =>
        if e = 'u' then
          match s with
          | h₁ :: h₂ :: h₃ :: h₄ :: s =>
            match unit? h₁ h₂ h₃ h₄ with
            | none => .error .malformed
            | some n =>
              if isLowUnit n then .error .malformed
              else if isHighUnit n then
                match s with
                | [] => .error .truncated
                | b :: s =>
                  if b = '\\' then
                    match s with
                    | [] => .error .truncated
                    | u :: s =>
                      if u = 'u' then
                        match s with
                        | g₁ :: g₂ :: g₃ :: g₄ :: s =>
                          match unit? g₁ g₂ g₃ g₄ with
                          | none => .error .malformed
                          | some m =>
                            if isLowUnit m then consChar (ofUnits n m) (readText s) else .error .malformed
                        | s => .error (shortEscape s)
                      else .error .malformed
                  else .error .malformed
              else consChar (Char.ofNat n) (readText s)
          | s => .error (shortEscape s)
        else match escaped? e with
          | some d => consChar d (readText s)
          | none => .error .malformed
    else if c.toNat < 0x20 then .error .malformed
    else consChar c (readText s)

/-- Passes over a string after its opening quote; units need not pair up. -/
def skipText : List Char → Except Fault (List Char)
  | [] => .error .truncated
  | c :: s =>
    if c = '"' then .ok s
    else if c = '\\' then
      match s with
      | [] => .error .truncated
      | e :: s =>
        if e = 'u' then
          match s with
          | h₁ :: h₂ :: h₃ :: h₄ :: s =>
            match unit? h₁ h₂ h₃ h₄ with
            | none => .error .malformed
            | some _ => skipText s
          | s => .error (shortEscape s)
        else match escaped? e with
          | some _ => skipText s
          | none => .error .malformed
    else if c.toNat < 0x20 then .error .malformed
    else skipText s

end SshTunnel.Json
