import SshTunnel.Json.Number

/-!
Readers for typed values in a JSON text.  A scalar of the wrong type is read whole before it is refused,
so a fault inside it comes first; an array or object of the wrong type is refused at its bracket.  Members
that a record does not know are passed over.
-/

namespace SshTunnel.Json

/-! ### Passing over values -/

mutual

/-- Passes over one value; every call takes at least one character, so a text is passed with its length
as fuel. -/
def skipValue : Nat → List Char → Except Fault (List Char)
  | 0, _ => .error .malformed
  | fuel + 1, s =>
    match skipGap s with
    | [] => .error .truncated
    | c :: r =>
      if c = 'n' then readName ['u', 'l', 'l'] r
      else if c = 't' then readName ['r', 'u', 'e'] r
      else if c = 'f' then readName ['a', 'l', 's', 'e'] r
      else if c = '"' then skipText r
      else if c = '-' ∨ isDigit c then skipNumber (c :: r)
      else if c = '[' then
        match skipGap r with
        | [] => .error .truncated
        | d :: t => if d = ']' then .ok t else skipItems fuel (d :: t)
      else if c = '\x7b' then
        match skipGap r with
        | [] => .error .truncated
        | d :: t => if d = '\x7d' then .ok t else skipMembers fuel (d :: t)
      else .error .malformed

/-- Passes over the items of an array, at least one, and its closing bracket. -/
def skipItems : Nat → List Char → Except Fault (List Char)
  | 0, _ => .error .malformed
  | fuel + 1, s =>
    match skipValue fuel s with
    | .error e => .error e
    | .ok r => match skipGap r with
      | [] => .error .truncated
      | c :: t =>
        if c = ']' then .ok t
        else if c = ',' then skipItems fuel t
        else .error .malformed

/-- Passes over the members of an object, at least one, and its closing bracket. -/
def skipMembers : Nat → List Char → Except Fault (List Char)
  | 0, _ => .error .malformed
  | fuel + 1, s =>
    match skipGap s with
    | [] => .error .truncated
    | q :: r =>
      if q ≠ '"' then .error .malformed
      else match skipText r with
        | .error e => .error e
        | .ok r => match skipGap r with
          | [] => .error .truncated
          | c :: r =>
            if c ≠ ':' then .error .malformed
            else match skipValue fuel r with
              | .error e => .error e
              | .ok r => match skipGap r with
                | [] => .error .truncated
                | c :: t =>
                  if c = '\x7d' then .ok t
                  else if c = ',' then skipMembers fuel t
                  else .error .malformed

end

/-- Passes over the value at the start of a text. -/
def skip (s : List Char) : Except Fault (List Char) := skipValue (2 * s.length + 2) s

/-! ### Scalars -/

/-- The fault of a value that starts with `c` and is not of the type asked for. -/
def mismatch (c : Char) (r : List Char) : Fault :=
  let whole {α : Type} (e : Except Fault α) : Fault := match e with
    | .error f => f
    | .ok _ => .unfit
  if c = 'n' then whole (readName ['u', 'l', 'l'] r)
  else if c = 't' then whole (readName ['r', 'u', 'e'] r)
  else if c = 'f' then whole (readName ['a', 'l', 's', 'e'] r)
  else if c = '"' then whole (readText r)
  else if c = '-' ∨ isDigit c then whole (readNumber (c :: r))
  else if c = '[' ∨ c = '\x7b' then .unfit
  else .malformed

/-- A whole number below a bound, without fraction and exponent. -/
def readNat (bound : Nat) : Reader Nat := fun s =>
  match skipGap s with
  | [] => .error .truncated
  | c :: r =>
    if c = '-' ∨ isDigit c then
      match readNumber (c :: r) with
      | .error e => .error e
      | .ok (.natural n, rest) => if n < bound then .ok (n, rest) else .error .unfit
      | .ok _ => .error .unfit
    else .error (mismatch c r)

def readU16 : Reader UInt16 := fun s => (readNat UInt16.size s).map fun x => (UInt16.ofNat x.1, x.2)

def readU32 : Reader UInt32 := fun s => (readNat UInt32.size s).map fun x => (UInt32.ofNat x.1, x.2)

def readU64 : Reader UInt64 := fun s => (readNat UInt64.size s).map fun x => (UInt64.ofNat x.1, x.2)

def readBool : Reader Bool := fun s =>
  match skipGap s with
  | [] => .error .truncated
  | c :: r =>
    if c = 't' then (readName ['r', 'u', 'e'] r).map fun rest => (true, rest)
    else if c = 'f' then (readName ['a', 'l', 's', 'e'] r).map fun rest => (false, rest)
    else .error (mismatch c r)

def readString : Reader String := fun s =>
  match skipGap s with
  | [] => .error .truncated
  | c :: r =>
    if c = '"' then (readText r).map fun x => (String.ofList x.1, x.2)
    else .error (mismatch c r)

/-- A value that may be `null`. -/
def readOption {α : Type} (read : Reader α) : Reader (Option α) := fun s =>
  match skipGap s with
  | [] => .error .truncated
  | c :: r =>
    if c = 'n' then (readName ['u', 'l', 'l'] r).map fun rest => (none, rest)
    else (read (c :: r)).map fun x => (some x.1, x.2)

/-! ### Arrays -/

/-- What stands before the next element or member: the end, or nothing but a comma. -/
inductive Next
  | close (rest : List Char)
  | more (rest : List Char)

def nextElement (first : Bool) (s : List Char) : Except Fault Next :=
  match skipGap s with
  | [] => .error .truncated
  | c :: r =>
    if c = ']' then .ok (.close r)
    else if first then .ok (.more (c :: r))
    else if c = ',' then
      match skipGap r with
      | [] => .error .truncated
      | d :: t => if d = ']' then .error .malformed else .ok (.more (d :: t))
    else .error .malformed

/-- The closing bracket of an array whose elements have all been read. -/
def closeArray (s : List Char) : Except Fault (List Char) :=
  match skipGap s with
  | [] => .error .truncated
  | c :: r => if c = ']' then .ok r else .error .malformed

/-- The elements of an array after its bracket, at most `fuel` many. -/
def readItems {α : Type} (read : Reader α) : Nat → Bool → List Char → Except Fault (List α × List Char)
  | 0, _, _ => .error .malformed
  | fuel + 1, first, s =>
    match nextElement first s with
    | .error e => .error e
    | .ok (.close rest) => .ok ([], rest)
    | .ok (.more t) => match read t with
      | .error e => .error e
      | .ok (a, r) => (readItems read fuel false r).map fun x => (a :: x.1, x.2)

def readArray {α : Type} (read : Reader α) : Reader (List α) := fun s =>
  match skipGap s with
  | [] => .error .truncated
  | c :: r => if c = '[' then readItems read (r.length + 1) true r else .error (mismatch c r)

/-! ### Records -/

/-- A named part of a record: how it is read and put into the record, and whether it must be there. -/
structure Member (σ : Type) where
  name : String
  read : Reader (σ → σ)
  required : Bool := false

/-- A field from a reader of its value and a setter. -/
def Member.of {σ α : Type} (name : String) (read : Reader α) (set : α → σ → σ) : Member σ where
  name := name
  read := fun s => (read s).map fun x => (set x.1, x.2)

def Member.need {σ : Type} (f : Member σ) : Member σ := { f with required := true }

/-- The fields of a record written as an array, in order; those after the end of the array keep what
they have. -/
def readPositional {σ : Type} : List (Member σ) → Bool → σ → List Char → Except Fault (σ × List Char)
  | [], _, r, s => (closeArray s).map fun rest => (r, rest)
  | f :: fs, first, r, s =>
    match nextElement first s with
    | .error e => .error e
    | .ok (.close rest) => if (f :: fs).any Member.required then .error .unfit else .ok (r, rest)
    | .ok (.more t) => match f.read t with
      | .error e => .error e
      | .ok (set, rest) => readPositional fs false (set r) rest

/-- The rest of an object from its next name on. -/
def nextMember (first : Bool) (s : List Char) : Except Fault Next :=
  match skipGap s with
  | [] => .error .truncated
  | c :: r =>
    if c = '\x7d' then .ok (.close r)
    else if first then if c = '"' then .ok (.more r) else .error .malformed
    else if c = ',' then
      match skipGap r with
      | [] => .error .truncated
      | d :: t => if d = '"' then .ok (.more t) else .error .malformed
    else .error .malformed

def skipColon (s : List Char) : Except Fault (List Char) :=
  match skipGap s with
  | [] => .error .truncated
  | c :: r => if c = ':' then .ok r else .error .malformed

/-- The members of a record written as an object, at most `fuel` many, in any order; `seen` holds the
names met before.  A name met twice is refused before its colon. -/
def readMembers {σ : Type} (fs : List (Member σ)) : Nat → List String → σ → List Char → Except Fault (σ × List Char)
  | 0, _, _, _ => .error .malformed
  | fuel + 1, seen, r, s =>
    match nextMember (seen.isEmpty) s with
    | .error e => .error e
    | .ok (.close rest) =>
      if fs.any fun f => f.required && !seen.contains f.name then .error .unfit else .ok (r, rest)
    | .ok (.more t) => match readText t with
      | .error e => .error e
      | .ok (nameChars, t) =>
        let name := String.ofList nameChars
        match fs.find? fun f => f.name = name with
        | some f =>
          if seen.contains name then .error .unfit
          else match skipColon t with
            | .error e => .error e
            | .ok t => match f.read t with
              | .error e => .error e
              | .ok (set, rest) => readMembers fs fuel (name :: seen) (set r) rest
        | none => match skipColon t with
          | .error e => .error e
          | .ok t => match skip t with
            | .error e => .error e
            | .ok rest => readMembers fs fuel (name :: seen) r rest

/-- A record written as an object or as an array of its fields; fields not given keep what `start` has. -/
def readRecord {σ : Type} (fs : List (Member σ)) (start : σ) : Reader σ := fun s =>
  match skipGap s with
  | [] => .error .truncated
  | c :: r =>
    if c = '\x7b' then readMembers fs (r.length + 1) [] start r
    else if c = '[' then readPositional fs true start r
    else .error (mismatch c r)

/-- A text that holds one value and nothing else. -/
def readDocument {α : Type} (read : Reader α) (text : String) : Except Fault α :=
  match read text.toList with
  | .error e => .error e
  | .ok (a, rest) => if skipGap rest = [] then .ok a else .error .malformed

end SshTunnel.Json
