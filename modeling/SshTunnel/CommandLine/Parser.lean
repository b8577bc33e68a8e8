import SshTunnel.CommandLine.Arguments

/-!
Reading a command line.  A name and its value are taken in only when the next argument begins, or at the
end; a word that cannot be understood is reported before what is still to be taken in.
-/

namespace SshTunnel.Arguments

/-- Where the reader stands. -/
structure Progress where
  taken : Arguments := {}
  /-- An argument still to be taken in, with its value if that has been read. -/
  pending : Option (Name × Option String) := none
  /-- The one place without a name is filled. -/
  placed : Bool := false
  /-- Only words without a name from here on. -/
  trailing : Bool := false

namespace Progress

/-- Takes in what is pending. -/
def settle (p : Progress) : Except Fault Progress :=
  match p.pending with
  | none => .ok p
  | some (_, none) => .error .missingValue
  | some (n, some v) => (p.taken.put n v).map fun a => { p with taken := a, pending := none }

/-- Takes in an argument at once. -/
def take (n : Name) (v : String) (p : Progress) : Except Fault Progress := do
  let p ← p.settle
  return { p with taken := ← p.taken.put n v }

/-- A name, with the value that is attached to it. -/
def name (n : Name) (attached : Option String) (p : Progress) : Except Fault Progress :=
  match n.takesValue, attached with
  | true, some v => p.take n v
  | true, none => p.settle.map fun p => { p with pending := some (n, none) }
  | false, some _ => .error .unwantedValue
  | false, none => p.take n ""

/-- A word behind two dashes: a name, and perhaps a value behind an equals sign. -/
def long (word : List Char) (p : Progress) : Except Fault Progress :=
  let attached := match word.dropWhile (· ≠ '=') with
    | _ :: v => some (String.ofList v)
    | [] => none
  match longNames.lookup (String.ofList (word.takeWhile (· ≠ '='))) with
  | none => .error .unknownArgument
  | some n => p.name n attached

/-- A word behind one dash: a letter, and perhaps a value, before which an equals sign may stand. -/
def short : List Char → Progress → Except Fault Progress
  | [], p => .ok p
  | c :: rest, p => match shortNames.lookup c with
    | none => .error .unknownArgument
    | some n =>
      if n.takesValue then
        match rest with
        | [] => p.name n none
        | '=' :: v => p.name n (some (String.ofList v))
        | v => p.name n (some (String.ofList v))
      else (p.name n none).bind (short rest)

/-- A word without a name. -/
def place (word : String) (p : Progress) : Except Fault Progress :=
  if p.placed then .error .unknownArgument
  else p.settle.map fun p => { p with pending := some (.gateway, some word), placed := true }

/-- A word that starts with no dash: the value waited for, if there is one. -/
def plain (word : String) (p : Progress) : Except Fault Progress :=
  match p.pending with
  | some (n, none) => .ok { p with pending := some (n, some word) }
  | _ => p.place word

def next (p : Progress) (word : String) : Except Fault Progress :=
  if p.trailing then p.place word
  else match word.toList with
    | ['-', '-'] => .ok { p with trailing := true }
    | '-' :: '-' :: w => p.long w
    | '-' :: c :: w => p.short (c :: w)
    | _ => p.plain word

end Progress

/-- The arguments in a row of words. -/
def parse (words : List String) : Except Fault Arguments := do
  let p ← words.foldlM Progress.next {}
  return (← p.settle).taken

/-- A password from the environment, for want of one on the command line. -/
def withPassword (password : Option String) (a : Arguments) : Arguments :=
  { a with password := a.password.or password }

end SshTunnel.Arguments
