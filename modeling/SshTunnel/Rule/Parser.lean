import SshTunnel.Decimal.Numeral
import SshTunnel.Rule.Basic
import SshTunnel.Text.Blank

/-!
Reading a rule `[bind:]localPort:host:port`.  Colons inside one pair of brackets do not separate; the
brackets themselves are dropped.  `Rule.parse` tries, in this order: brackets, empty fields, number of
fields, the two ports, and the rule as a whole.
-/

namespace SshTunnel

/-! ### Port numbers -/

def port? (s : List Char) : Option UInt16 := (numeral? 65536 s).map UInt16.ofNat

namespace Rule

/-! ### Fields -/

/-- Where the reader of fields stands: the fields before, the one being read in reverse, and whether
a bracket is open. -/
structure Cut where
  done : List (List Char) := []
  current : List Char := []
  inside : Bool := false

/-- A bracket opens only at the start of a field; a second one inside is an ordinary character. -/
def Cut.next (k : Cut) (c : Char) : Cut :=
  if c = '[' ∧ k.inside = false ∧ k.current = [] then { k with inside := true }
  else if c = ']' ∧ k.inside = true then { k with inside := false }
  else if c = ':' ∧ k.inside = false then { k with done := k.current.reverse :: k.done, current := [] }
  else { k with current := c :: k.current }

inductive Flaw
  | unclosed
  | emptyField
  | missingRemote
  | tooMany
  | localPort (value : String)
  | remotePort (value : String)
  | defect (rule : Rule) (d : Defect)
deriving DecidableEq, Repr

/-- The fields of a rule text, none of them empty. -/
def fields (s : List Char) : Except Flaw (List (List Char)) :=
  let k := s.foldl Cut.next {}
  if k.inside then .error .unclosed
  else
    let all := (k.current.reverse :: k.done).reverse
    if all.any List.isEmpty then .error .emptyField else .ok all

/-! ### Rules -/

/-- A rule from its four fields. -/
def ofFields (bind localPort host port : List Char) : Except Flaw Rule :=
  match port? localPort with
  | none => .error (.localPort (String.ofList localPort))
  | some l => match port? port with
    | none => .error (.remotePort (String.ofList port))
    | some p =>
      let r : Rule := ⟨String.ofList bind, l, String.ofList host, p⟩
      match r.defect? with
      | some d => .error (.defect r d)
      | none => .ok r

/-- The rule written in a text without blanks around it. -/
def ofTrimmed (s : List Char) (defaultBind : String) : Except Flaw Rule :=
  match fields s with
  | .error e => .error e
  | .ok [l, h, p] => ofFields defaultBind.toList l h p
  | .ok [b, l, h, p] => ofFields b l h p
  | .ok fs => .error (if fs.length < 3 then .missingRemote else .tooMany)

/-- What a flaw is called, given the text it was found in. -/
def Flaw.message (input : String) : Flaw → String
  | .unclosed => "tunnel '" ++ input ++ "' has an unclosed '['"
  | .emptyField => "tunnel '" ++ input ++ "' has an empty field"
  | .missingRemote =>
    "tunnel '" ++ input ++ "' is missing its remote part, expected localPort:remoteHost:remotePort"
  | .tooMany => "tunnel '" ++ input ++ "' has too many fields (IPv6 addresses must be bracketed)"
  | .localPort v => "tunnel '" ++ input ++ "' has an invalid local port '" ++ v ++ "'"
  | .remotePort v => "tunnel '" ++ input ++ "' has an invalid remote port '" ++ v ++ "'"
  | .defect r d => "tunnel " ++ r.text ++ " has " ++ d.text

/-- Reads a rule; blanks around it do not count. -/
def parse (s : String) (defaultBind : String) : Except Failure Rule :=
  let t := Text.trim s.toList
  match ofTrimmed t defaultBind with
  | .ok r => .ok r
  | .error e => .error (.configuration (e.message (String.ofList t)))

/-- Fails with the first defect of a rule. -/
def check (r : Rule) : Except Failure Unit :=
  match r.defect? with
  | some d => .error (.configuration (Flaw.message "" (.defect r d)))
  | none => .ok ()

end Rule

end SshTunnel
