import SshTunnel.Text.CaseTable

/-!
Lower case of a whole text, by the full Unicode mapping.  One letter depends on its neighbours: a
capital sigma that ends a word becomes a final sigma.
-/

namespace SshTunnel.Text

/-- Whether a code point lies in one of the inclusive ranges. -/
def inRanges (rs : List (Nat × Nat)) (n : Nat) : Bool := rs.any fun r => r.1 ≤ n && n ≤ r.2

def CaseRun.covers (r : CaseRun) (n : Nat) : Bool := r.first ≤ n && n ≤ r.last && (n - r.first) % r.step == 0

/-- The lower-case form of a character outside a text: two characters for a dotted capital I. -/
def lowerChar (c : Char) : List Char :=
  if c.toNat = 0x130 then ['i', Char.ofNat 0x307]
  else match lowerRuns.find? fun r => r.covers c.toNat with
    | some r => [Char.ofNat (r.lowered + (c.toNat - r.first))]
    | none => [c]

/-- Whether the first character that is not case-ignorable is cased. -/
def meetsCased (s : List Char) : Bool :=
  match s.dropWhile fun c => inRanges caseIgnorable c.toNat with
  | c :: _ => inRanges cased c.toNat
  | [] => false

/-- Lower case of what follows `before`, which is held in reverse. -/
def lowerFrom (before : List Char) : List Char → List Char
  | [] => []
  | c :: rest =>
    let here :=
      if c = 'Σ' then if meetsCased before && !meetsCased rest then ['ς'] else ['σ']
      else lowerChar c
    here ++ lowerFrom (c :: before) rest

/-- The whole text in lower case. -/
def lower (s : String) : String := String.ofList (lowerFrom [] s.toList)

end SshTunnel.Text
