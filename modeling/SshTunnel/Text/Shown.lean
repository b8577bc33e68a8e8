import SshTunnel.Text.Quoted

/-!
Values laid out as text for a log: atoms, lists, named records and wrapped values, on one line or with
one line for each part.
-/

namespace SshTunnel.Text

inductive Shown
  | atom (text : String)
  | list (items : List Shown)
  | record (name : String) (fields : List (String × Shown))
  | wrapped (name : String) (inner : Shown)

namespace Shown

def text (s : String) : Shown := atom (quoted s)

def bool (b : Bool) : Shown := atom (if b then "true" else "false")

def nat (n : Nat) : Shown := atom (toString n)

def option {α : Type} (show? : α → Shown) : Option α → Shown
  | some a => wrapped "Some" (show? a)
  | none => atom "None"

mutual

/-- The value on one line. -/
def compact : Shown → String
  | atom t => t
  | list items => "[" ++ ", ".intercalate (compactItems items) ++ "]"
  | record name fields => name ++ " \x7b " ++ ", ".intercalate (compactFields fields) ++ " \x7d"
  | wrapped name inner => name ++ "(" ++ inner.compact ++ ")"

def compactItems : List Shown → List String
  | [] => []
  | s :: rest => s.compact :: compactItems rest

def compactFields : List (String × Shown) → List String
  | [] => []
  | (k, v) :: rest => (k ++ ": " ++ v.compact) :: compactFields rest

end

mutual

/-- The lines of a value that shows every part on a line of its own. -/
def lines : Shown → List String
  | atom t => [t]
  | list [] => ["[]"]
  | list (s :: rest) => "[" :: itemLines (s :: rest) ++ ["]"]
  | record name fields => (name ++ " \x7b") :: fieldLines fields ++ ["\x7d"]
  | wrapped name inner => (name ++ "(") :: part "" inner.lines ++ [")"]

/-- The lines of one part: indented, the last one closed by a comma. -/
def part (label : String) : List String → List String
  | [] => []
  | [l] => ["    " ++ label ++ l ++ ","]
  | l :: ls => ("    " ++ label ++ l) :: part "" ls

def itemLines : List Shown → List String
  | [] => []
  | s :: rest => part "" s.lines ++ itemLines rest

def fieldLines : List (String × Shown) → List String
  | [] => []
  | (k, v) :: rest => part (k ++ ": ") v.lines ++ fieldLines rest

end

def pretty (s : Shown) : String := "\n".intercalate s.lines

end Shown

end SshTunnel.Text
