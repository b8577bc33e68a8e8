/-!
Blanks, and cutting a text at them.  A text is a list of characters here; `trim` drops the blanks at
both ends and `words` gives the longest runs without blanks.
-/

namespace SshTunnel.Text

/-- The code points with the Unicode property White_Space. -/
def isBlank (c : Char) : Bool :=
  let n := c.toNat
  (9 ≤ n && n ≤ 13) || n == 0x20 || n == 0x85 || n == 0xA0 || n == 0x1680 ||
    (0x2000 ≤ n && n ≤ 0x200A) || n == 0x2028 || n == 0x2029 || n == 0x202F || n == 0x205F || n == 0x3000

def trimStart (s : List Char) : List Char := s.dropWhile isBlank

def trimEnd (s : List Char) : List Char := (s.reverse.dropWhile isBlank).reverse

def trim (s : List Char) : List Char := trimEnd (trimStart s)

/-! ### Pieces -/

/-- The pieces between the elements that satisfy `p`, empty ones included; at least one. -/
def pieces {α : Type} (p : α → Bool) : List α → List (List α)
  | [] => [[]]
  | a :: s =>
    if p a then [] :: pieces p s
    else match pieces p s with
      | [] => [[a]]
      | w :: ws => (a :: w) :: ws

theorem pieces_ne_nil {α : Type} (p : α → Bool) : ∀ s : List α, pieces p s ≠ []
  | [] => by simp [pieces]
  | a :: s => by
    unfold pieces
    split
    · simp
    · split <;> simp

/-- Whether `part` occurs in a text. -/
def occursIn (part : List Char) : List Char → Bool
  | [] => part.isEmpty
  | c :: s => part.isPrefixOf (c :: s) || occursIn part s

/-- The longest runs without blanks. -/
def words (s : List Char) : List (List Char) := (pieces isBlank s).filter fun w => !w.isEmpty

end SshTunnel.Text
