import SshTunnel.Text.Lower
import SshTunnel.Text.PrintTable

/-!
Quoted texts, as messages show paths and settings: in double quotes, with an escape for what would not
be seen.  A single quote stands for itself.
-/

namespace SshTunnel.Text

/-- Lower-case hexadecimal digits, as few as the number needs. -/
def hexDigits (n : Nat) : List Char := Nat.toDigits 16 n

/-- The form of one character inside double quotes. -/
def quotedChar (c : Char) : List Char :=
  match c with
  | '\x00' => ['\\', '0']
  | '\t' => ['\\', 't']
  | '\n' => ['\\', 'n']
  | '\r' => ['\\', 'r']
  | '"' => ['\\', '"']
  | '\\' => ['\\', '\\']
  | c =>
    if inRanges graphemeExtend c.toNat || inRanges unprintable c.toNat then
      ['\\', 'u', '\x7b'] ++ hexDigits c.toNat ++ ['\x7d']
    else [c]

/-- The text in double quotes. -/
def quoted (s : String) : String := String.ofList ('"' :: s.toList.flatMap quotedChar ++ ['"'])

end SshTunnel.Text
