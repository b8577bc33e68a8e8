import SshTunnel.Failure
import SshTunnel.Key.Public
import SshTunnel.Text.Blank
import SshTunnel.Text.Quoted

/-!
The operator's public key file: the first line that is neither empty nor a comment holds a type and a key,
or a key alone.
-/

namespace SshTunnel.KeyFile

inductive Flaw
  | unreadable (why : String)
  | empty
  | notAKey
deriving DecidableEq, Repr

def Flaw.text (path : String) : Flaw → String
  | .unreadable why => "cannot read host key file " ++ Text.quoted path ++ ": " ++ why
  | .empty => "host key file " ++ Text.quoted path ++ " is empty"
  | .notAKey => "invalid public key in " ++ Text.quoted path ++ ": not a public key"

def isComment (line : List Char) : Bool := line.head? = some '#'

/-- The first line that counts, without blanks around it. -/
def significantLine? (text : List Char) : Option (List Char) :=
  ((Text.pieces (· = '\n') text).map Text.trim).find? fun l => !l.isEmpty && !isComment l

/-- The word of a line that holds the key. -/
def keyWord (line : List Char) : List Char :=
  match Text.words line with
  | _ :: key :: _ => key
  | [key] => key
  | [] => []

def ofText (text : String) : Except Flaw PublicKey :=
  match significantLine? text.toList with
  | none => .error .empty
  | some l => match PublicKey.ofBase64? (String.ofList (keyWord l)) with
    | none => .error .notAKey
    | some k => .ok k

/-- The key in a file, given what reading it gave. -/
def read (file : Except SystemError Bytes) : Except Flaw PublicKey :=
  match file with
  | .error e => .error (.unreadable e.text)
  | .ok b => match Text.decode? b with
    | none => .error (.unreadable SystemError.notUtf8.text)
    | some text => ofText text

end SshTunnel.KeyFile
