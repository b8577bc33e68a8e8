import SshTunnel.Bytes.Basic
import SshTunnel.SystemError

/-!
What is found where a file is looked for.
-/

namespace SshTunnel

inductive Place
  | absent
  | file (content : Bytes)
  /-- Something that cannot be read or written as a file. -/
  | unusable (why : SystemError)
deriving DecidableEq, Repr

/-- What reading gives. -/
def Place.read : Place → Except SystemError Bytes
  | .absent => .error .noEntry
  | .file b => .ok b
  | .unusable why => .error why

/-- The bytes in the file; where there is none, there are none. -/
def Place.content : Place → Bytes
  | .absent | .unusable _ => []
  | .file b => b

end SshTunnel
