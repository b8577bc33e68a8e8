import SshTunnel.Json.Scalar
import SshTunnel.Settings.Format
import SshTunnel.Text.Quoted
import SshTunnel.Text.Utf8

/-!
The settings file.  A file for a newer format is refused once it has been read as a whole; a missing file
stands for the defaults unless the user named it.
-/

namespace SshTunnel.Settings

inductive LoadFault
  | noHome
  | notFound (path : String)
  | system (message : String)
  | json (fault : Json.Fault) (detail : String)
  | tooNew (found supported : UInt32)
deriving DecidableEq, Repr

def LoadFault.text : LoadFault → String
  | .noHome => "Failed to determine config directory"
  | .notFound path => "Config file " ++ Text.quoted path ++ " not found"
  | .system m => "IO error: " ++ m
  | .json _ d => "JSON error: " ++ d
  | .tooNew v w =>
    "Config version " ++ toString v.toNat ++ " is newer than supported " ++ toString w.toNat

def LoadFault.toFailure (e : LoadFault) : Failure := .configuration e.text

/-- What a decoder says about a fault is left to it; here the kind of fault stands for its words. -/
def jsonDetail : Json.Fault → String
  | .malformed => "malformed text"
  | .unfit => "value of the wrong type or range"
  | .truncated => "unexpected end of text"

/-- The settings in the text of a file. -/
def ofFileText (text : String) : Except LoadFault Settings :=
  match ofJsonText text with
  | .error f => .error (.json f (jsonDetail f))
  | .ok s => if supportedVersion < s.version then .error (.tooNew s.version supportedVersion) else .ok s

/-- Settings from the file at `path`, given what reading it gave; the file must exist. -/
def loadRequired (path : String) (file : Except SystemError Bytes) : Except LoadFault Settings :=
  match file with
  | .error e => .error (if e = .noEntry then .notFound path else .system e.text)
  | .ok b => match Text.decode? b with
    | none => .error (.system SystemError.notUtf8.text)
    | some text => ofFileText text

/-- Settings from the file at `path`, or the defaults if there is none. -/
def load (path : String) (file : Except SystemError Bytes) : Except LoadFault Settings :=
  match loadRequired path file with
  | .error (.notFound _) => .ok {}
  | r => r

end SshTunnel.Settings
