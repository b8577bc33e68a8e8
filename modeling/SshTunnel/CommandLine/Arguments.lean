import SshTunnel.Rule.Parser

/-!
The arguments of the command: their names, the values that they take, and what has been given.
-/

namespace SshTunnel

structure Arguments where
  /-- The gateway's host, or the user and the host with an `@` between them. -/
  gateway : Option String := none
  /-- The settings file. -/
  file : Option String := none
  user : Option String := none
  port : Option UInt16 := none
  identity : Option String := none
  passphrase : Option String := none
  password : Option String := none
  rules : List String := []
  bind : Option String := none
  trustStore : Option String := none
  keyFile : Option String := none
  acceptAny : Bool := false
  trustNew : Bool := false
  nonInteractive : Bool := false
  connectSecs : Option UInt64 := none
  dialSecs : Option UInt64 := none
  shutdownSecs : Option UInt64 := none
  maxConnections : Option UInt64 := none
deriving DecidableEq, Repr

namespace Arguments

/-- Why a command line is not carried out; the last two are wishes of the user. -/
inductive Fault
  | unknownArgument
  | missingValue
  | badValue
  | repeated
  | unwantedValue
  | help
  | version
deriving DecidableEq, Repr

/-- A wish that is met is a success. -/
def Fault.exitCode : Fault → Nat
  | help | version => 0
  | _ => 2

inductive Name
  | gateway | file | user | port | identity | passphrase | password | rule | bind | trustStore | keyFile
  | acceptAny | trustNew | nonInteractive | connectSecs | dialSecs | shutdownSecs | maxConnections
  | help | version
deriving DecidableEq, Repr

/-- The names behind two dashes. -/
def longNames : List (String × Name) := [
  ("config", .file), ("user", .user), ("port", .port), ("identity", .identity), ("passphrase", .passphrase),
  ("password", .password), ("tunnel", .rule), ("bind-address", .bind), ("known-hosts", .trustStore),
  ("host-key-file", .keyFile), ("accept-any-host-key", .acceptAny), ("trust-new-host-key", .trustNew),
  ("non-interactive", .nonInteractive), ("connect-timeout", .connectSecs), ("dial-timeout", .dialSecs),
  ("shutdown-timeout", .shutdownSecs), ("max-connections", .maxConnections), ("help", .help),
  ("version", .version)]

/-- The names behind one dash. -/
def shortNames : List (Char × Name) := [
  ('l', .user), ('p', .port), ('i', .identity), ('L', .rule), ('h', .help), ('V', .version)]

/-- Whether a value follows the name. -/
def Name.takesValue : Name → Bool
  | acceptAny | trustNew | nonInteractive | help | version => false
  | _ => true

/-! ### Values -/

def path (v : String) : Except Fault String := if v = "" then .error .missingValue else .ok v

def number (v : String) : Except Fault UInt64 :=
  match numeral? UInt64.size v.toList with
  | some n => .ok (UInt64.ofNat n)
  | none => .error .badValue

/-- A port may be written as minus nothing too. -/
def portNumber (v : String) : Except Fault UInt16 :=
  let read : Option UInt16 := match v.toList with
    | '-' :: digits => if digits ≠ [] ∧ digits.all (· = '0') then some 0 else none
    | s => port? s
  match read with
  | some n => .ok n
  | none => .error .badValue

/-- The value of an argument that is given at most once; a second time counts before its value does. -/
def once {α : Type} (old : Option α) (v : Except Fault α) : Except Fault (Option α) :=
  if old.isSome then .error .repeated else v.map some

def switchOn (old : Bool) : Except Fault Bool := if old then .error .repeated else .ok true

/-- Takes in an argument with its value, which is empty for a switch. -/
def put (n : Name) (v : String) (a : Arguments) : Except Fault Arguments :=
  match n with
  | .gateway => do return { a with gateway := ← once a.gateway (.ok v) }
  | .file => do return { a with file := ← once a.file (path v) }
  | .user => do return { a with user := ← once a.user (.ok v) }
  | .port => do return { a with port := ← once a.port (portNumber v) }
  | .identity => do return { a with identity := ← once a.identity (path v) }
  | .passphrase => do return { a with passphrase := ← once a.passphrase (.ok v) }
  | .password => do return { a with password := ← once a.password (.ok v) }
  | .rule => .ok { a with rules := a.rules ++ [v] }
  | .bind => do return { a with bind := ← once a.bind (.ok v) }
  | .trustStore => do return { a with trustStore := ← once a.trustStore (path v) }
  | .keyFile => do return { a with keyFile := ← once a.keyFile (path v) }
  | .acceptAny => do return { a with acceptAny := ← switchOn a.acceptAny }
  | .trustNew => do return { a with trustNew := ← switchOn a.trustNew }
  | .nonInteractive => do return { a with nonInteractive := ← switchOn a.nonInteractive }
  | .connectSecs => do return { a with connectSecs := ← once a.connectSecs (number v) }
  | .dialSecs => do return { a with dialSecs := ← once a.dialSecs (number v) }
  | .shutdownSecs => do return { a with shutdownSecs := ← once a.shutdownSecs (number v) }
  | .maxConnections => do return { a with maxConnections := ← once a.maxConnections (number v) }
  | .help => .error .help
  | .version => .error .version

end Arguments

end SshTunnel
