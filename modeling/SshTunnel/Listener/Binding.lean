import SshTunnel.Rule.RuleSet

/-!
Listening for every rule of a set, or for none.  The rules are taken in order; the first that cannot be
bound closes what was opened before it.
-/

namespace SshTunnel

/-- An open listener. -/
structure Listener where
  /-- Position of its rule. -/
  index : Nat
  rule : Rule
  /-- The address that the system gave. -/
  address : Endpoint
deriving DecidableEq, Repr

namespace Listener

/-- What a system answers to a request to listen for a rule, by what is open already. -/
abbrev System := List Listener → Rule → Except SystemError Endpoint

/-- What happens to sockets. -/
inductive Event
  | opened (l : Listener)
  | refused (r : Rule) (e : SystemError)
  | closed (l : Listener)
deriving DecidableEq, Repr

/-- The listeners, or the failure, and what was done. -/
structure Binding where
  result : Except Failure (List Listener)
  trace : List Event

/-- Binds the rules after those that are open. -/
def bindFrom (system : System) (opened : List Listener) : List Rule → Binding
  | [] => ⟨.ok opened, []⟩
  | r :: rs => match system opened r with
    | .error e => ⟨.error (.ofBind r.localAddr e), .refused r e :: opened.map .closed⟩
    | .ok a =>
      let l : Listener := ⟨opened.length, r, a⟩
      let b := bindFrom system (opened ++ [l]) rs
      ⟨b.result, .opened l :: b.trace⟩

def bindAll (system : System) (s : RuleSet) : Binding := bindFrom system [] s.rules

/-- The listeners that a row of events leaves open. -/
def openAfter (es : List Event) : List Listener :=
  es.foldl (fun ls e => match e with
    | .opened l => ls ++ [l]
    | .refused .. => ls
    | .closed l => ls.erase l) []

/-! ### A system with IPv4 addresses -/

/-- The address that stands for all of them. -/
def everyHost : String := "0.0.0.0"

/-- Whether two listeners cannot be open together. -/
def clash (a b : Endpoint) : Bool :=
  a.port ≠ 0 && a.port = b.port && (a.host = b.host || a.host = everyHost || b.host = everyHost)

/-- The system on which others listen at some addresses already; any address can be had that does not
clash with one in use.  A free port that the system picks is given as 0. -/
def onHost (taken : List Endpoint) : System := fun opened r =>
  let a : Endpoint := ⟨r.bind, r.localPort⟩
  if (taken ++ opened.map Listener.address).any (clash a) then .error (.code 98) else .ok a

end Listener

end SshTunnel
