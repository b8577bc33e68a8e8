import SshTunnel.Rule.Parser
import SshTunnel.Text.Lower

/-!
The rules of one run, in the order given.  No two of them listen on one address: addresses are compared
in lower case, and port 0 never clashes, since the system picks a fresh port each time.
-/

namespace SshTunnel

structure RuleSet where
  rules : List Rule
deriving DecidableEq, Repr

namespace RuleSet

/-- What two rules may not share. -/
def listenerKey (r : Rule) : Option (String × UInt16) :=
  if r.localPort = 0 then none else some (Text.lower r.bind, r.localPort)

/-- Checks the rules after those whose keys are in `seen`. -/
def checkAll (seen : List (String × UInt16)) : List Rule → Except Failure Unit
  | [] => .ok ()
  | r :: rs => do
    r.check
    match listenerKey r with
    | none => checkAll seen rs
    | some k =>
      if k ∈ seen then .error (.configuration ("duplicate local listener " ++ r.localAddr))
      else checkAll (k :: seen) rs

def ofList (rs : List Rule) : Except Failure RuleSet :=
  if rs = [] then .error (.configuration "no tunnels configured")
  else (checkAll [] rs).map fun _ => ⟨rs⟩

/-- Reads every text before any two rules are compared. -/
def parse (texts : List String) (defaultBind : String) : Except Failure RuleSet := do
  ofList (← texts.mapM fun t => Rule.parse t defaultBind)

end RuleSet

end SshTunnel
