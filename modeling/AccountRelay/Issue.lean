import AccountRelay.Fault
import AccountRelay.Value
/-!
# Issues

Validation reports everything that is wrong with a record, in the order of its fields. Each issue
names the place it was found at. Checks of several fields are combined by `and`, which keeps the
issues of both.
-/

namespace AccountRelay

inductive Place where
  | field (name : String)
  | index (n : Nat)
  deriving DecidableEq, Repr

inductive Problem where
  | missing
  | notText
  | notList
  | notPrincipal
  | notDomain
  | notOperation
  | notBool
  | unreadableBool
  | frozen
  | fault (f : Fault)
  deriving DecidableEq, Repr

def Problem.message : Problem → Text
  | missing => "Field required"
  | notText => "Input should be a valid string"
  | notList => "Input should be a valid list"
  | notPrincipal => "Input should be a valid dictionary or instance of Principal"
  | notDomain => "Input should be 'ad'"
  | notOperation => "Input should be 'password', 'enable' or 'disable'"
  | notBool => "Input should be a valid boolean"
  | unreadableBool => "Input should be a valid boolean, unable to interpret input"
  | frozen => "Instance is frozen"
  | fault f => "Value error, " ++ f.message

structure Issue where
  place : List Place
  problem : Problem
  deriving DecidableEq, Repr

/-- A validated value, or what is wrong with it. -/
abbrev Checked (α : Type) := Except (List Issue) α

namespace Checked

def fail {α : Type} (place : List Place) (problem : Problem) : Checked α :=
  .error [⟨place, problem⟩]

/-- Both values, or the issues of both. -/
def and {α β : Type} (a : Checked α) (b : Checked β) : Checked (α × β) :=
  match a, b with
  | .ok x, .ok y => .ok (x, y)
  | .ok _, .error issues => .error issues
  | .error issues, .ok _ => .error issues
  | .error issues, .error more => .error (issues ++ more)

def below {α : Type} (name : String) (a : Checked α) : Checked α :=
  a.mapError fun issues => issues.map fun issue => { issue with place := .field name :: issue.place }

def optionalText (name : String) : Value → Checked (Option Text)
  | .null => .ok none
  | .text t => .ok (some t)
  | _ => fail [.field name] .notText

def textItems (name : String) : Nat → List Value → Checked (List Text)
  | _, [] => .ok []
  | n, .text t :: rest => (textItems name (n + 1) rest).map (t :: ·)
  | n, _ :: rest =>
    ((fail [.field name, .index n] .notText : Checked Unit).and (textItems name (n + 1) rest)).map
      Prod.snd

def texts (name : String) : Value → Checked (List Text)
  | .list items => textItems name 0 items
  | _ => fail [.field name] .notList

end Checked

end AccountRelay
