import AccountRelay.EntryName
import AccountRelay.Issue
import AccountRelay.Text.Utf8
/-!
# Changes

A change is an operation on the account of a principal. Only a password change carries a password,
and the password is not empty, can be written as UTF-8 and has no newline, because a queue file
keeps it on a line of its own.
-/

namespace AccountRelay

structure Password where
  text : Text
  nonempty : text ≠ []
  oneLine : .char '\n' ∉ text
  encodable : text.encode?.isSome = true
  deriving DecidableEq

inductive Action where
  | setPassword (p : Password)
  | enable
  | disable
  deriving DecidableEq

namespace Action

def operation : Action → Operation
  | setPassword _ => .password
  | enable => .enable
  | disable => .disable

def password : Action → Option Text
  | setPassword p => some p.text
  | enable => none
  | disable => none

/-- Joins an operation with its password, of which an empty one counts as none. -/
def check : Operation → Option Text → Except Fault Action
  | .password, none => .error .passwordMissing
  | .password, some t =>
    if nonempty : t = [] then .error .passwordMissing
    else if oneLine : .char '\n' ∈ t then .error .passwordNewline
    else if encodable : t.encode?.isSome = true then
      .ok (setPassword ⟨t, nonempty, oneLine, encodable⟩)
    else .error .passwordEncoding
  | .enable, none => .ok enable
  | .enable, some t => if t = [] then .ok enable else .error (.passwordUnexpected .enable)
  | .disable, none => .ok disable
  | .disable, some t => if t = [] then .ok disable else .error (.passwordUnexpected .disable)

end Action

structure Change where
  principal : Principal
  domain : Domain
  action : Action
  deriving DecidableEq

namespace Change

def operation (c : Change) : Operation := c.action.operation

def password (c : Change) : Option Text := c.action.password

def changeClass (c : Change) : ChangeClass := c.operation.changeClass

def key (c : Change) : Text := keyOf c.principal.user c.domain c.changeClass

def account (c : Change) : Text := c.principal.account

def lines (c : Change) : List Text :=
  [c.account, c.domain.word, c.operation.word] ++ c.password.toList

end Change

/-! ## Validation -/

def Principal.ofRecord (r : Record) : Checked Principal :=
  let components : Checked (List Text) := match r.get? "components" with
    | none => .fail [.field "components"] .missing
    | some v => .texts "components" v.nullIfEmpty
  let realm : Checked (Option Text) :=
    .optionalText "realm" ((r.get? "realm").getD .null).nullIfEmpty
  (components.and realm).map fun (components, realm) => ⟨components, realm.getD []⟩

namespace Change

def checkDomain : Option Value → Checked Domain
  | none => .ok .ad
  | some (.text t) => match Domain.ofWord? t with
    | some domain => .ok domain
    | none => .fail [.field "domain"] .notDomain
  | some _ => .fail [.field "domain"] .notDomain

def checkOperation : Option Value → Checked Operation
  | none => .fail [.field "operation"] .missing
  | some (.text t) => match Operation.ofWord? t with
    | some operation => .ok operation
    | none => .fail [.field "operation"] .notOperation
  | some _ => .fail [.field "operation"] .notOperation

/-- Checks the fields in their order, and the password against the operation once all of them are
valid. -/
def check (principal : Checked Principal) (domain operation : Option Value) (password : Value) :
    Checked Change :=
  let fields := principal.and ((checkDomain domain).and
    ((checkOperation operation).and (.optionalText "password" password.nullIfEmpty)))
  match fields with
  | .error issues => .error issues
  | .ok (principal, domain, operation, password) =>
    match Action.check operation password with
    | .error f => .fail [] (.fault f)
    | .ok action => .ok ⟨principal, domain, action⟩

/-- A change from its fields. A principal given as text is a written name and is read before any
field is looked at. -/
def ofRecord (r : Record) : Checked Change :=
  let rest (principal : Checked Principal) :=
    check principal (r.get? "domain") (r.get? "operation") ((r.get? "password").getD .null)
  match r.get? "principal" with
  | none => rest (.fail [.field "principal"] .missing)
  | some (.text name) => match Principal.parse name [] with
    | .error f => .fail [] (.fault f)
    | .ok principal => rest (.ok principal)
  | some (.record fields) => rest (.below "principal" (Principal.ofRecord fields))
  | some _ => rest (.fail [.field "principal"] .notPrincipal)

end Change

end AccountRelay
