import AccountRelay.Host
/-!
# Delivery backends

A backend applies a change to the downstream system. It is an arbitrary function: it sees the call
and the host, may change files, and either accepts the change or reports a failure.

Backends are members of modules and are configured by an import path, `module:member`, where the
name of the module is made of parts with dots between them and every shorter part of it has to be a
module too. A name that starts with a dot is relative to another module, and there is none here.
-/

namespace AccountRelay

structure Reply where
  files : FileSystem
  failure : Option Failure

abbrev Backend := Call → Host → Reply

def Backend.deliver (backend : Backend) (call : Call) : Act Unit := do
  Act.record (.called call)
  let reply ← Act.ask (backend call)
  Act.change (Host.withFiles reply.files)
  match reply.failure with
  | none => Act.record (.delivered call)
  | some e => throw e

inductive Member where
  | backend (b : Backend)
  | other

structure Module where
  name : Text
  members : List (Text × Member)

structure ImportPath where
  moduleName : Text
  member : Text
  deriving DecidableEq, Repr

def ImportPath.ofText? (t : Text) : Option ImportPath :=
  match t.splitFirst (.char ':') with
  | some (c :: moduleName, d :: member) => some ⟨c :: moduleName, d :: member⟩
  | _ => none

namespace Module

/-- The beginnings of a list, from the shortest to the whole, without the empty one. -/
def beginnings {α : Type} : List α → List (List α)
  | [] => []
  | a :: rest => [a] :: (beginnings rest).map (a :: ·)

/-- The beginnings of a module's name that end before a dot or at its end. -/
def ancestry (name : Text) : List Text :=
  (beginnings (name.splitAll (.char '.'))).map (Text.join [.char '.'])

def named? (modules : List Module) (name : Text) : Option Module :=
  modules.find? fun m => m.name = name

/-- The first of the names that is no module, and the one before it. -/
def firstMissing (modules : List Module) : Option Text → List Text → Option (Text × Option Text)
  | _, [] => none
  | parent, name :: rest =>
    match named? modules name with
    | none => some (name, parent)
    | some _ => firstMissing modules (some name) rest

end Module

def loadBackend (modules : List Module) (t : Text) : Except Failure Backend :=
  match ImportPath.ofText? t with
  | none => .error (.config (.importPath t))
  | some path =>
    if path.moduleName.startsWith "." then .error (.relativeModule path.moduleName)
    else match Module.firstMissing modules none (Module.ancestry path.moduleName) with
      | some (missing, parent) => .error (.config (.noModule path.moduleName missing parent))
      | none =>
        match (Module.named? modules path.moduleName).bind fun m => m.members.lookup path.member with
        | some (.backend b) => .ok b
        | _ => .error (.config (.notCallable t))

end AccountRelay
