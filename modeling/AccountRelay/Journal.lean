import AccountRelay.Path
import AccountRelay.Principal
/-!
# The journal

The journal lists, in order, what operations have done that the files alone do not show: when the
directory lock was taken and given back, when a directory was searched or an entry created, the
calls of collaborators, and the messages for logs and for the console. Rules about the order of
effects, such as that the backend is never called under the lock, are rules about the journal.
-/

namespace AccountRelay

structure Call where
  account : Text
  operation : Operation
  password : Option Text
  deriving DecidableEq, Repr

inductive Level where
  | debug
  | info
  | warning
  | error
  deriving DecidableEq, Repr

def Level.word : Level → Text
  | debug => "debug"
  | info => "info"
  | warning => "warning"
  | error => "error"

inductive Event where
  | acquired (lock : Location)
  | released (lock : Location)
  /-- A directory is read, to look for a conflict, to list it or to find the next sequence. -/
  | searched (directory : Path)
  /-- An entry is about to be created. -/
  | creating (entry : Path)
  | called (call : Call)
  /-- The backend has accepted a call. -/
  | delivered (call : Call)
  | asked (principal : Principal) (inst : Text)
  | logged (level : Level) (message : Text)
  | printed (line : Text)
  /-- Bytes for the standard output. -/
  | emitted (bytes : Bytes)
  deriving DecidableEq, Repr

abbrev Journal := List Event

namespace Journal

def calls (j : Journal) : List Call :=
  j.filterMap fun
    | .called call => some call
    | _ => none

def deliveries (j : Journal) : List Call :=
  j.filterMap fun
    | .delivered call => some call
    | _ => none

def questions (j : Journal) : List (Principal × Text) :=
  j.filterMap fun
    | .asked principal inst => some (principal, inst)
    | _ => none

def messages (j : Journal) : List (Level × Text) :=
  j.filterMap fun
    | .logged level message => some (level, message)
    | _ => none

def console (j : Journal) : Text :=
  j.flatMap fun
    | .printed line => line ++ [.char '\n']
    | _ => []

def output (j : Journal) : Bytes :=
  j.flatMap fun
    | .emitted bytes => bytes
    | _ => []

end Journal

end AccountRelay
