import AccountRelay.Failure
import AccountRelay.FileSystem
import AccountRelay.Journal
import AccountRelay.Moment
/-!
# The host and what is done on it

A host has files, some of them locked, a clock, and the journal of what has happened. An act changes
the host and ends with a value or a failure; what it did before it failed stays done. Acts are built
from a few primitives, one for each thing that an operation asks of the host, and each primitive
changes one part of it.
-/

namespace AccountRelay

structure Host where
  files : FileSystem
  /-- The locations of the files that are locked. -/
  locked : List Location
  clock : Moment
  journal : Journal

namespace Host

def record (e : Event) (h : Host) : Host := { h with journal := h.journal ++ [e] }

/-- Other files take the place of the present ones. A file that is gone is not locked any more. -/
def withFiles (files : FileSystem) (h : Host) : Host :=
  { h with
    files := files
    locked := h.locked.filter fun l => match files.get? l with
      | some (.file _ _) => true
      | _ => false }

def unlock (l : Location) (h : Host) : Host :=
  record (.released l) { h with locked := h.locked.filter fun m => m ≠ l }

end Host

abbrev Act (α : Type) := ExceptT Failure (StateM Host) α

namespace Act

def on {α : Type} (act : Act α) (h : Host) : Except Failure α × Host := act h

def ask {α : Type} (question : Host → α) : Act α := fun h => (.ok (question h), h)

def change (step : Host → Host) : Act Unit := fun h => (.ok (), step h)

def record (e : Event) : Act Unit := change (Host.record e)

def log (level : Level) (message : Text) : Act Unit := record (.logged level message)

def print (line : Text) : Act Unit := record (.printed line)

def ofResult {α : Type} : Except Failure α → Act α
  | .ok a => pure a
  | .error e => throw e

def orFault {α : Type} (r : Except Fault α) : Act α := ofResult (r.mapError .fault)

/-- Does something to the host at the end of an act, however it ends. -/
def ensuring {α : Type} (act : Act α) (last : Host → Host) : Act α := fun h =>
  let (result, h) := act.on h
  (result, last h)

/-- An act whose failure is looked at and not passed on. -/
def attempt {α : Type} (act : Act α) : Act (Except Failure α) := fun h =>
  let (result, h) := act.on h
  (.ok result, h)

/-! ## Files -/

/-- No request about a path with a NUL character reaches the file system. -/
def requireName (path : Path) : Act Unit := if path.hasNul then throw (.fault .nulInPath) else pure ()

def inspect {α : Type} (path : Path) (problem : Path → OsError → StorageProblem)
    (query : FileSystem → Path → Except OsError α) : Act α := do
  requireName path
  match query (← ask Host.files) path with
  | .ok a => return a
  | .error e => throw (.storage (problem path e))

def search (directory : Path) : Act (List (Text × Node)) := do
  record (.searched directory)
  inspect directory .openDirectory FileSystem.list

def readFile (path : Path) : Act Bytes := inspect path .readEntry FileSystem.read

/-- Removes a file, which messages cite as `shown`. -/
def unlink (path : Path) (shown : Text) (refusal : FileSystem.Refusal := .never) : Act Unit := do
  let files ← inspect path (fun _ => .unlinkEntry shown) fun files path => files.unlink path refusal
  change (Host.withFiles files)

/-! ## Laws -/

section Laws

variable {α β : Type} (h : Host)

@[simp] theorem on_pure (a : α) : (pure a : Act α).on h = (.ok a, h) := rfl

@[simp] theorem on_throw (e : Failure) : (throw e : Act α).on h = (.error e, h) := rfl

theorem on_bind (act : Act α) (next : α → Act β) :
    (act >>= next).on h = match act.on h with
      | (.ok a, h') => (next a).on h'
      | (.error e, h') => (.error e, h') := by
  simp only [on, bind, ExceptT.bind, ExceptT.mk, StateT.bind]
  rcases act h with ⟨_ | a, h'⟩ <;> rfl

/-- Nothing of what follows a failure happens. -/
theorem on_bind_of_error {act : Act α} {h' : Host} {e : Failure} (next : α → Act β)
    (failed : act.on h = (.error e, h')) : (act >>= next).on h = (.error e, h') := by
  rw [on_bind, failed]

theorem on_bind_of_ok {act : Act α} {h' : Host} {a : α} (next : α → Act β)
    (done : act.on h = (.ok a, h')) : (act >>= next).on h = (next a).on h' := by
  rw [on_bind, done]

@[simp] theorem on_ask (question : Host → α) : (ask question).on h = (.ok (question h), h) := rfl

@[simp] theorem on_change (step : Host → Host) : (change step).on h = (.ok (), step h) := rfl

@[simp] theorem on_record (e : Event) : (record e).on h = (.ok (), h.record e) := rfl

@[simp] theorem on_ensuring (act : Act α) (last : Host → Host) :
    (act.ensuring last).on h = ((act.on h).1, last (act.on h).2) := rfl

@[simp] theorem on_attempt (act : Act α) :
    act.attempt.on h = (.ok (act.on h).1, (act.on h).2) := rfl

theorem on_ofResult (r : Except Failure α) : (ofResult r).on h = (r, h) := by
  cases r <;> rfl

end Laws

end Act

end AccountRelay
