import AccountRelay.Delivery
import AccountRelay.Queue
/-!
# Replay

Replaying an entry hands it to the backend and removes its file once the backend has accepted it.
Draining replays all entries of a queue in the order of their names. When one fails, the later
entries of its key are left alone, so that none of them overtakes it.
-/

namespace AccountRelay

/-- Replays one entry. Its account gets the default realm if it has none. -/
def replay (backend : Backend) (defaultRealm : Text) (file : Path)
    (refusal : FileSystem.Refusal := .never) : Act Entry := do
  let entry ← Entry.read file
  match Principal.parse entry.account defaultRealm with
  | .error f => throw (.parse (.account entry.account f))
  | .ok principal =>
    let account := principal.unparse
    Act.log .info ("Replaying " ++ entry.operation.word.cited ++ " for " ++ account.cited ++ " ...")
    backend.deliver ⟨account, entry.operation, entry.password⟩
    Entry.remove entry.path refusal
    Act.log .info ("AD " ++ entry.operation.noun ++ " change for " ++ account.cited ++ " succeeded")
    return entry

structure Drained where
  replayed : List Text
  failed : List Text
  skipped : List Text
  deriving DecidableEq, Repr

def Drained.ok (r : Drained) : Bool := r.failed.isEmpty

namespace Drain

inductive Outcome where
  | replayed
  | failed (e : Failure)
  /-- The file was gone, because someone else has replayed it. -/
  | vanished
  /-- A failure that ends the drain. -/
  | aborted (e : Failure)

def vanishes (e : Failure) : Bool :=
  match e.cause? with
  | some cause => cause.kind = .notFound
  | none => false

def outcome {α : Type} : Except Failure α → Outcome
  | .ok _ => .replayed
  | .error e => match e.kind with
    | .delivery => .failed e
    | .parse => .failed e
    | .system => if vanishes e then .vanished else .aborted e
    | _ => .aborted e

def keyOrName (name : Text) : Text :=
  match EntryName.key? name with
  | .ok key => key
  | .error _ => name

/-- Goes through the names, of which those with a blocked key are skipped. -/
def run (backend : Backend) (defaultRealm : Text) (q : Queue) :
    List Text → Drained → List Text → Act Drained
  | _, r, [] => return r
  | blocked, r, name :: rest => do
    let key := keyOrName name
    if key ∈ blocked then
      Act.log .info "Skipping, earlier change pending"
      run backend defaultRealm q blocked { r with skipped := r.skipped ++ [name] } rest
    else match outcome (← Act.attempt (do replay backend defaultRealm (← q.path name))) with
      | .replayed =>
        run backend defaultRealm q blocked { r with replayed := r.replayed ++ [name] } rest
      | .failed e =>
        Act.log .error e.report
        run backend defaultRealm q (key :: blocked) { r with failed := r.failed ++ [name] } rest
      | .vanished =>
        Act.log .debug "Entry vanished"
        run backend defaultRealm q blocked r rest
      | .aborted e => throw e

end Drain

def drain (backend : Backend) (defaultRealm : Text) (queue : Option Queue) : Act Drained := do
  let some q := queue | throw (.config .queueMissing)
  let r ← Drain.run backend defaultRealm q [] ⟨[], [], []⟩ (← q.entries)
  Act.log .info "Queue drained."
  return r

end AccountRelay
