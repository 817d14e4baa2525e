import AccountRelay.Delivery
import AccountRelay.Queue
import AccountRelay.Settings
/-!
# Propagation

A change is delivered now or queued for later. It is queued whenever a change of its key is queued
already, so that no queued change is overtaken; when the settings say that all changes are; and when
its delivery fails. What goes wrong with the queue itself is passed on, since nothing could stand in
for it.

Principals with an instance are propagated only if the settings list the instance. Where the base
instance of a principal exists, its password stands for that of the base account, and a password
change for the latter is not propagated.
-/

namespace AccountRelay

inductive PropagateResult where
  | skipped
  | done
  | queueForced
  | queueConflict
  | queueOnFailure
  deriving DecidableEq, Repr

namespace PropagateResult

def word : PropagateResult → Text
  | skipped => "skipped"
  | done => "done"
  | queueForced => "queue_forced"
  | queueConflict => "queue_conflict"
  | queueOnFailure => "queue_on_failure"

def queued : PropagateResult → Bool
  | skipped => false
  | done => false
  | queueForced => true
  | queueConflict => true
  | queueOnFailure => true

end PropagateResult

/-- Tells whether an instance of a principal exists, or fails. -/
abbrev InstanceCheck := Principal → Text → Host → Except Failure Bool

structure Relay where
  settings : Settings
  backend : Option Backend
  queue : Queue
  instanceExists : Option InstanceCheck

/-- A new change from a principal, the word for an operation and a password. -/
def Change.compose (who : Who) (operation : Text) (password : Option Text) : Except Failure Change :=
  match who.principal? with
  | .error f => .error (.parse (.principal who.display f))
  | .ok principal =>
    let given : Value := match password with
      | none => .null
      | some t => .text t
    match Change.check (.ok principal) none (some (.text operation)) given with
    | .ok c => .ok c
    | .error issues =>
      .error (.parse (.change operation who.display (issues.map Issue.problem)))

namespace Relay

def ofSettings (settings : Settings) (backend : Option Backend)
    (instanceExists : Option InstanceCheck) : Relay :=
  ⟨settings, backend, Queue.ofText settings.queueDir, instanceExists⟩

def admits (r : Relay) (inst : Text) : Bool :=
  some inst = r.settings.adBaseInstance ∨ inst ∈ r.settings.adInstances

/-- Whether the collaborator knows the base instance of the principal, where it is asked at all. -/
def hasBaseInstance (r : Relay) (c : Change) (base : Text) : Act Bool :=
  match r.instanceExists with
  | none => return false
  | some exists? =>
    if c.operation = .password ∧ base ≠ [] then do
      Act.record (.asked c.principal base)
      Act.ofResult (← Act.ask (exists? c.principal base))
    else return false

def permits (r : Relay) (c : Change) : Act Bool := do
  match c.principal.instance? with
  | some inst =>
    if r.admits inst then return true
    Act.log .debug ("Ignoring principal \"" ++ c.principal.unparse ++ "\" with non-null instance")
    return false
  | none =>
    let base := r.settings.adBaseInstance.getD []
    if ← r.hasBaseInstance c base then
      Act.log .debug ("Ignoring principal \"" ++ c.principal.unparse ++ "\" because " ++ base
        ++ " instance exists")
      return false
    return true

/-- Delivers a change that no queued change is in front of, and queues it if that fails. -/
def deliverOrQueue (r : Relay) (backend : Backend) (c : Change) : Act PropagateResult := do
  let account := c.principal.unparse
  match ← Act.attempt (backend.deliver ⟨account, c.operation, c.password⟩) with
  | .ok () =>
    Act.log .info ("Propagated " ++ c.operation.word.cited ++ " for " ++ account.cited)
    return .done
  | .error e =>
    if e.kind = .delivery then
      Act.log .warning ("AD " ++ c.operation.noun ++ " change failed, queuing: " ++ e.text)
      let _ ← r.queue.enqueue c none
      return .queueOnFailure
    else throw e

def propagate (r : Relay) (c : Change) : Act PropagateResult := do
  if !(← r.permits c) then return .skipped
  if r.settings.queueOnly then
    let _ ← r.queue.enqueue c none
    return .queueForced
  match r.backend with
  | none =>
    Act.log .debug "No delivery configured, skipping ..."
    return .skipped
  | some backend =>
    if (← r.queue.enqueueBehind c none).isSome then return .queueConflict
    r.deliverOrQueue backend c

/-- Propagates a new password. Without one the keys were randomized, and there is nothing to do. -/
def changePassword (r : Relay) (who : Who) : Option Text → Act PropagateResult
  | none => do
    Act.log .debug "No password, keys randomized, skipping ..."
    return .skipped
  | some password => do
    r.propagate (← Act.ofResult (Change.compose who (Operation.password.word) (some password)))

def changeStatus (r : Relay) (who : Who) (enabled : Bool) : Act PropagateResult := do
  let operation : Operation := if enabled then .enable else .disable
  r.propagate (← Act.ofResult (Change.compose who operation.word none))

end Relay

end AccountRelay
