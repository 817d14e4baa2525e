import AccountRelay.Proofs.Content
import AccountRelay.Proofs.Propagate
import AccountRelay.Proofs.Replay
/-!
# Runs on one queue

A run is a sequence of requests on one queue, each at its time and each with settings and
collaborators of its own. Besides the host a run keeps the changes that were accepted: those that
were delivered or queued at once, or put into the queue under a name.
-/

namespace AccountRelay

inductive Request where
  | changePassword (relay : Relay) (who : Who) (password : Option Text)
  | changeStatus (relay : Relay) (who : Who) (enabled : Bool)
  | propagate (relay : Relay) (c : Change)
  | enqueue (c : Change) (moment : Option Moment)
  | enqueueBehind (c : Change) (moment : Option Moment)
  | drain (backend : Backend) (defaultRealm : Text)
  | delete (name : Text)

inductive Answer where
  | propagated (result : PropagateResult)
  | queued (name : Option Text)
  | drained (r : Drained)
  | deleted
  deriving DecidableEq

/-- The change was delivered, or it has a file now. -/
def Answer.accepts : Answer → Bool
  | propagated result => result = .done ∨ result.queued = true
  | queued name => name.isSome
  | drained _ => false
  | deleted => false

def Answer.accepted (result : Except Failure Answer) : Bool :=
  match result with
  | .ok answer => answer.accepts
  | .error _ => false

namespace Request

/-- The change that is asked for, unless it is none that can be made. -/
def change? : Request → Option Change
  | changePassword _ who (some password) =>
    (Change.compose who Operation.password.word (some password)).toOption
  | changePassword _ _ none => none
  | changeStatus _ who enabled =>
    (Change.compose who (if enabled then Operation.enable else Operation.disable).word none).toOption
  | propagate _ c => some c
  | enqueue c _ => some c
  | enqueueBehind c _ => some c
  | drain _ _ => none
  | delete _ => none

def act (q : Queue) : Request → Act Answer
  | changePassword relay who password =>
    .propagated <$> { relay with queue := q }.changePassword who password
  | changeStatus relay who enabled => .propagated <$> { relay with queue := q }.changeStatus who enabled
  | propagate relay c => .propagated <$> { relay with queue := q }.propagate c
  | enqueue c moment => (fun name => .queued (some name)) <$> q.enqueue c moment
  | enqueueBehind c moment => .queued <$> q.enqueueBehind c moment
  | drain backend defaultRealm => .drained <$> AccountRelay.drain backend defaultRealm (some q)
  | delete name => (fun _ => .deleted) <$> q.delete name

def backend? : Request → Option Backend
  | changePassword relay _ _ => relay.backend
  | changeStatus relay _ _ => relay.backend
  | propagate relay _ => relay.backend
  | enqueue _ _ => none
  | enqueueBehind _ _ => none
  | drain backend _ => some backend
  | delete _ => none

def moment? : Request → Option Moment
  | enqueue _ moment => moment
  | enqueueBehind _ moment => moment
  | _ => none

end Request

inductive Request.Ends (p : Path) (h : Host) (request : Request) :
    Except Failure Answer → Host → Prop where
  | idle {result : Except Failure Answer} {h' : Host} (nothing : Answer.accepted result = false)
    (idle : h.Idle p h') : Ends p h request result h'
  | propagated {r : Relay} {c : Change} {result : Except Failure PropagateResult} {h' : Host}
    (asked : request.change? = some c) (now : request.moment? = none)
    (served : request.backend? = r.backend) (ends : r.Ends p c h result h') :
    Ends p h request (result.map .propagated) h'
  | enqueued {c : Change} {name : Text} {h' : Host} (asked : request.change? = some c)
    (enqueued : Queue.Enqueued p c request.moment? h name h') :
    Ends p h request (.ok (.queued (some name))) h'
  | drained {backend : Backend} {defaultRealm : Text} {result : Except Failure Drained} {h' : Host}
    (asked : request.change? = none) (served : request.backend? = some backend)
    (done : (AccountRelay.drain backend defaultRealm (some ⟨some p⟩)).on h = (result, h')) :
    Ends p h request (result.map .drained) h'
  | deleted {name : Text} {result : Except Failure Unit} {h' : Host} (asked : request = .delete name)
    (done : (Entry.remove (p.join name)).on h = (result, h')) :
    Ends p h request (result.map fun _ => .deleted) h'

theorem Request.ends (p : Path) (request : Request) (h : Host) :
    request.Ends p h ((request.act ⟨some p⟩).on h).1 ((request.act ⟨some p⟩).on h).2 := by
  have propagated (r : Relay) (queue : r.queue = ⟨some p⟩) (served : request.backend? = r.backend)
      (now : request.moment? = none) (c : Change) (asked : request.change? = some c) :
      request.Ends p h (((r.propagate c).on h).1.map .propagated) ((r.propagate c).on h).2 :=
    .propagated asked now served (Relay.propagate_ends queue c h)
  have composed (r : Relay) (queue : r.queue = ⟨some p⟩) (served : request.backend? = r.backend)
      (now : request.moment? = none) (change : Except Failure Change)
      (asked : request.change? = change.toOption) :
      request.Ends p h (((Act.ofResult change >>= r.propagate).on h).1.map .propagated)
        ((Act.ofResult change >>= r.propagate).on h).2 := by
    cases change with
    | error e => exact .idle rfl (.refl p h)
    | ok c => exact propagated r queue served now c asked
  cases request with
  | changePassword relay who password =>
    simp only [act, Act.on_map]
    cases password with
    | none => exact .idle rfl (Host.keeps_log _ _ p h)
    | some t => exact composed { relay with queue := ⟨some p⟩ } rfl rfl rfl _ rfl
  | changeStatus relay who enabled =>
    simp only [act, Act.on_map]
    exact composed { relay with queue := ⟨some p⟩ } rfl rfl rfl _ rfl
  | propagate relay c =>
    simp only [act, Act.on_map]
    exact propagated { relay with queue := ⟨some p⟩ } rfl rfl rfl c rfl
  | enqueue c moment =>
    simp only [act, Act.on_map]
    obtain ⟨e, h', idle, failed⟩ | ⟨name, h', enqueued, done⟩ := Queue.enqueue_cases p c moment h
    · rw [failed]
      exact .idle rfl idle
    · rw [done]
      exact .enqueued rfl enqueued
  | enqueueBehind c moment =>
    simp only [act, Act.on_map]
    obtain ⟨e, h', idle, failed⟩ | ⟨h', idle, -, done⟩ | ⟨name, h', enqueued, -, done⟩ :=
      Queue.enqueueBehind_cases p c moment h
    · rw [failed]
      exact .idle rfl idle
    · rw [done]
      exact .idle rfl idle
    · rw [done]
      exact .enqueued rfl enqueued
  | drain backend defaultRealm =>
    simp only [act, Act.on_map]
    exact .drained rfl rfl rfl
  | delete name =>
    simp only [act, Act.on_map]
    exact .deleted rfl rfl

structure Step where
  clock : Moment
  request : Request

/-- The moment that an entry is stamped with: a given one, or the present. -/
def Step.time (s : Step) : Moment := s.request.moment?.getD s.clock

def Step.begin (step : Step) (h : Host) : Host := { h with clock := step.clock }

structure Progress where
  host : Host
  accepted : List Change

/-- One step further. What a request did before it failed stays done. -/
def Progress.after (q : Queue) (s : Progress) (step : Step) : Progress :=
  let (result, h) := (step.request.act q).on (step.begin s.host)
  ⟨h, s.accepted ++ if Answer.accepted result then step.request.change?.toList else []⟩

def run (q : Queue) (h : Host) (steps : List Step) : Progress :=
  steps.foldl (Progress.after q) ⟨{ h with journal := [] }, []⟩

theorem run_append_cons (q : Queue) (h : Host) (before : List Step) (step : Step) (rest : List Step) :
    run q h (before ++ step :: rest) =
      rest.foldl (Progress.after q) ((run q h before).after q step) := by
  rw [run, List.foldl_append]
  rfl

end AccountRelay
