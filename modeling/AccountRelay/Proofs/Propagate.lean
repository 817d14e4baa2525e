import AccountRelay.Propagate
import AccountRelay.Proofs.Delivery
import AccountRelay.Proofs.Queue
/-!
# What propagation comes to

Each result of a propagation tells what has happened: whether a backend was called and has accepted
the change, and whether the change is in the queue now. A failure tells that it is not, and that no
backend has accepted it either, unless the failure is the backend's own.
-/

namespace AccountRelay

namespace Relay

/-- What a propagation may end with on a host, and the host after it. -/
inductive Ends (r : Relay) (directory : Path) (c : Change) (h : Host) :
    Except Failure PropagateResult → Host → Prop where
  | failed {e : Failure} {h' : Host} (idle : h.Idle directory h') : Ends r directory c h (.error e) h'
  | skipped {h' : Host} (idle : h.Idle directory h') : Ends r directory c h (.ok .skipped) h'
  | forced {name : Text} {h' : Host} (enqueued : Queue.Enqueued directory c none h name h') :
    Ends r directory c h (.ok .queueForced) h'
  | conflict {name : Text} {h' : Host} (pending : Queue.Pending directory c.key h.files)
    (enqueued : Queue.Enqueued directory c none h name h') :
    Ends r directory c h (.ok .queueConflict) h'
  | done {backend : Backend} {before after h' : Host} (configured : r.backend = some backend)
    (idle : h.Idle directory before) (clear : Queue.Clear directory c.key h.files)
    (delivered : (backend.deliver ⟨c.principal.unparse, c.operation, c.password⟩).on before =
      (.ok (), after))
    (idle' : after.Idle directory h') : Ends r directory c h (.ok .done) h'
  | refused {backend : Backend} {before after h' : Host} {e : Failure} {name : Text}
    (configured : r.backend = some backend) (idle : h.Idle directory before)
    (clear : Queue.Clear directory c.key h.files)
    (called : (backend.deliver ⟨c.principal.unparse, c.operation, c.password⟩).on before =
      (.error e, after))
    (delivery : e.kind = .delivery) (enqueued : Queue.Enqueued directory c none after name h') :
    Ends r directory c h (.ok .queueOnFailure) h'
  | lost {backend : Backend} {before after h' : Host} {e e' : Failure}
    (configured : r.backend = some backend) (idle : h.Idle directory before)
    (clear : Queue.Clear directory c.key h.files)
    (called : (backend.deliver ⟨c.principal.unparse, c.operation, c.password⟩).on before =
      (.error e, after))
    (idle' : after.Idle directory h') : Ends r directory c h (.error e') h'

theorem still_hasBaseInstance (r : Relay) (c : Change) (base : Text) :
    (r.hasBaseInstance c base).Keeps Host.Still := by
  unfold hasBaseInstance
  split
  · exact Act.keeps_pure _
  · split
    · have asked : (Act.record (.asked c.principal base)).Keeps Host.Still := fun h =>
        Host.still_record (.asked c.principal base) trivial h
      exact asked.bind fun _ => (Act.keeps_ask _).bind fun _ => Act.keeps_ofResult _
    · exact Act.keeps_pure _

theorem still_permits (r : Relay) (c : Change) : (r.permits c).Keeps Host.Still := by
  have logged (level : Level) (message : Text) : (Act.log level message).Keeps Host.Still := fun h =>
    Host.still_record (.logged level message) trivial h
  unfold permits
  split
  · split
    · exact Act.keeps_pure _
    · exact (logged _ _).bind fun _ => Act.keeps_pure _
  · refine (still_hasBaseInstance r c _).bind fun known => ?_
    split
    · exact (logged _ _).bind fun _ => Act.keeps_pure _
    · exact Act.keeps_pure _

/-- How a propagation goes on once it has been found out whether the change is propagated. -/
inductive Begins (r : Relay) (c : Change) (h : Host) : Prop where
  /-- It ends before it comes to the queue. -/
  | stopped {result : Except Failure PropagateResult} {h' : Host} (still : h.Still h')
    (either : result = .ok .skipped ∨ ∃ e, result = .error e)
    (ended : (r.propagate c).on h = (result, h')) : Begins r c h
  | forced {h' : Host} (still : h.Still h') (only : r.settings.queueOnly = true)
    (same : (r.propagate c).on h =
      (r.queue.enqueue c none >>= fun _ => pure .queueForced).on h') : Begins r c h
  | tried {backend : Backend} {h' : Host} (still : h.Still h') (only : r.settings.queueOnly = false)
    (configured : r.backend = some backend)
    (same : (r.propagate c).on h = (r.queue.enqueueBehind c none >>= fun name =>
      if name.isSome = true then pure .queueConflict else r.deliverOrQueue backend c).on h') :
    Begins r c h

theorem propagate_begins (r : Relay) (c : Change) (h : Host) : r.Begins c h := by
  have kept := still_permits r c h
  cases permitted : (r.permits c).on h with
  | mk result h' =>
    rw [permitted] at kept
    cases result with
    | error e => exact .stopped kept (.inr ⟨e, rfl⟩) (Act.on_bind_of_error h _ permitted)
    | ok permits =>
      have goes : (r.propagate c).on h = _ := Act.on_bind_of_ok h _ permitted
      cases permits with
      | false => exact .stopped kept (.inl rfl) goes
      | true =>
        simp only [Bool.not_true, Bool.false_eq_true, if_false] at goes
        cases only : r.settings.queueOnly with
        | true =>
          refine .forced kept only (goes.trans ?_)
          rw [if_pos only]
        | false =>
          rw [only] at goes
          cases configured : r.backend with
          | none =>
            rw [configured] at goes
            have logged := Host.still_record (.logged .debug "No delivery configured, skipping ...")
              trivial h'
            exact .stopped (kept.trans logged) (.inl rfl) goes
          | some backend =>
            rw [configured] at goes
            exact .tried kept only configured goes

theorem Ends.before {r : Relay} {directory : Path} {c : Change} {h h' h'' : Host}
    {result : Except Failure PropagateResult} (idle : h.Idle directory h')
    (ends : r.Ends directory c h' result h'') : r.Ends directory c h result h'' := by
  cases ends with
  | failed rest => exact .failed (idle.trans rest)
  | skipped rest => exact .skipped (idle.trans rest)
  | forced enqueued => exact .forced (enqueued.before idle)
  | conflict pending enqueued => exact .conflict (pending.before idle.files) (enqueued.before idle)
  | done configured first clear delivered rest =>
    exact .done configured (idle.trans first) (clear.before idle.files) delivered rest
  | refused configured first clear called delivery enqueued =>
    exact .refused configured (idle.trans first) (clear.before idle.files) called delivery enqueued
  | lost configured first clear called rest =>
    exact .lost configured (idle.trans first) (clear.before idle.files) called rest

theorem deliverOrQueue_ends {r : Relay} {directory : Path} (queue : r.queue = ⟨some directory⟩)
    {backend : Backend} (configured : r.backend = some backend) (c : Change) {h before : Host}
    (idle : h.Idle directory before) (clear : Queue.Clear directory c.key h.files) :
    r.Ends directory c h ((r.deliverOrQueue backend c).on before).1
      ((r.deliverOrQueue backend c).on before).2 := by
  unfold deliverOrQueue
  cases called : (backend.deliver ⟨c.principal.unparse, c.operation, c.password⟩).on before with
  | mk result after =>
    have attempted := Act.on_attempt before
      (backend.deliver ⟨c.principal.unparse, c.operation, c.password⟩)
    rw [called] at attempted
    rw [Act.on_bind_of_ok before _ attempted]
    cases result with
    | ok =>
      exact .done configured idle clear called
        (Host.idle_record (.logged .info _) trivial directory after)
    | error e =>
      by_cases delivery : e.kind = .delivery
      · simp only [if_pos delivery]
        have logged := Host.idle_record (.logged .warning ("AD " ++ c.operation.noun
          ++ " change failed, queuing: " ++ e.text)) trivial directory after
        rw [Act.on_bind_of_ok after _ (Act.on_log after _ _), queue]
        obtain ⟨e', h', idle', failed⟩ | ⟨name, h', enqueued, done⟩ :=
          Queue.enqueue_cases directory c none (after.record (.logged .warning ("AD "
            ++ c.operation.noun ++ " change failed, queuing: " ++ e.text)))
        · rw [Act.on_bind_of_error _ _ failed]
          exact .lost configured idle clear called (logged.trans idle')
        · rw [Act.on_bind_of_ok _ _ done]
          exact .refused configured idle clear called delivery
            (enqueued.before logged)
      · simp only [if_neg delivery]
        exact .lost configured idle clear called (.refl directory after)

theorem propagate_ends {r : Relay} {directory : Path} (queue : r.queue = ⟨some directory⟩)
    (c : Change) (h : Host) :
    r.Ends directory c h ((r.propagate c).on h).1 ((r.propagate c).on h).2 := by
  cases propagate_begins r c h with
  | stopped still either ended =>
    rw [ended]
    obtain rfl | ⟨e, rfl⟩ := either
    · exact .skipped (still.idle directory)
    · exact .failed (still.idle directory)
  | @forced h₁ still only same =>
    rw [same, queue]
    refine Ends.before (still.idle directory) ?_
    obtain ⟨e, h', idle, failed⟩ | ⟨name, h', enqueued, done⟩ := Queue.enqueue_cases directory c none h₁
    · rw [Act.on_bind_of_error _ _ failed]
      exact .failed idle
    · rw [Act.on_bind_of_ok _ _ done]
      exact .forced enqueued
  | @tried backend h₁ still only configured same =>
    rw [same, queue]
    refine Ends.before (still.idle directory) ?_
    obtain ⟨e, h', idle, failed⟩ | ⟨h', idle, clear, done⟩ | ⟨name, h', enqueued, pending, done⟩ :=
      Queue.enqueueBehind_cases directory c none h₁
    · rw [Act.on_bind_of_error _ _ failed]
      exact .failed idle
    · rw [Act.on_bind_of_ok _ _ done]
      exact deliverOrQueue_ends queue configured c idle clear
    · rw [Act.on_bind_of_ok _ _ done]
      exact .conflict pending enqueued

theorem still_of_unconfigured {r : Relay} (queue : r.queue = ⟨none⟩) (c : Change) (h : Host) :
    h.Still ((r.propagate c).on h).2 ∧
      ((∃ e, ((r.propagate c).on h).1 = .error e) ∨ ((r.propagate c).on h).1 = .ok .skipped) := by
  cases propagate_begins r c h with
  | stopped still either ended =>
    rw [ended]
    exact ⟨still, either.symm⟩
  | forced still only same =>
    rw [same, queue]
    exact ⟨still, .inl ⟨_, rfl⟩⟩
  | tried still only configured same =>
    rw [same, queue]
    exact ⟨still, .inl ⟨_, rfl⟩⟩

end Relay

end AccountRelay
