import AccountRelay.Proofs.Propagate
import AccountRelay.Proofs.Replay
import AccountRelay.Proofs.RoundTrip
/-!
# Changes that wait

A change reaches the backend at once, or later from its file. Either way the call has the operation
and the password of the change, and an account with its components. Files have no realms, so a call
from a file has the default realm in place of the realm of the change, and the two calls agree if and
only if these do.
-/

namespace AccountRelay

/-- The calls of a backend that the act makes on a host, however it ends. -/
def Act.Makes {α : Type} (act : Act α) (h : Host) (calls : List Call) : Prop :=
  (act.on h).2.journal.calls = h.journal.calls ++ calls

theorem Act.makes_nil {α : Type} {act : Act α} {h : Host}
    (same : (act.on h).2.journal.calls = h.journal.calls) : act.Makes h [] := by
  show _ = _
  rw [same, List.append_nil]

namespace Change

/-- What a backend is called with for a change that is not queued. -/
def direct (c : Change) : Call := ⟨c.principal.unparse, c.operation, c.password⟩

/-- What a backend is called with for a change that has been queued. -/
def deferred (c : Change) (defaultRealm : Text) : Call :=
  ⟨Principal.unparse ⟨c.principal.components, defaultRealm⟩, c.operation, c.password⟩

/-- The first component is there and not empty, as in every name that can be read. -/
def Named (c : Change) : Prop := c.principal.components.headD [] ≠ []

instance (c : Change) : Decidable c.Named := inferInstanceAs (Decidable (_ ≠ _))

theorem deferred_eq_direct_iff {c : Change} {defaultRealm : Text} :
    c.deferred defaultRealm = c.direct ↔ c.principal.realm = defaultRealm := by
  rw [deferred, direct, Call.mk.injEq]
  simp only [and_true]
  exact Principal.unparse_eq_iff.trans eq_comm

end Change

/-! ## From the file -/

section File

variable {c : Change} {content : Bytes} {defaultRealm : Text} {file : Path} {h : Host}

theorem Change.of_ready (encoded : Queue.content? c = some content)
    (read : h.files.read file = .ok content) {entry : Entry} {call : Call}
    (ready : Replay.Ready defaultRealm file h entry call) :
    c.Readable ∧ c.Named ∧ call = c.deferred defaultRealm := by
  obtain ⟨bytes, again, holds⟩ := ready.read
  rw [read] at again
  cases again
  obtain ⟨readable, found⟩ | ⟨-, e, failed⟩ := Entry.ofBytes_content file encoded
  · rw [found] at holds
    cases holds
    refine ⟨readable, ?_, Entry.toCall_of_account rfl ready.asks⟩
    intro empty
    have asks := ready.asks
    rw [Entry.toCall, Change.account, Principal.account_eq_name,
      Principal.parse_name_of_empty c.principal defaultRealm empty] at asks
    cases asks
  · rw [failed] at holds
    cases holds

theorem Change.ready (encoded : Queue.content? c = some content) (nul : file.hasNul = false)
    (read : h.files.read file = .ok content) (readable : c.Readable) (named : c.Named) :
    ∃ entry, Replay.Ready defaultRealm file h entry (c.deferred defaultRealm) := by
  obtain ⟨-, found⟩ | ⟨unreadable, -⟩ := Entry.ofBytes_content file encoded
  · refine ⟨_, nul, ⟨content, read, found⟩, ?_⟩
    rw [Entry.toCall, Change.account, Principal.account_eq_name,
      Principal.parse_name c.principal defaultRealm named]
    rfl
  · exact absurd readable unreadable

/-- A replay of the file of a change makes the deferred call, unless the file cannot be read. -/
theorem replay_makes (backend : Backend) (encoded : Queue.content? c = some content)
    (nul : file.hasNul = false) (read : h.files.read file = .ok content) :
    (c.Readable ∧ c.Named →
      (replay backend defaultRealm file).Makes h [c.deferred defaultRealm]) ∧
      (¬ (c.Readable ∧ c.Named) → (replay backend defaultRealm file).Makes h []) := by
  have ends := replay_ends backend defaultRealm file .never h
  obtain ⟨same, none⟩ | ⟨entry, call, ready, made⟩ := ends.calls
  · constructor
    · intro both
      obtain ⟨entry, ready⟩ := Change.ready encoded nul read both.1 both.2
      exact absurd ready (none entry _)
    · intro _
      exact Act.makes_nil same
  · obtain ⟨readable, named, rfl⟩ := Change.of_ready encoded read ready
    constructor
    · intro _
      exact made
    · intro other
      exact absurd ⟨readable, named⟩ other

end File

/-! ## At once -/

def PropagateResult.called : PropagateResult → Bool
  | .done => true
  | .queueOnFailure => true
  | .skipped => false
  | .queueForced => false
  | .queueConflict => false

namespace Relay

/-- What a propagation has called the backend with, and what its result tells about that. -/
def Tells (c : Change) (h : Host) (result : Except Failure PropagateResult) (h' : Host) : Prop :=
  (h'.journal.calls = h.journal.calls ∧ ∀ x, result = .ok x → x.called = false) ∨
    (h'.journal.calls = h.journal.calls ++ [c.direct] ∧ ∀ x, result = .ok x → x.called = true)

theorem Ends.tells {r : Relay} {directory : Path} {c : Change} {h h' : Host}
    {result : Except Failure PropagateResult} (ends : r.Ends directory c h result h') :
    Tells c h result h' := by
  cases ends with
  | failed idle => exact .inl ⟨idle.calls, nofun⟩
  | skipped idle => exact .inl ⟨idle.calls, fun x same => by cases same; rfl⟩
  | forced enqueued => exact .inl ⟨enqueued.written.1.calls, fun x same => by cases same; rfl⟩
  | conflict pending enqueued =>
    exact .inl ⟨enqueued.written.1.calls, fun x same => by cases same; rfl⟩
  | done configured idle clear delivered idle' =>
    refine .inr ⟨?_, fun x same => by cases same; rfl⟩
    rw [idle'.calls, (Backend.of_deliver_ok delivered).1.calls, idle.calls]
    rfl
  | refused configured idle clear called delivery enqueued =>
    refine .inr ⟨?_, fun x same => by cases same; rfl⟩
    rw [enqueued.written.1.calls, (Backend.of_deliver_error called).2.1.calls, idle.calls]
    rfl
  | lost configured idle clear called idle' =>
    refine .inr ⟨?_, nofun⟩
    rw [idle'.calls, (Backend.of_deliver_error called).2.1.calls, idle.calls]
    rfl

theorem tells_of_unconfigured {r : Relay} (queue : r.queue = ⟨none⟩) (c : Change) (h : Host) :
    Tells c h ((r.propagate c).on h).1 ((r.propagate c).on h).2 := by
  obtain ⟨still, either⟩ := still_of_unconfigured queue c h
  refine .inl ⟨still.calls, fun x same => ?_⟩
  obtain ⟨e, failed⟩ | skipped := either
  · cases failed.symm.trans same
  · cases skipped.symm.trans same
    rfl

theorem propagate_tells (r : Relay) (c : Change) (h : Host) :
    Tells c h ((r.propagate c).on h).1 ((r.propagate c).on h).2 := by
  cases queue : r.queue with
  | mk configured =>
    cases configured with
    | none => exact tells_of_unconfigured queue c h
    | some directory => exact (propagate_ends queue c h).tells

end Relay

/-! ## Both ways -/

/-- The calls for a change from its file and at once, and what can be read from their accounts. -/
structure Change.Deferral (c : Change) (backend : Backend) (defaultRealm : Text) (file : Path)
    (h : Host) : Prop where
  replayed : c.Readable ∧ c.Named →
    (replay backend defaultRealm file).Makes h [c.deferred defaultRealm]
  unreadable : ¬ (c.Readable ∧ c.Named) → (replay backend defaultRealm file).Makes h []
  propagated : ∀ (r : Relay) (g : Host),
    Relay.Tells c g ((r.propagate c).on g).1 ((r.propagate c).on g).2
  agrees : c.deferred defaultRealm = c.direct ↔ c.principal.realm = defaultRealm
  /-- No text in a component is taken for the end of it, or for a realm. -/
  named : c.Named → ∀ other, Principal.parse (c.deferred defaultRealm).account other =
    .ok ⟨c.principal.components, if defaultRealm = [] then other else defaultRealm⟩

/-- Whenever the file that a change was put into is replayed, the backend is called as it would have
been at once, but with the default realm. -/
theorem deferral_of_enqueued {p : Path} {c : Change} {moment : Option Moment} {h h' : Host}
    {name : Text} (enqueued : (Queue.enqueue ⟨some p⟩ c moment).on h = (.ok name, h')) {g : Host}
    (kept : g.files.read (p.join name) = h'.files.read (p.join name)) (backend : Backend)
    (defaultRealm : Text) : c.Deferral backend defaultRealm (p.join name) g := by
  obtain ⟨e, h', idle, failed⟩ | ⟨name, h', ⟨⟨-, second, sequence, content, rfl, added⟩, -⟩, done⟩ :=
    Queue.enqueue_cases p c moment h
  · rw [enqueued] at failed
    cases failed
  · rw [enqueued] at done
    cases done
    obtain ⟨nul, read⟩ := added.read
    rw [read] at kept
    obtain ⟨made, silent⟩ := @replay_makes _ _ defaultRealm _ g backend added.encoded nul kept
    refine ⟨made, silent, ?_, Change.deferred_eq_direct_iff, ?_⟩
    · intro r g
      exact r.propagate_tells c g
    · intro named other
      exact Principal.parse_unparse ⟨c.principal.components, defaultRealm⟩ other named

/-- The file of a change from another realm, replayed after a later change was queued. -/
theorem deferral_of_other_realm :
    let p : Path := ⟨[], ["queue"]⟩
    let c : Change := ⟨⟨["host", "a@b/c"], "OLD.ORG"⟩, .ad,
      .setPassword ⟨"one two\r", by decide, by decide, by decide⟩⟩
    let name : Text := "host.a\\@b\\.c-ad-password-20240101T000000Z-00"
    let h := Host.withDirectory "queue" .newYear
    let h' := ((Queue.enqueue ⟨some p⟩ c none).on h).2
    let g := ((Queue.enqueue ⟨some p⟩ ⟨⟨["host"], []⟩, .ad, .enable⟩ none).on h').2
    (Queue.enqueue ⟨some p⟩ c none).on h = (.ok name, h') ∧
      g.files.read (p.join name) = h'.files.read (p.join name) ∧ c.Readable ∧ c.Named ∧
      c.deferred "NEW.ORG" = ⟨"host/a\\@b\\/c@NEW.ORG", .password, some "one two\r"⟩ ∧
      c.Deferral .accepting "NEW.ORG" (p.join name) g := by
  intro p c name h h' g
  have enqueued : (Queue.enqueue ⟨some p⟩ c none).on h = (.ok name, h') :=
    Act.on_eq_of_fst (by decide +kernel)
  have kept : g.files.read (p.join name) = h'.files.read (p.join name) := by decide +kernel
  have readable : c.Readable :=
    ⟨by decide +kernel, by decide +kernel, fun t given => by cases given; decide +kernel⟩
  exact ⟨enqueued, kept, readable, by decide +kernel, by decide +kernel,
    deferral_of_enqueued enqueued kept .accepting "NEW.ORG"⟩

end AccountRelay
