import AccountRelay.Proofs.Conflict
import AccountRelay.Proofs.Deferral
import AccountRelay.Proofs.Principal.Realm
/-!
# What the check for a conflict foretells

The check takes a name as it was written, and a propagation takes a principal, whose realm may be the
default one. Both look for the same key, because realms are no part of it, and each looks under a lock
of its own. As long as no entry has come or gone in between, the check is true if and only if the
backend is not called.
-/

namespace AccountRelay

theorem Principal.exists_parse {name realm : Text} {principal : Principal}
    (read : parse name realm = .ok principal) (other : Text) :
    ∃ principal', parse name other = .ok principal' ∧ principal'.user = principal.user := by
  obtain ⟨s, scanned, named, rfl⟩ := parse_eq_ok_iff.1 read
  refine ⟨s.principal other, parse_eq_ok_iff.2 ⟨s, scanned, named, rfl⟩, ?_⟩
  exact congrArg (Text.replace (.char '/') (.char '.')) (account_eq_of_components rfl)

namespace Queue

variable {p : Path} {l : Location} {h : Host} {c : Change}

theorem keeps_hasPending (p : Path) (key : Text) :
    (hasPending ⟨some p⟩ key).Keeps (Host.Idle p) :=
  keeps_withLock ((keeps_search p).bind fun _ => Act.keeps_pure _)

theorem enqueueBehind_of_present (leads : h.files.LeadsTo p l) (moment : Option Moment) {name : Text}
    {node : Node} (lock : name ≠ QueueLock.fileName)
    (held : h.files.get? (l ++ [name]) = some node) (starts : name.startsWith c.key = true) :
    ∃ (result : Except Failure Text) (h' : Host), h.Quiet h' ∧
      (enqueueBehind ⟨some p⟩ c moment).on h = (result.map some, h') := by
  obtain ⟨e, h', idle, failed⟩ | ⟨h', -, clear, -⟩ | ⟨entry, h', enqueued, -, added⟩ :=
    enqueueBehind_cases p c moment h
  · exact ⟨.error e, h', idle.toQuiet, failed⟩
  · cases held.symm.trans (clear.get?_eq_none leads lock starts)
  · exact ⟨.ok entry, h', enqueued.written.1, added⟩

theorem enqueueBehind_of_absent (lockable : h.Lockable p l) (moment : Option Moment)
    (absent : ∀ name node, name ≠ QueueLock.fileName → h.files.get? (l ++ [name]) = some node →
      name.startsWith c.key = false) :
    ∃ h', h.Idle p h' ∧ (enqueueBehind ⟨some p⟩ c moment).on h = (.ok none, h') := by
  obtain ⟨files, made, done⟩ := lockable.withLock (writeBehind p c moment)
  have leads := made.leadsTo lockable.leads
  have none : (files.entries l).any (fun entry => entry.1.startsWith c.key) = false := by
    rw [List.any_eq_false]
    rintro ⟨name, node⟩ inside
    rw [FileSystem.mem_entries_iff] at inside
    by_cases lock : name = QueueLock.fileName
    · rw [lock, QueueLock.startsWith_fileName c.hyphen_mem_key]
      exact Bool.false_ne_true
    · rw [made.get?_below lockable.leads lock] at inside
      rw [absent name node lock inside]
      exact Bool.false_ne_true
  have scanned := scan_of_list (h := h.lock (l ++ [QueueLock.fileName]) files) lockable.nul leads.list
    c.key
  rw [none] at scanned
  have ended : ((enqueueBehind ⟨some p⟩ c moment).on h).1 = .ok Option.none := by
    rw [enqueueBehind_configured, Act.on_bind, done, writeBehind, Act.on_bind_of_ok _ _ scanned]
    rfl
  obtain ⟨e, h', -, failed⟩ | ⟨h', idle, -, done⟩ | ⟨name, h', -, -, done⟩ :=
    enqueueBehind_cases p c moment h
  · rw [failed] at ended
    cases ended
  · exact ⟨h', idle, done⟩
  · rw [done] at ended
    cases ended

theorem isPending_of_parse {name realm : Text}
    (parsed : Principal.parse name realm = .ok c.principal) (q : Queue) :
    q.isPending (.name name) Domain.ad.word c.operation.word = q.hasPending c.key := by
  obtain ⟨principal, read, user⟩ := Principal.exists_parse parsed []
  have key : keyOf principal.user .ad c.operation.changeClass = c.key := by
    rw [user, Change.key]
    cases c.domain
    rfl
  have named : Who.principal? (.name name) = .ok principal := read
  rw [isPending_of_principal named, key]

theorem isPending_enable_eq_disable (q : Queue) (who : Who) (domain : Text) :
    q.isPending who domain Operation.enable.word = q.isPending who domain Operation.disable.word := by
  have classes : ChangeClass.ofWord Operation.enable.word = ChangeClass.ofWord Operation.disable.word :=
    rfl
  rw [isPending, isPending, conflictKey, conflictKey, classes]

end Queue

namespace Relay

variable {r : Relay} {backend : Backend} {c : Change} {p : Path} {l : Location} {h h₁ : Host}

/-- What the answer of the check tells about a propagation that begins on the host: whether it calls
the backend, and that it otherwise only puts the change behind those in the queue. -/
structure Foretold (r : Relay) (c : Change) (h : Host) (pending : Bool) : Prop where
  calls : pending = true ↔ ((r.propagate c).on h).2.journal.calls = h.journal.calls
  waits : pending = true → (r.propagate c).on h =
    ((fun _ => PropagateResult.queueConflict) <$> r.queue.enqueueBehind c none).on
      ((r.permits c).on h).2
  called : pending = false →
    ((r.propagate c).on h).2.journal.calls = h.journal.calls ++ [c.direct]

theorem propagate_of_permits (configured : r.backend = some backend)
    (only : r.settings.queueOnly = false) (allowed : ((r.permits c).on h).1 = .ok true) :
    (r.propagate c).on h = (r.queue.enqueueBehind c none >>= fun name =>
      if name.isSome = true then pure .queueConflict else r.deliverOrQueue backend c).on
        ((r.permits c).on h).2 := by
  have goes : (r.propagate c).on h = _ := Act.on_bind_of_ok h _ (Act.on_eq_of_fst allowed)
  rw [goes, only, configured]
  rfl

/-- A change that nothing is in front of is passed to the backend once, whatever comes of it. -/
theorem calls_deliverOrQueue (queue : r.queue = ⟨some p⟩) (backend : Backend) (c : Change) (h : Host) :
    ((r.deliverOrQueue backend c).on h).2.journal.calls = h.journal.calls ++ [c.direct] := by
  unfold deliverOrQueue
  cases done : (backend.deliver ⟨c.principal.unparse, c.operation, c.password⟩).on h with
  | mk result after =>
    have called : after.journal.calls = h.journal.calls ++ [c.direct] := by
      obtain ⟨e, h', -, called, -, ended⟩ | ⟨h', -, called, -, ended⟩ :=
        backend.deliver_cases c.direct h
      · cases done.symm.trans ended
        exact called.calls
      · cases done.symm.trans ended
        exact called.calls
    have attempted := Act.on_attempt h (backend.deliver ⟨c.principal.unparse, c.operation, c.password⟩)
    rw [done] at attempted
    rw [Act.on_bind_of_ok h _ attempted, ← called]
    cases result with
    | ok => exact (Host.quiet_record (.logged .info _) trivial after).calls
    | error e =>
      by_cases delivery : e.kind = .delivery
      · simp only [if_pos delivery]
        rw [Act.on_bind_of_ok after _ (Act.on_log after _ _), queue]
        have logged := Host.quiet_record (.logged .warning ("AD " ++ c.operation.noun
          ++ " change failed, queuing: " ++ e.text)) trivial after
        obtain ⟨e', h', idle, failed⟩ | ⟨name, h', enqueued, added⟩ :=
          Queue.enqueue_cases p c none (after.record (.logged .warning ("AD "
            ++ c.operation.noun ++ " change failed, queuing: " ++ e.text)))
        · rw [Act.on_bind_of_error _ _ failed]
          exact (logged.trans idle.toQuiet).calls
        · rw [Act.on_bind_of_ok _ _ added]
          exact (logged.trans enqueued.written.1).calls
      · simp only [if_neg delivery]
        rfl

/-- The check for a conflict, with the written name, foretells whether a propagation of the principal
calls the backend. It tells no difference between enabling and disabling. -/
theorem isPending_foretells (queue : r.queue = ⟨some p⟩) (configured : r.backend = some backend)
    (only : r.settings.queueOnly = false) (lockable : h.Lockable p l) {name realm : Text}
    (parsed : Principal.parse name realm = .ok c.principal) (idle : h.Idle p h₁)
    (allowed : ((r.permits c).on h₁).1 = .ok true) :
    (∃ pending h', h.Idle p h' ∧ r.Foretold c h₁ pending ∧
      (r.queue.isPending (.name name) Domain.ad.word c.operation.word).on h = (.ok pending, h')) ∧
      ∀ who domain, r.queue.isPending who domain Operation.enable.word =
        r.queue.isPending who domain Operation.disable.word := by
  refine ⟨?_, r.queue.isPending_enable_eq_disable⟩
  rw [Queue.isPending_of_parse parsed, queue]
  obtain ⟨pending, answered⟩ := Queue.hasPending_of_lockable lockable c.key
  refine ⟨pending, _, Queue.keeps_hasPending p c.key h, ?_, Act.on_eq_of_fst answered⟩
  have found := Queue.hasPending_iff lockable.leads c.hyphen_mem_key answered
  -- The propagation has come to the queue, and so far nothing has changed there.
  have still : h₁.Still ((r.permits c).on h₁).2 := still_permits r c h₁
  have goes := propagate_of_permits configured only allowed
  obtain ⟨h₂, permitted⟩ : ∃ h₂, ((r.permits c).on h₁).2 = h₂ := ⟨_, rfl⟩
  rw [permitted] at still goes
  have begun : h.Idle p h₂ := idle.trans (still.idle p)
  have lockable' : h₂.Lockable p l := lockable.steady begun.steady
  have held {name : Text} (lock : name ≠ QueueLock.fileName) :
      h₂.files.get? (l ++ [name]) = h.files.get? (l ++ [name]) :=
    (begun.unmoved lockable.leads).held name lock
  rw [queue] at goes
  cases pending with
  | true =>
    obtain ⟨name, node, lock, here, starts⟩ := found.1 rfl
    obtain ⟨result, h', quiet, put⟩ :=
      Queue.enqueueBehind_of_present (c := c) lockable'.leads none lock ((held lock).trans here) starts
    have waits : (r.propagate c).on h₁ = (result.map fun _ => .queueConflict, h') := by
      rw [goes, Act.on_bind, put]
      cases result <;> rfl
    refine ⟨⟨fun _ => ?_, fun _ => rfl⟩, fun _ => ?_, nofun⟩
    · rw [waits]
      exact quiet.calls.trans still.calls
    · rw [waits, permitted, queue, Act.on_map, put]
      cases result <;> rfl
  | false =>
    obtain ⟨h₃, idle', passed⟩ := Queue.enqueueBehind_of_absent (c := c) lockable' none <| by
      intro name node lock here
      rw [held lock] at here
      cases starts : name.startsWith c.key with
      | false => rfl
      | true => exact absurd (found.2 ⟨name, node, lock, here, starts⟩) Bool.false_ne_true
    rw [Act.on_bind_of_ok _ _ passed] at goes
    have made : ((r.propagate c).on h₁).2.journal.calls = h₁.journal.calls ++ [c.direct] := by
      rw [goes, ← still.calls, ← idle'.calls]
      exact calls_deliverOrQueue queue backend c h₃
    refine ⟨⟨nofun, fun same => ?_⟩, nofun, fun _ => made⟩
    rw [made] at same
    simp at same

/-- Enabling the account waits in another realm, and disabling it is foretold to wait as well. -/
theorem isPending_foretells_of_other_realm :
    let p : Path := ⟨[], ["queue"]⟩
    let h := Host.withEntries "queue" .newYear [⟨⟨["test"], "OLD.ORG"⟩, .ad, .enable⟩]
    let settings : Settings := ⟨none, false, none, none, [], none, false, []⟩
    let r : Relay := ⟨settings, some .accepting, ⟨some p⟩, none⟩
    let c : Change := ⟨⟨["test"], "NEW.ORG"⟩, .ad, .disable⟩
    r.queue = ⟨some p⟩ ∧ r.backend = some .accepting ∧ r.settings.queueOnly = false ∧
      h.Lockable p ["queue"] ∧ Principal.parse "test" "NEW.ORG" = .ok c.principal ∧ h.Idle p h ∧
      ((r.permits c).on h).1 = .ok true ∧
      (∃ pending h', h.Idle p h' ∧ r.Foretold c h pending ∧
        (r.queue.isPending (.name "test") "ad" "disable").on h = (.ok pending, h')) ∧
      ∀ who domain, r.queue.isPending who domain "enable" = r.queue.isPending who domain "disable" := by
  intro p h settings r c
  have lockable : h.Lockable p ["queue"] :=
    ⟨⟨by decide +kernel, by decide +kernel⟩, by decide, by decide, by decide +kernel, by decide +kernel⟩
  have parsed : Principal.parse "test" "NEW.ORG" = .ok c.principal := by decide
  have allowed : ((r.permits c).on h).1 = .ok true := by decide +kernel
  exact ⟨rfl, rfl, rfl, lockable, parsed, .refl p h, allowed,
    isPending_foretells rfl rfl rfl lockable parsed (.refl p h) allowed⟩

end Relay

end AccountRelay
