import AccountRelay.Proofs.Deferral
/-!
# What the result of a propagation tells

The result decides the effects. A change that is done was delivered, one that is queued has one new
file, and one that is skipped has left no trace at all. A change is never both delivered and queued,
and if the propagation fails it is neither.
-/

namespace AccountRelay

/-- A backend was called with the first calls, and accepted the second ones. -/
structure Host.Served (calls deliveries : List Call) (h h' : Host) : Prop where
  calls : h'.journal.calls = h.journal.calls ++ calls
  deliveries : h'.journal.deliveries = h.journal.deliveries ++ deliveries

/-- There is one new file, the entry of the change in the directory. All else is as it was, but that
the lock file may have been made. -/
def Queue.Gained (directory : Path) (c : Change) (time : Moment) (before after : FileSystem) : Prop :=
  ∃ l mid second sequence content, before.LeadsTo directory l ∧ before.LockMade directory mid ∧
    time.stamp? = some second ∧ content? c = some content ∧
    before.get? (l ++ [EntryName.compose c.key second sequence]) = none ∧
    after = mid.set (l ++ [EntryName.compose c.key second sequence]) (.file entryMode content)

/-- No name in the directory starts with the key. -/
def Queue.Without (directory : Path) (key : Text) (fs : FileSystem) : Prop :=
  ∃ found, fs.list directory = .ok found ∧ ∀ entry ∈ found, entry.1.startsWith key = false

namespace Relay

/-- What a propagation has done to the host, by its result. -/
inductive Shows (r : Relay) (c : Change) (h h' : Host) : Except Failure PropagateResult → Prop where
  | skipped (still : h.Still h') : Shows r c h h' (.ok .skipped)
  | done {p : Path} (queue : r.queue = ⟨some p⟩) (served : h.Served [c.direct] [c.direct] h')
    (made : h.files.LockMade p h'.files) (without : Queue.Without p c.key h.files) :
    Shows r c h h' (.ok .done)
  | forced {p : Path} (queue : r.queue = ⟨some p⟩) (served : h.Served [] [] h')
    (gained : Queue.Gained p c h.clock h.files h'.files) : Shows r c h h' (.ok .queueForced)
  | conflict {p : Path} (queue : r.queue = ⟨some p⟩) (served : h.Served [] [] h')
    (gained : Queue.Gained p c h.clock h.files h'.files) : Shows r c h h' (.ok .queueConflict)
  | refused {p : Path} (queue : r.queue = ⟨some p⟩) (served : h.Served [c.direct] [] h')
    (gained : Queue.Gained p c h.clock h.files h'.files) : Shows r c h h' (.ok .queueOnFailure)
  | failed {e : Failure} (served : h.Served [] [] h' ∨ h.Served [c.direct] [] h')
    (kept : h'.files = h.files ∨ ∃ p, r.queue = ⟨some p⟩ ∧ h.files.LockMade p h'.files) :
    Shows r c h h' (.error e)

end Relay

/-- The backend changes no file. -/
def Backend.Harmless (backend : Backend) : Prop := ∀ call h, (backend call h).files = h.files

/-! ## Files -/

namespace Queue

variable {p : Path} {c : Change} {time : Moment} {before after : FileSystem}

theorem Added.gained {second : Text} {sequence : Nat} {content : Bytes}
    (added : Added p c time second sequence content before after) :
    Gained p c time before after := by
  obtain ⟨l, leads⟩ := added.exists_leadsTo
  obtain ⟨mid, -, -, made, -, -, -, -, -, set⟩ := added.set leads
  exact ⟨l, mid, second, sequence, content, leads, made, added.stamped, added.encoded,
    (added.get?_self leads).1, set⟩

theorem Clear.without {key : Text} (clear : Clear p key before) : Without p key before := by
  obtain ⟨mid, found, made, listed, none⟩ := clear
  obtain ⟨l, leads⟩ := FileSystem.leadsTo_of_list listed
  rw [leads.list] at listed
  cases listed
  refine ⟨_, (made.leadsTo_before leads).list, ?_⟩
  rintro ⟨name, node⟩ inside
  rw [FileSystem.mem_entries_iff] at inside
  exact none (name, node) ((FileSystem.mem_entries_iff mid l name node).2 (made.get?_of_some inside))

end Queue

/-! ## Propagations that are skipped -/

namespace Relay

theorem deliverOrQueue_ne_skipped (r : Relay) (backend : Backend) (c : Change) (h : Host) :
    ((r.deliverOrQueue backend c).on h).1 ≠ .ok .skipped := by
  unfold deliverOrQueue
  rw [Act.on_bind, Act.on_attempt]
  simp only
  cases ((backend.deliver ⟨c.principal.unparse, c.operation, c.password⟩).on h).1 with
  | ok =>
    rw [Act.on_bind_of_ok _ _ (Act.on_log _ _ _)]
    exact nofun
  | error e =>
    by_cases delivery : e.kind = .delivery
    · simp only [if_pos delivery]
      rw [Act.on_bind_of_ok _ _ (Act.on_log _ _ _), Act.on_bind]
      split
      · exact nofun
      · exact nofun
    · simp only [if_neg delivery]
      exact nofun

/-- A propagation is only skipped before it has come to the queue. -/
theorem still_of_skipped {r : Relay} {c : Change} {h h' : Host}
    (skipped : (r.propagate c).on h = (.ok .skipped, h')) : h.Still h' := by
  cases propagate_begins r c h with
  | stopped still either ended =>
    rw [ended] at skipped
    cases skipped
    exact still
  | forced still only same =>
    rw [same, Act.on_bind] at skipped
    split at skipped <;> cases skipped
  | @tried backend h₁ still only configured same =>
    rw [same, Act.on_bind] at skipped
    split at skipped
    · rename_i name h₂ _
      cases name with
      | some name => cases skipped
      | none =>
        have other := deliverOrQueue_ne_skipped r backend c h₂
        simp only [Option.isSome_none, Bool.false_eq_true, if_false] at skipped
        rw [skipped] at other
        exact absurd rfl other
    · cases skipped

end Relay

/-! ## All results -/

section Served

variable {backend : Backend} {call : Call} {p : Path} {h before after h' : Host}

theorem Host.Quiet.served (quiet : h.Quiet h') : h.Served [] [] h' where
  calls := by rw [quiet.calls, List.append_nil]
  deliveries := by rw [quiet.deliveries, List.append_nil]

theorem Backend.Called.around (called : backend.Called call before after)
    (harmless : backend.Harmless) (idle : h.Idle p before) (idle' : after.Idle p h') :
    h.files.LockMade p h'.files := by
  have same : after.files = before.files := called.files.trans (harmless _ _)
  have made := idle'.files
  rw [same] at made
  exact idle.files.trans made

theorem Backend.Called.served {accepted : List Call} (called : backend.Called call before after)
    (deliveries : after.journal.deliveries = before.journal.deliveries ++ accepted)
    (quiet : h.Quiet before) (quiet' : after.Quiet h') : h.Served [call] accepted h' where
  calls := by rw [quiet'.calls, called.calls, quiet.calls]
  deliveries := by rw [quiet'.deliveries, deliveries, quiet.deliveries]

theorem Backend.served_of_error {e : Failure} (refused : (backend.deliver call).on before = (.error e, after))
    (quiet : h.Quiet before) (quiet' : after.Quiet h') : h.Served [call] [] h' := by
  obtain ⟨-, called, deliveries⟩ := of_deliver_error refused
  exact called.served (deliveries.trans (List.append_nil _).symm) quiet quiet'

end Served

namespace Relay

theorem Ends.shows {r : Relay} {p : Path} {c : Change} {h h' : Host}
    {result : Except Failure PropagateResult} (queue : r.queue = ⟨some p⟩)
    (harmless : ∀ backend, r.backend = some backend → backend.Harmless)
    (still : result = .ok .skipped → h.Still h') (ends : r.Ends p c h result h') :
    r.Shows c h h' result := by
  have gained {name : Text} {h₁ : Host} (enqueued : Queue.Enqueued p c none h₁ name h') :
      Queue.Gained p c h₁.clock h₁.files h'.files := by
    obtain ⟨-, second, sequence, content, -, added⟩ := enqueued.written
    exact added.gained
  cases ends with
  | failed idle => exact .failed (.inl idle.served) (.inr ⟨p, queue, idle.files⟩)
  | skipped idle => exact .skipped (still rfl)
  | forced enqueued => exact .forced queue enqueued.written.1.served (gained enqueued)
  | conflict _ enqueued => exact .conflict queue enqueued.written.1.served (gained enqueued)
  | done configured idle clear delivered idle' =>
    obtain ⟨called, deliveries⟩ := Backend.of_deliver_ok delivered
    have served := called.served deliveries idle.toQuiet idle'.toQuiet
    exact .done queue served (called.around (harmless _ configured) idle idle') clear.without
  | refused configured idle clear refused delivery enqueued =>
    have served := Backend.served_of_error refused idle.toQuiet enqueued.written.1
    obtain ⟨-, called, -⟩ := Backend.of_deliver_error refused
    have files := called.files.trans (harmless _ configured _ _)
    obtain ⟨-, second, sequence, content, -, added⟩ := enqueued.written
    rw [files] at added
    have first := added.before idle.files
    rw [Option.getD_none, called.clock, idle.clock] at first
    exact .refused queue served first.gained
  | lost configured idle clear refused idle' =>
    have served := Backend.served_of_error refused idle.toQuiet idle'.toQuiet
    obtain ⟨-, called, -⟩ := Backend.of_deliver_error refused
    have made := called.around (harmless _ configured) idle idle'
    exact .failed (.inr served) (.inr ⟨p, queue, made⟩)

/-- The result of a propagation tells what was delivered, what was queued, and that nothing else has
changed. -/
theorem propagate_shows (r : Relay)
    (harmless : ∀ backend, r.backend = some backend → backend.Harmless) (c : Change) (h : Host) :
    r.Shows c h ((r.propagate c).on h).2 ((r.propagate c).on h).1 := by
  cases queue : r.queue with
  | mk configured =>
    cases configured with
    | none =>
      obtain ⟨still, ⟨e, failed⟩ | skipped⟩ := still_of_unconfigured queue c h
      · rw [failed]
        exact .failed (.inl still.served) (.inl still.files)
      · rw [skipped]
        exact .skipped still
    | some p =>
      refine (propagate_ends queue c h).shows queue harmless ?_
      intro skipped
      exact still_of_skipped (Act.on_eq_of_fst skipped)

/-- A change whose delivery is refused has one file afterwards. -/
theorem propagate_shows_refused :
    let h := Host.withDirectory "queue" .newYear
    let settings : Settings := ⟨none, false, none, none, [], none, false, []⟩
    let r : Relay := ⟨settings, some .refusing, ⟨some ⟨[], ["queue"]⟩⟩, none⟩
    let c : Change := ⟨⟨["test"], "EXAMPLE.COM"⟩, .ad, .enable⟩
    (∀ backend, r.backend = some backend → backend.Harmless) ∧
      ((r.propagate c).on h).1 = .ok .queueOnFailure ∧
      r.Shows c h ((r.propagate c).on h).2 (.ok .queueOnFailure) := by
  intro h settings r c
  have harmless : ∀ backend, r.backend = some backend → backend.Harmless := by
    intro backend configured call host
    cases configured
    rfl
  have result : ((r.propagate c).on h).1 = .ok .queueOnFailure := by decide +kernel
  refine ⟨harmless, result, ?_⟩
  rw [← result]
  exact propagate_shows r harmless c h

end Relay

end AccountRelay
