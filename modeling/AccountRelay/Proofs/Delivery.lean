import AccountRelay.Delivery
import AccountRelay.Proofs.Lock
/-!
# Calls of a backend

A backend may do anything to the files, but nothing else to the host. The two promises that matter
here are that it does not touch the queue directory, and that it reports no failure but a refusal.
-/

namespace AccountRelay

/-- The backend leaves a directory that the path leads to as it is, and what is in it. -/
def Backend.Spares (backend : Backend) (p : Path) : Prop :=
  ∀ call h l, h.files.LeadsTo p l →
    (backend call h).files.LeadsTo p l ∧
      ∀ name, (backend call h).files.get? (l ++ [name]) = h.files.get? (l ++ [name])

/-- The backend leaves the directory where it is, and makes none in the place of its lock file. -/
def Backend.Steady (backend : Backend) (p : Path) : Prop :=
  ∀ call h l, h.files.LeadsTo p l →
    (backend call h).files.LeadsTo p l ∧
      ((backend call h).files.get? (l ++ [QueueLock.fileName]) = some .directory →
        h.files.get? (l ++ [QueueLock.fileName]) = some .directory)

/-- When the backend fails, it has refused the change. -/
def Backend.OnlyRefuses (backend : Backend) : Prop :=
  ∀ call h e, (backend call h).failure = some e → e.kind = .delivery

/-- The backend neither touches the directory nor fails otherwise than by refusing. -/
def Backend.Orderly (backend : Backend) (p : Path) : Prop := backend.Spares p ∧ backend.OnlyRefuses

/-- The host after a call has the files that the backend made of it. -/
structure Backend.Called (backend : Backend) (call : Call) (h h' : Host) : Prop where
  files : h'.files = (backend call (h.record (.called call))).files
  clock : h'.clock = h.clock
  locked : ∀ l ∈ h'.locked, l ∈ h.locked
  calls : h'.journal.calls = h.journal.calls ++ [call]

namespace Backend

variable {backend : Backend} {call : Call} {h h' : Host}

def served (backend : Backend) (call : Call) (h : Host) : Host :=
  (h.record (.called call)).withFiles (backend call (h.record (.called call))).files

theorem called_served (backend : Backend) (call : Call) (h : Host) :
    backend.Called call h (backend.served call h) where
  files := rfl
  clock := rfl
  locked _ held := (List.mem_filter.1 held).1
  calls := Journal.calls_append _ _

theorem deliveries_served (backend : Backend) (call : Call) (h : Host) :
    (backend.served call h).journal.deliveries = h.journal.deliveries := by
  change Journal.deliveries (h.journal ++ [.called call]) = _
  rw [Journal.deliveries_append]
  exact List.append_nil _

theorem deliver_on (backend : Backend) (call : Call) (h : Host) :
    (backend.deliver call).on h = match (backend call (h.record (.called call))).failure with
      | none => (.ok (), (backend.served call h).record (.delivered call))
      | some e => (.error e, backend.served call h) := by
  cases failure : (backend call (h.record (.called call))).failure with
  | none => simp [deliver, served, Act.on_bind, failure]
  | some e => simp [deliver, served, Act.on_bind, failure]

theorem deliver_cases (backend : Backend) (call : Call) (h : Host) :
    (∃ e h', (backend call (h.record (.called call))).failure = some e ∧
      backend.Called call h h' ∧ h'.journal.deliveries = h.journal.deliveries ∧
      (backend.deliver call).on h = (.error e, h')) ∨
      ∃ h', (backend call (h.record (.called call))).failure = none ∧
        backend.Called call h h' ∧ h'.journal.deliveries = h.journal.deliveries ++ [call] ∧
        (backend.deliver call).on h = (.ok (), h') := by
  have called := called_served backend call h
  have before := deliveries_served backend call h
  have done := deliver_on backend call h
  cases failure : (backend call (h.record (.called call))).failure with
  | some e =>
    rw [failure] at done
    exact .inl ⟨e, backend.served call h, rfl, called, before, done⟩
  | none =>
    rw [failure] at done
    refine .inr ⟨(backend.served call h).record (.delivered call), rfl, ?_, ?_, done⟩
    · have calls : Journal.calls ((backend.served call h).journal ++ [.delivered call]) =
          (backend.served call h).journal.calls := by
        rw [Journal.calls_append]
        exact List.append_nil _
      exact ⟨called.files, called.clock, called.locked, calls.trans called.calls⟩
    · change Journal.deliveries ((backend.served call h).journal ++ [.delivered call]) = _
      rw [Journal.deliveries_append, before]
      rfl

theorem of_deliver_error {e : Failure} (failed : (backend.deliver call).on h = (.error e, h')) :
    (backend call (h.record (.called call))).failure = some e ∧ backend.Called call h h' ∧
      h'.journal.deliveries = h.journal.deliveries := by
  obtain ⟨e', after, failure, called, deliveries, done⟩ | ⟨after, -, -, -, done⟩ :=
    deliver_cases backend call h
  · rw [failed] at done
    cases done
    exact ⟨failure, called, deliveries⟩
  · rw [failed] at done
    cases done

theorem of_deliver_ok (accepted : (backend.deliver call).on h = (.ok (), h')) :
    backend.Called call h h' ∧ h'.journal.deliveries = h.journal.deliveries ++ [call] := by
  obtain ⟨e', after, -, -, -, done⟩ | ⟨after, -, called, deliveries, done⟩ :=
    deliver_cases backend call h
  · rw [accepted] at done
    cases done
  · rw [accepted] at done
    cases done
    exact ⟨called, deliveries⟩

theorem failure_of_deliver_ok (accepted : (backend.deliver call).on h = (.ok (), h')) :
    (backend call (h.record (.called call))).failure = none := by
  cases failure : (backend call (h.record (.called call))).failure with
  | none => rfl
  | some e =>
    rw [deliver_on, failure] at accepted
    cases accepted

theorem Called.leadsTo {p : Path} {l : Location} (called : backend.Called call h h')
    (spares : backend.Spares p) (leads : h.files.LeadsTo p l) : h'.files.LeadsTo p l := by
  rw [called.files]
  exact (spares call (h.record (.called call)) l leads).1

theorem Called.get?_below {p : Path} {l : Location} (called : backend.Called call h h')
    (spares : backend.Spares p) (leads : h.files.LeadsTo p l) (name : Text) :
    h'.files.get? (l ++ [name]) = h.files.get? (l ++ [name]) := by
  rw [called.files]
  exact (spares call (h.record (.called call)) l leads).2 name

theorem Called.unmoved {p : Path} {l : Location} (called : backend.Called call h h')
    (spares : backend.Spares p) (leads : h.files.LeadsTo p l)
    (deliveries : h'.journal.deliveries = h.journal.deliveries) : h.Unmoved p l h' where
  clock := called.clock
  locked := called.locked
  deliveries := deliveries
  leads := called.leadsTo spares leads
  held name _ := called.get?_below spares leads name

theorem Spares.steady {p : Path} (spares : backend.Spares p) : backend.Steady p := by
  intro call h l leads
  obtain ⟨leads', same⟩ := spares call h l leads
  refine ⟨leads', ?_⟩
  intro directory
  rw [← same, directory]

def accepting : Backend := fun _ h => ⟨h.files, none⟩

def refusing : Backend := fun _ h => ⟨h.files, some (.reported .delivery "not now" none)⟩

def failingOn (operation : Operation) (e : Failure) : Backend := fun call h =>
  ⟨h.files, if call.operation = operation then some e else none⟩

theorem spares_failingOn (operation : Operation) (e : Failure) (p : Path) :
    (failingOn operation e).Spares p := fun _ _ _ leads => ⟨leads, fun _ => rfl⟩

theorem orderly_failingOn (operation : Operation) {e : Failure} (delivery : e.kind = .delivery)
    (p : Path) : (failingOn operation e).Orderly p := by
  refine ⟨spares_failingOn operation e p, ?_⟩
  intro call h e' failure
  simp only [failingOn] at failure
  split at failure
  · cases failure
    exact delivery
  · cases failure

theorem orderly_accepting (p : Path) : accepting.Orderly p :=
  ⟨fun _ _ _ leads => ⟨leads, fun _ => rfl⟩, fun _ _ _ failure => nomatch failure⟩

theorem orderly_refusing (p : Path) : refusing.Orderly p := by
  refine ⟨fun _ _ _ leads => ⟨leads, fun _ => rfl⟩, ?_⟩
  intro call h e failure
  cases failure
  rfl

end Backend

end AccountRelay
