import AccountRelay.Proofs.Run
/-!
# Which queued changes are listed

The lock of a directory in which an entry was made can be taken again, whatever is requested
afterwards, so the entries can be listed at any time. A listing leaves out names that start with a
dot, because the lock file has such a name. The name of an entry starts with the user of its change,
so a change is listed as long as its file is there, unless its user starts with a dot.
-/

namespace AccountRelay

/-! ## What keeps the lock free -/

/-- The directory stays where it is, no directory takes the place of its lock file, and no lock is
held that was not held before. -/
structure Host.Steady (p : Path) (l : Location) (h h' : Host) : Prop where
  leads : h.files.LeadsTo p l → h'.files.LeadsTo p l
  file : h.files.LeadsTo p l → h'.files.get? (l ++ [QueueLock.fileName]) = some .directory →
    h.files.get? (l ++ [QueueLock.fileName]) = some .directory
  locked : ∀ m ∈ h'.locked, m ∈ h.locked

namespace Host

variable {p : Path} {l : Location} {h h' h'' : Host}

theorem Steady.refl (p : Path) (l : Location) (h : Host) : Steady p l h h :=
  ⟨id, fun _ directory => directory, fun _ held => held⟩

theorem Steady.trans (first : Steady p l h h') (second : Steady p l h' h'') : Steady p l h h'' where
  leads leads := second.leads (first.leads leads)
  file leads directory := first.file leads (second.file (first.leads leads) directory)
  locked m held := first.locked m (second.locked m held)

instance (p : Path) (l : Location) : Std.Refl (Steady p l) := ⟨Steady.refl p l⟩

instance (p : Path) (l : Location) : IsTrans Host (Steady p l) := ⟨fun _ _ _ => Steady.trans⟩

theorem Lockable.steady (lockable : h.Lockable p l) (steady : Steady p l h h') : h'.Lockable p l where
  leads := steady.leads lockable.leads
  nul := lockable.nul
  admitted := lockable.admitted
  file := fun directory => lockable.file (steady.file lockable.leads directory)
  free := fun held => lockable.free (steady.locked _ held)

theorem Idle.steady {q : Path} (idle : h.Idle q h') : Steady p l h h' where
  leads leads := idle.files.leadsTo leads
  file _ directory := (idle.files.get?_directory _).1 directory
  locked _ held := idle.locked ▸ held

end Host

section Steady

variable {p : Path} {l : Location} {h h' : Host}

theorem Backend.Called.steady {backend : Backend} {call : Call} (called : backend.Called call h h')
    (steady : backend.Steady p) : h.Steady p l h' where
  leads leads := by
    rw [called.files]
    exact (steady call (h.record (.called call)) l leads).1
  file leads directory := by
    rw [called.files] at directory
    exact (steady call (h.record (.called call)) l leads).2 directory
  locked := called.locked

theorem FileSystem.steady_of_unlink {file : Path} {files : FileSystem}
    (unlinked : h.files.unlink file = .ok files) : h.Steady p l (h.withFiles files) := by
  obtain ⟨m, mode, content, -, held, rfl⟩ := of_unlink unlinked
  have other : h.files.get? m ≠ some .directory := by simp [held]
  refine ⟨fun leads => leads.erase other, fun _ directory => ?_, fun k inside =>
    (List.mem_filter.1 inside).1⟩
  change (h.files.erase m).get? _ = _ at directory
  by_cases same : l ++ [QueueLock.fileName] = m
  · rw [← same, get?_erase_self h.files (below_ne_nil l _)] at directory
    cases directory
  · rwa [get?_erase_of_ne h.files same] at directory

theorem Queue.Enqueued.steady {c : Change} {moment : Option Moment} {name : Text}
    (enqueued : Enqueued p c moment h name h') : h.Steady p l h' := by
  obtain ⟨quiet, second, sequence, content, -, added⟩ := enqueued.written
  refine ⟨added.leadsTo, fun leads => (added.get?_directory leads _).1, ?_⟩
  intro m held
  exact quiet.locked ▸ held

theorem Relay.Ends.steady {r : Relay} (steady : ∀ backend, r.backend = some backend → backend.Steady p)
    {c : Change} {result : Except Failure PropagateResult} (ends : r.Ends p c h result h') :
    h.Steady p l h' := by
  cases ends with
  | failed idle => exact idle.steady
  | skipped idle => exact idle.steady
  | forced enqueued => exact enqueued.steady
  | conflict _ enqueued => exact enqueued.steady
  | done configured idle clear delivered idle' =>
    have called := (Backend.of_deliver_ok delivered).1
    exact idle.steady.trans ((called.steady (steady _ configured)).trans idle'.steady)
  | refused configured idle clear called delivery enqueued =>
    have called := (Backend.of_deliver_error called).2.1
    exact idle.steady.trans ((called.steady (steady _ configured)).trans enqueued.steady)
  | lost configured idle clear called idle' =>
    have called := (Backend.of_deliver_error called).2.1
    exact idle.steady.trans ((called.steady (steady _ configured)).trans idle'.steady)

theorem keeps_drain_steady {backend : Backend} (steady : backend.Steady p) (defaultRealm : Text) :
    (drain backend defaultRealm (some ⟨some p⟩)).Keeps (Host.Steady p l) :=
  keeps_drain Host.Idle.steady (fun called => called.steady steady) FileSystem.steady_of_unlink

theorem Request.Ends.steady {request : Request} {result : Except Failure Answer}
    (steady : ∀ backend, request.backend? = some backend → backend.Steady p)
    (ends : request.Ends p h result h') : h.Steady p l h' := by
  cases ends with
  | idle _ idle => exact idle.steady
  | propagated _ _ served ends =>
    exact ends.steady fun backend configured => steady backend (served.trans configured)
  | enqueued _ enqueued => exact enqueued.steady
  | drained _ served done => exact (keeps_drain_steady (steady _ served) _).of_on done
  | deleted _ done =>
    exact (Entry.keeps_remove (R := Host.Steady p l) FileSystem.steady_of_unlink _).of_on done

end Steady

/-! ## What is listed -/

namespace Queue

/-- The names are what is listed of the queue, and what every drain goes through. -/
structure Lists (q : Queue) (h : Host) (names : List Text) : Prop where
  entries : (q.entries.on h).1 = .ok names
  drain : ∀ backend defaultRealm, ((drain backend defaultRealm (some q)).on h).1 =
    ((Drain.run backend defaultRealm q [] ⟨[], [], []⟩ names).on (q.entries.on h).2).1

theorem lists_of_lockable {p : Path} {l : Location} {h : Host} (lockable : h.Lockable p l) :
    Lists ⟨some p⟩ h (h.files.named l EntryName.isListed) := by
  obtain ⟨h', -, done⟩ := entries_of_lockable lockable
  refine ⟨by rw [done], fun backend defaultRealm => ?_⟩
  rw [AccountRelay.drain, Act.on_bind_of_ok h _ done, done, Act.on_bind]
  rcases (Drain.run backend defaultRealm ⟨some p⟩ [] ⟨[], [], []⟩
    (h.files.named l EntryName.isListed)).on h' with ⟨_ | r, h''⟩ <;> rfl

end Queue

/-- The step has answered with the name, or there is a new file with it that is not the lock file. -/
def Step.Gives (p : Path) (l : Location) (h : Host) (step : Step) (name : Text) : Prop :=
  ((step.request.act ⟨some p⟩).on (step.begin h)).1 = .ok (.queued (some name)) ∨
    name ≠ QueueLock.fileName ∧ ¬ h.files.HasFile l name ∧
      ((step.request.act ⟨some p⟩).on (step.begin h)).2.files.HasFile l name

section Placed

variable {p : Path} {l : Location} {c : Change} {h h' : Host} {name : Text}

/-- The name is one for the change, and the lock is free. -/
def Queue.Placed (p : Path) (l : Location) (c : Change) (name : Text) (h : Host) : Prop :=
  h.Lockable p l ∧ ∃ second sequence, name = EntryName.compose c.key second sequence

theorem Host.Idle.not_new (idle : h.Idle p h') (leads : h.files.LeadsTo p l)
    (lock : name ≠ QueueLock.fileName) (absent : ¬ h.files.HasFile l name) :
    ¬ h'.files.HasFile l name := by
  have same := FileSystem.hasFile_congr ((idle.unmoved leads).held name lock)
  rwa [same]

theorem Queue.Enqueued.placed {moment : Option Moment}
    (enqueued : Queue.Enqueued p c moment h name h') (leads : h.files.LeadsTo p l) :
    Queue.Placed p l c name h' := by
  have lockable := (enqueued.lockable l leads).steady enqueued.steady
  obtain ⟨-, second, sequence, -, rfl, -⟩ := enqueued.written
  exact ⟨lockable, second, sequence, rfl⟩

theorem Queue.Enqueued.placed_of_new {moment : Option Moment} {n : Text}
    (enqueued : Queue.Enqueued p c moment h n h') (leads : h.files.LeadsTo p l)
    (lock : name ≠ QueueLock.fileName) (absent : ¬ h.files.HasFile l name)
    (new : h'.files.HasFile l name) : Queue.Placed p l c name h' := by
  by_cases own : name = n
  · subst own
    exact enqueued.placed leads
  · obtain ⟨-, second, sequence, content, rfl, added⟩ := enqueued.written
    have same := FileSystem.hasFile_congr (added.get?_of_ne leads lock own)
    exact absurd (same.1 new) absent

theorem Backend.Called.not_new {backend : Backend} {call : Call} {before : Host}
    (called : backend.Called call before h') (spares : backend.Spares p) (idle : h.Idle p before)
    (leads : h.files.LeadsTo p l) (lock : name ≠ QueueLock.fileName)
    (absent : ¬ h.files.HasFile l name) :
    h'.files.LeadsTo p l ∧ ¬ h'.files.HasFile l name := by
  have leads' := idle.files.leadsTo leads
  have same := FileSystem.hasFile_congr (called.get?_below spares leads' name)
  refine ⟨called.leadsTo spares leads', ?_⟩
  rw [same]
  exact idle.not_new leads lock absent

theorem Relay.Ends.placed {r : Relay} {result : Except Failure PropagateResult}
    (spares : ∀ backend, r.backend = some backend → backend.Spares p)
    (leads : h.files.LeadsTo p l) (lock : name ≠ QueueLock.fileName)
    (absent : ¬ h.files.HasFile l name) (new : h'.files.HasFile l name)
    (ends : r.Ends p c h result h') : Queue.Placed p l c name h' := by
  cases ends with
  | failed idle => exact absurd new (idle.not_new leads lock absent)
  | skipped idle => exact absurd new (idle.not_new leads lock absent)
  | forced enqueued => exact enqueued.placed_of_new leads lock absent new
  | conflict _ enqueued => exact enqueued.placed_of_new leads lock absent new
  | done configured idle clear delivered idle' =>
    have called := (Backend.of_deliver_ok delivered).1
    obtain ⟨leads', absent'⟩ := called.not_new (spares _ configured) idle leads lock absent
    exact absurd new (idle'.not_new leads' lock absent')
  | refused configured idle clear called delivery enqueued =>
    have called := (Backend.of_deliver_error called).2.1
    obtain ⟨leads', absent'⟩ := called.not_new (spares _ configured) idle leads lock absent
    exact enqueued.placed_of_new leads' lock absent' new
  | lost configured idle clear called idle' =>
    have called := (Backend.of_deliver_error called).2.1
    obtain ⟨leads', absent'⟩ := called.not_new (spares _ configured) idle leads lock absent
    exact absurd new (idle'.not_new leads' lock absent')

/-- A name that a request gave for a change is the name of its entry. -/
theorem Request.Ends.placed {request : Request} {result : Except Failure Answer}
    (spares : ∀ backend, request.backend? = some backend → backend.Spares p)
    (leads : h.files.LeadsTo p l) (asked : request.change? = some c)
    (gives : result = .ok (.queued (some name)) ∨
      name ≠ QueueLock.fileName ∧ ¬ h.files.HasFile l name ∧ h'.files.HasFile l name)
    (ends : request.Ends p h result h') : Queue.Placed p l c name h' := by
  cases ends with
  | idle nothing idle =>
    obtain rfl | ⟨lock, absent, new⟩ := gives
    · cases nothing
    · exact absurd new (idle.not_new leads lock absent)
  | @propagated r _ result _ asked' _ served ends =>
    rw [asked] at asked'
    cases asked'
    obtain queued | ⟨lock, absent, new⟩ := gives
    · cases result <;> cases queued
    · refine ends.placed ?_ leads lock absent new
      intro backend configured
      exact spares backend (served.trans configured)
  | enqueued asked' enqueued =>
    rw [asked] at asked'
    cases asked'
    obtain queued | ⟨lock, absent, new⟩ := gives
    · cases queued
      exact enqueued.placed leads
    · exact enqueued.placed_of_new leads lock absent new
  | drained asked' =>
    rw [asked] at asked'
    cases asked'
  | deleted asked' =>
    subst asked'
    cases asked

end Placed

section Visible

variable {p : Path} {l : Location} {h : Host}

theorem steps_steady (s : Progress) {steps : List Step}
    (steady : ∀ step ∈ steps, ∀ backend, step.request.backend? = some backend → backend.Steady p) :
    s.host.Steady p l (steps.foldl (Progress.after ⟨some p⟩) s).host := by
  induction steps generalizing s with
  | nil => exact .refl p l s.host
  | cons step rest ih =>
    have begun : s.host.Steady p l (step.begin s.host) :=
      ⟨id, fun _ directory => directory, fun _ held => held⟩
    have requested : (step.begin s.host).Steady p l (Progress.after ⟨some p⟩ s step).host :=
      (Request.ends p step.request _).steady (steady step List.mem_cons_self)
    refine (begun.trans requested).trans (ih _ ?_)
    intro other inside
    exact steady other (List.mem_cons_of_mem step inside)

theorem Host.Lockable.begin (lockable : h.Lockable p l) (step : Step) : (step.begin h).Lockable p l :=
  ⟨lockable.leads, lockable.nul, lockable.admitted, lockable.file, lockable.free⟩

/-- A lock that can be taken in the beginning can be taken at any time. -/
theorem Host.Lockable.run {steps : List Step} (lockable : h.Lockable p l)
    (steady : ∀ step ∈ steps, ∀ backend, step.request.backend? = some backend → backend.Steady p) :
    (run ⟨some p⟩ h steps).host.Lockable p l := by
  have begun : Host.Lockable { h with journal := [] } p l :=
    ⟨lockable.leads, lockable.nul, lockable.admitted, lockable.file, lockable.free⟩
  exact begun.steady (steps_steady ⟨{ h with journal := [] }, []⟩ steady)

/-- In a run, an entry that a step has made is listed as long as its file is there, if and only if the
user of its change does not start with a dot. -/
theorem listed_of_queued (leads : h.files.LeadsTo p l) {before rest : List Step} {step : Step}
    (steady : ∀ s ∈ before ++ rest, ∀ backend, s.request.backend? = some backend → backend.Steady p)
    (spares : ∀ backend, step.request.backend? = some backend → backend.Spares p)
    {c : Change} {name : Text} (asked : step.request.change? = some c)
    (gives : step.Gives p l (run ⟨some p⟩ h before).host name)
    (present : (run ⟨some p⟩ h (before ++ step :: rest)).host.files.HasFile l name) :
    ∃ names, Queue.Lists ⟨some p⟩ (run ⟨some p⟩ h (before ++ step :: rest)).host names ∧
      (name ∈ names ↔ c.principal.user.startsWith "." = false) := by
  have earlier : Host.Steady p l { h with journal := [] } (run ⟨some p⟩ h before).host := by
    refine steps_steady ⟨{ h with journal := [] }, []⟩ ?_
    intro s inside
    exact steady s (List.mem_append_left _ inside)
  have leads' : (step.begin (run ⟨some p⟩ h before).host).files.LeadsTo p l := earlier.leads leads
  -- The lock was free in the step, and nothing that came then has changed that.
  obtain ⟨lockable, second, sequence, rfl⟩ : Queue.Placed p l c name
      ((run ⟨some p⟩ h before).after ⟨some p⟩ step).host :=
    (Request.ends p step.request _).placed spares leads' asked gives
  rw [run_append_cons] at present ⊢
  have later := steps_steady (p := p) (l := l) ((run ⟨some p⟩ h before).after ⟨some p⟩ step)
    fun s inside => steady s (List.mem_append_right before inside)
  refine ⟨_, Queue.lists_of_lockable (lockable.steady later), ?_⟩
  have listed : EntryName.isListed (EntryName.compose c.key second sequence) =
      EntryName.isListed c.principal.user :=
    (EntryName.isListed_compose _ _ _ second sequence).trans (EntryName.isListed_keyOf _ _ _)
  rw [FileSystem.mem_named_iff, listed]
  simp [EntryName.isListed, present]

/-- An entry that was made because the delivery was refused, a drain that is refused as well, and a
deletion that fails. -/
theorem listed_of_queued_refused :
    let p : Path := ⟨[], ["queue"]⟩
    let h := Host.withDirectory "queue" .newYear
    let settings : Settings := ⟨none, false, none, none, [], none, false, []⟩
    let c : Change := ⟨⟨["test"], []⟩, .ad, .enable⟩
    let name : Text := "test-ad-enable-20240101T000000Z-00"
    let step : Step := ⟨.newYear, .propagate ⟨settings, some .refusing, ⟨none⟩, none⟩ c⟩
    let rest : List Step := [⟨.newYear, .drain .refusing []⟩, ⟨.newYear, .delete "other"⟩]
    h.files.LeadsTo p ["queue"] ∧
      (∀ s ∈ [] ++ rest, ∀ backend, s.request.backend? = some backend → backend.Steady p) ∧
      (∀ backend, step.request.backend? = some backend → backend.Spares p) ∧
      step.request.change? = some c ∧ step.Gives p ["queue"] (run ⟨some p⟩ h []).host name ∧
      (run ⟨some p⟩ h ([] ++ step :: rest)).host.files.HasFile ["queue"] name ∧
      ∃ names, Queue.Lists ⟨some p⟩ (run ⟨some p⟩ h ([] ++ step :: rest)).host names ∧
        (name ∈ names ↔ c.principal.user.startsWith "." = false) := by
  intro p h settings c name step rest
  have leads : h.files.LeadsTo p ["queue"] := ⟨by decide, by decide⟩
  have spares : Backend.refusing.Spares p := (Backend.orderly_refusing p).1
  have steady : ∀ s ∈ [] ++ rest, ∀ backend, s.request.backend? = some backend →
      backend.Steady p := by
    intro s inside backend configured
    simp only [rest, List.nil_append, List.mem_cons, List.not_mem_nil, or_false] at inside
    obtain rfl | rfl := inside
    · cases configured
      exact spares.steady
    · cases configured
  have spares' : ∀ backend, step.request.backend? = some backend → backend.Spares p := by
    intro backend configured
    cases configured
    exact spares
  have gives : step.Gives p ["queue"] (run ⟨some p⟩ h []).host name := by
    refine .inr ⟨by decide, ?_, Queue.entryMode, (Queue.content? c).getD [], by decide +kernel⟩
    rintro ⟨mode, content, held⟩
    have absent : (run ⟨some p⟩ h []).host.files.get? ["queue", name] = none := by
      decide +kernel
    cases absent.symm.trans held
  have present : (run ⟨some p⟩ h ([] ++ step :: rest)).host.files.HasFile ["queue"] name :=
    ⟨Queue.entryMode, (Queue.content? c).getD [], by decide +kernel⟩
  exact ⟨leads, steady, spares', rfl, gives, present,
    listed_of_queued leads steady spares' rfl gives present⟩

/-- An entry whose user starts with a dot has a file and is not listed. -/
theorem not_listed_of_dot :
    let p : Path := ⟨[], ["queue"]⟩
    let h := Host.withDirectory "queue" .newYear
    let name : Text := ".x-ad-enable-20240101T000000Z-00"
    let s := run ⟨some p⟩ h [⟨.newYear, .enqueue ⟨⟨[".x"], []⟩, .ad, .enable⟩ none⟩]
    ((Queue.enqueue ⟨some p⟩ ⟨⟨[".x"], []⟩, .ad, .enable⟩ none).on h).1 = .ok name ∧
      s.host.files.HasFile ["queue"] name ∧
      ((Queue.entries ⟨some p⟩).on s.host).1 = .ok [] := by
  intro p h name s
  exact ⟨by decide +kernel, ⟨Queue.entryMode, ".x\nad\nenable\n".toUTF8.toList, by decide +kernel⟩,
    by decide +kernel⟩

end Visible

end AccountRelay
