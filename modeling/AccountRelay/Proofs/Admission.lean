import AccountRelay.Proofs.Change
import AccountRelay.Proofs.Conflict
import AccountRelay.Proofs.Deferral
/-!
# Which principals reach a backend

The settings say which instances are let through, and they are asked once, before a change is
delivered or queued. The account that a backend sees later is read from a file. It still names the
principal that was let through: what the directory holds are the files of such changes, and a file
gives the components of its change back.
-/

namespace AccountRelay

/-- The principal has no second component, or one that is the base instance or is listed. -/
def Settings.Admits (s : Settings) (who : Principal) : Prop :=
  ∀ inst, who.instance? = some inst → some inst = s.adBaseInstance ∨ inst ∈ s.adInstances

/-- The account of the call names a principal that the settings let through, whatever realm it is
read in. -/
def Settings.Allows (s : Settings) (call : Call) : Prop :=
  ∀ defaultRealm, ∃ who, Principal.parse call.account defaultRealm = .ok who ∧ s.Admits who

/-- The change is for a principal that can be read, and that the settings let through. -/
structure Settings.Passes (s : Settings) (c : Change) : Prop where
  named : c.Named
  admits : s.Admits c.principal

/-- What the settings let through is all that a host has called a backend for, and all that is in the
directory besides the lock file. -/
structure Host.Filtered (s : Settings) (p : Path) (l : Location) (h : Host) : Prop where
  leads : h.files.LeadsTo p l
  files : ∀ name node, name ≠ QueueLock.fileName → h.files.get? (l ++ [name]) = some node →
    name.IsPart ∧ ∃ c mode content, s.Passes c ∧ Queue.content? c = some content ∧
      node = .file mode content
  calls : ∀ call ∈ h.journal.calls, s.Allows call

/-- The backend leaves the directory where it is, and puts nothing into it. -/
def Backend.PutsNothing (backend : Backend) (p : Path) : Prop :=
  ∀ call h l, h.files.LeadsTo p l →
    (backend call h).files.LeadsTo p l ∧
      ∀ name, (backend call h).files.get? (l ++ [name]) = h.files.get? (l ++ [name]) ∨
        (backend call h).files.get? (l ++ [name]) = none

theorem Backend.Spares.putsNothing {backend : Backend} {p : Path} (spares : backend.Spares p) :
    backend.PutsNothing p := by
  intro call h l leads
  obtain ⟨leads', same⟩ := spares call h l leads
  exact ⟨leads', fun name => .inl (same name)⟩

theorem Backend.Called.thinned_of_putsNothing {backend : Backend} {call : Call} {p : Path}
    {l : Location} {h h' : Host} (called : backend.Called call h h')
    (nothing : backend.PutsNothing p) : h.Thinned p l h' where
  leads leads := by
    rw [called.files]
    exact (nothing call (h.record (.called call)) l leads).1
  held leads name _ := by
    rw [called.files]
    exact (nothing call (h.record (.called call)) l leads).2 name

/-! ## What a change that passes asks for -/

section Passes

variable {s : Settings} {c : Change}

theorem Settings.Admits.allows_unparse {who : Principal} (admits : s.Admits who)
    (named : who.components.headD [] ≠ []) (operation : Operation) (password : Option Text) :
    s.Allows ⟨who.unparse, operation, password⟩ :=
  fun defaultRealm => ⟨_, Principal.parse_unparse who defaultRealm named, admits⟩

theorem Settings.Passes.allows_direct (passes : s.Passes c) : s.Allows c.direct :=
  passes.admits.allows_unparse passes.named _ _

theorem Settings.Passes.allows_deferred (passes : s.Passes c) (defaultRealm : Text) :
    s.Allows (c.deferred defaultRealm) :=
  @Settings.Admits.allows_unparse s ⟨c.principal.components, defaultRealm⟩ passes.admits
    passes.named _ _

theorem Change.named_of_compose {name operation : Text} {password : Option Text}
    (composed : compose (.name name) operation password = .ok c) : c.Named :=
  Principal.named_of_parse (compose_eq_ok_iff.1 composed).principal

end Passes

/-! ## What keeps to it -/

namespace Host

variable {s : Settings} {p : Path} {l : Location} {c : Change} {h h' : Host}

theorem Filtered.thinned (filtered : h.Filtered s p l) (thinned : h.Thinned p l h')
    (calls : ∀ call ∈ h'.journal.calls, call ∈ h.journal.calls ∨ s.Allows call) :
    h'.Filtered s p l where
  leads := thinned.leads filtered.leads
  files name node lock held := by
    obtain same | gone := thinned.held filtered.leads name lock
    · rw [same] at held
      exact filtered.files name node lock held
    · rw [gone] at held
      cases held
  calls call made := by
    obtain old | allowed := calls call made
    · exact filtered.calls call old
    · exact allowed

theorem Filtered.idle (filtered : h.Filtered s p l) (idle : h.Idle p h') : h'.Filtered s p l := by
  refine filtered.thinned idle.thinned ?_
  intro call made
  rw [idle.calls] at made
  exact .inl made

theorem Filtered.called {backend : Backend} {call : Call} (filtered : h.Filtered s p l)
    (nothing : backend.PutsNothing p) (allowed : s.Allows call)
    (called : backend.Called call h h') : h'.Filtered s p l := by
  refine filtered.thinned (called.thinned_of_putsNothing nothing) ?_
  intro other made
  rw [called.calls, List.mem_append, List.mem_singleton] at made
  obtain old | rfl := made
  · exact .inl old
  · exact .inr allowed

theorem Filtered.enqueued {moment : Option Moment} {name : Text} (filtered : h.Filtered s p l)
    (passes : s.Passes c) (enqueued : Queue.Enqueued p c moment h name h') :
    h'.Filtered s p l := by
  obtain ⟨quiet, second, sequence, content, rfl, added⟩ := enqueued.written
  refine ⟨added.leadsTo filtered.leads, fun name node lock held => ?_, fun call made => ?_⟩
  · by_cases own : name = EntryName.compose c.key second sequence
    · subst own
      rw [(added.get?_self filtered.leads).2] at held
      cases held
      exact ⟨EntryName.isPart_compose c sequence added.stamped, c, _, content, passes,
        added.encoded, rfl⟩
    · rw [added.get?_of_ne filtered.leads lock own] at held
      exact filtered.files name node lock held
  · rw [quiet.calls] at made
    exact filtered.calls call made

/-- What a file of the directory asks for is allowed. -/
theorem Filtered.allows_of_ready {defaultRealm name : Text} {entry : Entry} {call : Call}
    (filtered : h.Filtered s p l) (part : name.IsPart) (lock : name ≠ QueueLock.fileName)
    (ready : Replay.Ready defaultRealm (p.join name) h entry call) : s.Allows call := by
  obtain ⟨bytes, read, -⟩ := ready.read
  obtain ⟨-, mode, held⟩ := filtered.leads.of_read_join part read
  obtain ⟨-, c, mode', content, passes, encoded, same⟩ := filtered.files name _ lock held
  cases same
  obtain ⟨-, -, rfl⟩ := Change.of_ready encoded read ready
  exact passes.allows_deferred defaultRealm

end Host

/-! ## A propagation -/

section Propagate

variable {r : Relay} {p : Path} {l : Location} {c : Change} {h h' : Host}

/-- A change that the settings do not let through is skipped. -/
theorem Relay.propagate_of_not_admits (out : ¬ r.settings.Admits c.principal) (h : Host) :
    ∃ message, (r.propagate c).on h = (.ok .skipped, h.record (.logged .debug message)) := by
  simp only [Settings.Admits, Classical.not_forall, not_or] at out
  obtain ⟨inst, second, out⟩ := out
  have refused : ¬ r.admits inst = true := by simp [admits, out]
  have permits : ∃ message, (r.permits c).on h = (.ok false, h.record (.logged .debug message)) := by
    unfold permits
    rw [second]
    simp only [if_neg refused]
    exact ⟨_, rfl⟩
  obtain ⟨message, permits⟩ := permits
  refine ⟨message, ?_⟩
  unfold propagate
  rw [Act.on_bind_of_ok h _ permits]
  rfl

theorem Host.Filtered.propagated (filtered : h.Filtered r.settings p l) (named : c.Named)
    (queue : r.queue = ⟨some p⟩)
    (nothing : ∀ backend, r.backend = some backend → backend.PutsNothing p) :
    ((r.propagate c).on h).2.Filtered r.settings p l := by
  by_cases admits : r.settings.Admits c.principal
  · have passes : r.settings.Passes c := ⟨named, admits⟩
    have direct := passes.allows_direct
    have ends := Relay.propagate_ends queue c h
    generalize ((r.propagate c).on h).1 = result at ends
    generalize ((r.propagate c).on h).2 = h' at ends ⊢
    cases ends with
    | failed idle => exact filtered.idle idle
    | skipped idle => exact filtered.idle idle
    | forced enqueued => exact filtered.enqueued passes enqueued
    | conflict _ enqueued => exact filtered.enqueued passes enqueued
    | done configured idle clear delivered idle' =>
      have called := (Backend.of_deliver_ok delivered).1
      exact ((filtered.idle idle).called (nothing _ configured) direct called).idle idle'
    | refused configured idle clear called delivery enqueued =>
      have called := (Backend.of_deliver_error called).2.1
      exact ((filtered.idle idle).called (nothing _ configured) direct called).enqueued passes enqueued
    | lost configured idle clear called idle' =>
      have called := (Backend.of_deliver_error called).2.1
      exact ((filtered.idle idle).called (nothing _ configured) direct called).idle idle'
  · obtain ⟨message, skipped⟩ := Relay.propagate_of_not_admits admits h
    rw [skipped]
    exact filtered.idle (Host.idle_record (.logged .debug message) trivial p h)

end Propagate

/-! ## A drain -/

section Drain

variable {s : Settings} {backend : Backend} {defaultRealm : Text} {p : Path} {l : Location}
  {h h' : Host}

theorem Replay.Ends.thinned (nothing : backend.PutsNothing p) {file : Path}
    {result : Except Failure Entry} (ends : Replay.Ends .never backend defaultRealm file h result h') :
    h.Thinned p l h' :=
  ends.keeps (fun still => (still.idle p).thinned)
    (fun called => called.thinned_of_putsNothing nothing) Host.thinned_of_unlink

theorem Host.Filtered.replayed {name : Text} (filtered : h.Filtered s p l)
    (nothing : backend.PutsNothing p) (part : name.IsPart) (lock : name ≠ QueueLock.fileName)
    {result : Except Failure Entry}
    (done : (replay backend defaultRealm (p.join name)).on h = (result, h')) :
    h'.Filtered s p l := by
  have ends := ends_of_replay done
  refine filtered.thinned (ends.thinned nothing) ?_
  intro call made
  obtain ⟨same, -⟩ | ⟨entry, asked, ready, one⟩ := ends.calls
  · rw [same] at made
    exact .inl made
  · rw [one, List.mem_append, List.mem_singleton] at made
    obtain old | rfl := made
    · exact .inl old
    · exact .inr (filtered.allows_of_ready part lock ready)

theorem Host.Filtered.drained (nothing : backend.PutsNothing p) {blocked names : List Text}
    {r : Drained} {result : Except Failure Drained} (filtered : h.Filtered s p l)
    (proper : ∀ name ∈ names, name.IsPart ∧ name ≠ QueueLock.fileName)
    (ends : Drain.Ends backend defaultRealm p blocked r names h result h') :
    h'.Filtered s p l := by
  induction ends with
  | nil => exact filtered
  | skipped behind still after ih =>
    exact ih (filtered.idle (still.idle p)) fun n inside => proper n (List.mem_cons_of_mem _ inside)
  | replayed free done after ih =>
    obtain ⟨part, lock⟩ := proper _ List.mem_cons_self
    exact ih (filtered.replayed nothing part lock done) fun n inside =>
      proper n (List.mem_cons_of_mem _ inside)
  | failed free done kind still after ih =>
    obtain ⟨part, lock⟩ := proper _ List.mem_cons_self
    exact ih ((filtered.replayed nothing part lock done).idle (still.idle p)) fun n inside =>
      proper n (List.mem_cons_of_mem _ inside)
  | vanished free done kind gone still after ih =>
    obtain ⟨part, lock⟩ := proper _ List.mem_cons_self
    exact ih ((filtered.replayed nothing part lock done).idle (still.idle p)) fun n inside =>
      proper n (List.mem_cons_of_mem _ inside)
  | aborted free done other =>
    obtain ⟨part, lock⟩ := proper _ List.mem_cons_self
    exact filtered.replayed nothing part lock done

theorem Host.Filtered.afterDrain (filtered : h.Filtered s p l) (nothing : backend.PutsNothing p)
    (defaultRealm : Text) :
    ((drain backend defaultRealm (some ⟨some p⟩)).on h).2.Filtered s p l := by
  obtain ⟨e, h', idle, -, failed⟩ | ⟨found, h₁, result, h₂, h', idle, listed, -, ends, still, done⟩ :=
    drain_cases backend defaultRealm p h
  · rw [failed]
    exact filtered.idle idle
  · rw [done]
    have first := filtered.idle idle
    rw [first.leads.list] at listed
    cases listed
    refine (first.drained nothing ?_ ends).idle (still.idle p)
    intro name inside
    rw [FileSystem.listed_eq_named] at inside
    obtain ⟨wanted, mode, content, held⟩ := FileSystem.mem_named_iff.1 inside
    have lock := EntryName.ne_lock_of_isListed wanted
    exact ⟨(first.files name _ lock held).1, lock⟩

end Drain

/-! ## A run -/

/-- The request is about a written name under the settings, or it is a drain. -/
inductive Request.Under (s : Settings) : Request → Prop where
  | changePassword (r : Relay) (name : Text) (password : Option Text) (same : r.settings = s) :
    Under s (.changePassword r (.name name) password)
  | changeStatus (r : Relay) (name : Text) (enabled : Bool) (same : r.settings = s) :
    Under s (.changeStatus r (.name name) enabled)
  | drain (backend : Backend) (defaultRealm : Text) : Under s (.drain backend defaultRealm)

section Run

variable {s : Settings} {p : Path} {l : Location} {h : Host}

theorem Host.Filtered.composed {r : Relay} {name operation : Text} {password : Option Text}
    (filtered : h.Filtered r.settings p l) (queue : r.queue = ⟨some p⟩)
    (nothing : ∀ backend, r.backend = some backend → backend.PutsNothing p) :
    ((Act.ofResult (Change.compose (.name name) operation password) >>= r.propagate).on
      h).2.Filtered r.settings p l := by
  cases composed : Change.compose (.name name) operation password with
  | error e => exact filtered
  | ok c => exact filtered.propagated (Change.named_of_compose composed) queue nothing

theorem Host.Filtered.afterRequest {request : Request} (filtered : h.Filtered s p l)
    (under : request.Under s)
    (nothing : ∀ backend, request.backend? = some backend → backend.PutsNothing p) :
    ((request.act ⟨some p⟩).on h).2.Filtered s p l := by
  cases under with
  | changePassword r name password same =>
    subst same
    simp only [Request.act, Act.on_map]
    cases password with
    | none => exact filtered.idle (Host.keeps_log _ _ p h)
    | some password =>
      exact @Host.Filtered.composed p l h { r with queue := ⟨some p⟩ } _ _ _ filtered rfl nothing
  | changeStatus r name enabled same =>
    subst same
    simp only [Request.act, Act.on_map]
    exact @Host.Filtered.composed p l h { r with queue := ⟨some p⟩ } _ _ _ filtered rfl nothing
  | drain backend defaultRealm =>
    simp only [Request.act, Act.on_map]
    exact filtered.afterDrain (nothing backend rfl) defaultRealm

theorem Host.Filtered.steps {progress : Progress} {steps : List Step}
    (filtered : progress.host.Filtered s p l) (under : ∀ step ∈ steps, step.request.Under s)
    (nothing : ∀ step ∈ steps, ∀ backend, step.request.backend? = some backend →
      backend.PutsNothing p) :
    (steps.foldl (Progress.after ⟨some p⟩) progress).host.Filtered s p l := by
  induction steps generalizing progress with
  | nil => exact filtered
  | cons step rest ih =>
    have begun : (step.begin progress.host).Filtered s p l :=
      ⟨filtered.leads, filtered.files, filtered.calls⟩
    have after := begun.afterRequest (under step List.mem_cons_self) (nothing step List.mem_cons_self)
    exact ih after (fun other inside => under other (List.mem_cons_of_mem step inside))
      fun other inside => nothing other (List.mem_cons_of_mem step inside)

/-- In a run from an empty directory, each account that a backend is called with names a principal
that the settings let through. -/
theorem allows_of_called (leads : h.files.LeadsTo p l) (empty : h.files.entries l = [])
    {steps : List Step} (under : ∀ step ∈ steps, step.request.Under s)
    (nothing : ∀ step ∈ steps, ∀ backend, step.request.backend? = some backend →
      backend.PutsNothing p) :
    ∀ call ∈ (run ⟨some p⟩ h steps).host.journal.calls, s.Allows call := by
  have begun : Host.Filtered s p l { h with journal := [] } := by
    refine ⟨leads, fun name node _ held => ?_, fun call made => nomatch made⟩
    have inside := (FileSystem.mem_entries_iff h.files l name node).2 held
    rw [empty] at inside
    cases inside
  exact (begun.steps under nothing).calls

/-- An instance that is not listed is skipped, a listed one waits and is delivered later, and an
escaped slash starts no instance. -/
theorem allows_of_called_of_four :
    let p : Path := ⟨[], ["queue"]⟩
    let h := Host.withDirectory "queue" .newYear
    let settings : Settings := ⟨none, false, none, none, ["admin"], none, false, []⟩
    let accepting : Relay := ⟨settings, some .accepting, ⟨none⟩, none⟩
    let refusing : Relay := ⟨settings, some .refusing, ⟨none⟩, none⟩
    let steps : List Step :=
      [⟨.newYear, .changePassword accepting (.name "test/host@EXAMPLE.COM") (some "secret")⟩,
        ⟨.newYear, .changeStatus accepting (.name "test\\/host@EXAMPLE.COM") true⟩,
        ⟨.newYear, .changePassword refusing (.name "test/admin") (some "secret")⟩,
        ⟨.newYear, .drain .accepting "NEW.ORG"⟩]
    h.files.LeadsTo p ["queue"] ∧ h.files.entries ["queue"] = [] ∧
      (∀ step ∈ steps, step.request.Under settings) ∧
      (∀ step ∈ steps, ∀ backend, step.request.backend? = some backend → backend.PutsNothing p) ∧
      (run ⟨some p⟩ h steps).host.journal.calls.map Call.account =
        ["test\\/host@EXAMPLE.COM", "test/admin", "test/admin@NEW.ORG"] ∧
      ∀ call ∈ (run ⟨some p⟩ h steps).host.journal.calls, settings.Allows call := by
  intro p h settings accepting refusing steps
  have leads : h.files.LeadsTo p ["queue"] := ⟨by decide, by decide⟩
  have empty : h.files.entries ["queue"] = [] := by decide
  have under : ∀ step ∈ steps, step.request.Under settings := by
    intro step inside
    simp only [steps, List.mem_cons, List.not_mem_nil, or_false] at inside
    obtain rfl | rfl | rfl | rfl := inside
    · exact .changePassword accepting _ _ rfl
    · exact .changeStatus accepting _ _ rfl
    · exact .changePassword refusing _ _ rfl
    · exact .drain _ _
  have nothing : ∀ step ∈ steps, ∀ backend, step.request.backend? = some backend →
      backend.PutsNothing p := by
    intro step inside backend served
    have orderly : backend.Orderly p := by
      simp only [steps, List.mem_cons, List.not_mem_nil, or_false] at inside
      obtain rfl | rfl | rfl | rfl := inside
      · exact Option.some.inj served ▸ Backend.orderly_accepting p
      · exact Option.some.inj served ▸ Backend.orderly_accepting p
      · exact Option.some.inj served ▸ Backend.orderly_refusing p
      · exact Option.some.inj served ▸ Backend.orderly_accepting p
    exact orderly.1.putsNothing
  exact ⟨leads, empty, under, nothing, by decide +kernel,
    allows_of_called leads empty under nothing⟩

end Run

end AccountRelay
