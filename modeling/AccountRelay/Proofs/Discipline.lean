import AccountRelay.Proofs.Change
import AccountRelay.Proofs.Run
/-!
# The discipline of the lock

The lock of a queue is held while its directory is searched and while an entry is created, and at no
other time. It is free whenever a backend is called or an instance asked for, so none of them can make
others wait, and it is free when an operation ends, however it ends. No operation takes it while
holding it, which would make it wait for itself.

Events move the lock between free and held. The journal of an operation is a path from free to free;
that of an act under the lock is a path from held to held. Paths are joined end to end, as acts are.
-/

namespace AccountRelay

/-! ## The lock of a queue -/

/-- Where a name leads from a location, if it leads anywhere. -/
def Location.next (l : Location) (name : Text) : Location :=
  if name = ".." then l.dropLast else l ++ [name]

/-- Where the path leads from a home, if it leads anywhere. -/
def Path.target (p : Path) (home : Location) : Location :=
  p.parts.foldl Location.next (if p.root = [] then home else [])

/-- The location of the lock of a queue. -/
def Queue.lock? (q : Queue) (home : Location) : Option Location :=
  q.configured.map fun directory => (directory.join QueueLock.fileName).target home

def Host.Unlocked (q : Queue) (h : Host) : Prop :=
  ∀ l, q.lock? h.files.home = some l → l ∉ h.locked

/-- The event may happen while the lock of the queue is held or not, as the first value says, and the
second value says it for afterwards. -/
inductive Event.Moves (q : Queue) (home : Location) : Event → Bool → Bool → Prop where
  | acquired {l : Location} (own : q.lock? home = some l) : Moves q home (.acquired l) false true
  | released {l : Location} (own : q.lock? home = some l) : Moves q home (.released l) true false
  | searched {directory : Path} (own : q.configured = some directory) :
    Moves q home (.searched directory) true true
  | creating {entry : Path} (own : q.configured = some entry.parent) :
    Moves q home (.creating entry) true true
  | called (call : Call) : Moves q home (.called call) false false
  | delivered (call : Call) : Moves q home (.delivered call) false false
  | asked (principal : Principal) (inst : Text) : Moves q home (.asked principal inst) false false
  | logged (level : Level) (message : Text) (held : Bool) :
    Moves q home (.logged level message) held held
  | printed (line : Text) (held : Bool) : Moves q home (.printed line) held held
  | emitted (bytes : Bytes) (held : Bool) : Moves q home (.emitted bytes) held held

/-- The events may happen one after the other. -/
inductive Journal.Leads (q : Queue) (home : Location) : Bool → Journal → Bool → Prop where
  | nil {held : Bool} : Leads q home held [] held
  | cons {e : Event} {rest : Journal} {held mid last : Bool} (first : e.Moves q home held mid)
    (after : Leads q home mid rest last) : Leads q home held (e :: rest) last

namespace Journal

variable {q : Queue} {home : Location} {held mid last : Bool} {j k : Journal} {e : Event}

theorem Leads.append (first : Leads q home held j mid) (second : Leads q home mid k last) :
    Leads q home held (j ++ k) last := by
  induction first with
  | nil => exact second
  | cons moves _ ih => exact .cons moves (ih second)

theorem leads_single (moves : e.Moves q home held last) : Leads q home held [e] last := .cons moves .nil

end Journal

namespace FileSystem

variable {fs : FileSystem} {p : Path} {l m : Location} {name : Text}

theorem next_of_step (step : fs.step m name = .ok l) : l = m.next name := by
  unfold FileSystem.step at step
  unfold Location.next
  split at step
  · cases step
  · cases step
  · split at step
    · cases step
      rw [if_pos ‹_›]
    · split at step
      · cases step
      · cases step
        rw [if_neg ‹_›]

theorem foldl_next_of_follow {names : List Text} (followed : fs.follow m names = .ok l) :
    l = names.foldl Location.next m := by
  induction names generalizing m with
  | nil =>
    cases followed
    rfl
  | cons name rest ih =>
    rw [follow] at followed
    cases step : fs.step m name with
    | error e =>
      rw [step] at followed
      cases followed
    | ok next =>
      rw [step] at followed
      rw [List.foldl_cons, ← next_of_step step]
      exact ih followed

theorem target_of_locate (located : fs.locate p = .ok l) : l = p.target fs.home := by
  unfold locate at located
  split at located
  · cases located
  · exact foldl_next_of_follow located

end FileSystem

/-! ## Acts that keep to it -/

/-- The failure stands for waiting, without end, for a lock that is held. -/
def Failure.Waits (e : Failure) : Prop := ∃ path, e = .storage (.lockHeld path)

/-- The lock is as it was in the end, and in between it was held and free as it should. -/
structure Host.Obeyed (q : Queue) (held : Bool) (h h' : Host) : Prop where
  home : h'.files.home = h.files.home
  locked : ∀ l ∈ h'.locked, l ∈ h.locked
  events : ∃ events, h'.journal = h.journal ++ events ∧ Journal.Leads q h.files.home held events held

/-- With the lock held, or with the lock free, the act keeps to the discipline, and it does not wait
unless a collaborator reports that. -/
def Act.Obeys {α : Type} (q : Queue) (reports : Failure → Prop) (held : Bool) (act : Act α) : Prop :=
  ∀ h, (held = false → h.Unlocked q) → h.Obeyed q held (act.on h).2 ∧
    ∀ e, (act.on h).1 = .error e → e.Waits → reports e

namespace Host

variable {q : Queue} {held : Bool} {h h' h'' : Host}

theorem Obeyed.refl (q : Queue) (held : Bool) (h : Host) : h.Obeyed q held h :=
  ⟨rfl, fun _ inside => inside, [], (List.append_nil _).symm, .nil⟩

theorem Obeyed.trans (first : h.Obeyed q held h') (second : h'.Obeyed q held h'') :
    h.Obeyed q held h'' := by
  obtain ⟨events, same, leads⟩ := first.events
  obtain ⟨events', same', leads'⟩ := second.events
  refine ⟨second.home.trans first.home, fun l inside => first.locked l (second.locked l inside),
    events ++ events', ?_, ?_⟩
  · rw [same', same, List.append_assoc]
  · rw [first.home] at leads'
    exact leads.append leads'

theorem Obeyed.unlocked (obeyed : h.Obeyed q held h') (free : h.Unlocked q) : h'.Unlocked q := by
  intro l own inside
  rw [obeyed.home] at own
  exact free l own (obeyed.locked l inside)

theorem obeyed_record {e : Event} (moves : e.Moves q h.files.home held held) :
    h.Obeyed q held (h.record e) :=
  ⟨rfl, fun _ inside => inside, [e], rfl, Journal.leads_single moves⟩

/-- What has happened under the lock is put between taking it and giving it back. -/
theorem Obeyed.unlock {l : Location} {files : FileSystem} (own : q.lock? h.files.home = some l)
    (home : files.home = h.files.home) (under : (h.lock l files).Obeyed q true h') :
    h.Obeyed q false (Host.unlock l h') := by
  obtain ⟨events, same, leads⟩ := under.events
  refine ⟨under.home.trans home, fun m inside => ?_, [.acquired l] ++ events ++ [.released l], ?_, ?_⟩
  · obtain ⟨inside, other⟩ := List.mem_filter.1 inside
    obtain before | here := List.mem_append.1 (under.locked m inside)
    · exact before
    · rw [List.mem_singleton.1 here] at other
      simp at other
  · change h'.journal ++ [.released l] = _
    rw [same]
    change (h.journal ++ [.acquired l] ++ events) ++ [.released l] = _
    simp only [List.append_assoc]
  · have leads : Journal.Leads q h.files.home true events true := by
      rw [← home]
      exact leads
    exact ((Journal.leads_single (.acquired own)).append leads).append
      (Journal.leads_single (.released own))

theorem obeyed_withFiles {files : FileSystem} (home : files.home = h.files.home) :
    h.Obeyed q held (h.withFiles files) :=
  ⟨home, fun _ inside => (List.mem_filter.1 inside).1, [], (List.append_nil _).symm, .nil⟩

end Host

namespace Act

variable {α β : Type} {q : Queue} {reports : Failure → Prop} {held : Bool}

theorem obeys_of_still {act : Act α} (still : ∀ h, (act.on h).2 = h)
    (fair : ∀ h e, (act.on h).1 = .error e → e.Waits → reports e) : act.Obeys q reports held := by
  intro h _
  rw [still h]
  exact ⟨.refl q held h, fair h⟩

theorem obeys_pure (a : α) : (pure a : Act α).Obeys q reports held :=
  obeys_of_still (fun _ => rfl) fun _ _ failed => nomatch failed

theorem obeys_ask (question : Host → α) : (ask question).Obeys q reports held :=
  obeys_of_still (fun _ => rfl) fun _ _ failed => nomatch failed

theorem obeys_ofResult {r : Except Failure α} (fair : ∀ e, r = .error e → e.Waits → reports e) :
    (ofResult r).Obeys q reports held :=
  obeys_of_still (fun h => by rw [on_ofResult]) fun h e failed => by
    rw [on_ofResult] at failed
    exact fair e failed

theorem obeys_throw {e : Failure} (fair : e.Waits → reports e) :
    (throw e : Act α).Obeys q reports held := by
  refine obeys_of_still (fun _ => rfl) fun _ e' failed waits => ?_
  cases failed
  exact fair waits

theorem obeys_orFault (r : Except Fault α) : (orFault r).Obeys q reports held := by
  refine obeys_ofResult fun e failed waits => ?_
  obtain ⟨path, rfl⟩ := waits
  cases r <;> cases failed

theorem obeys_record {e : Event} (moves : ∀ home, e.Moves q home held held) :
    (record e).Obeys q reports held :=
  fun _ _ => ⟨Host.obeyed_record (moves _), fun _ failed => nomatch failed⟩

theorem obeys_log (level : Level) (message : Text) : (log level message).Obeys q reports held :=
  obeys_record fun _ => .logged level message held

theorem Obeys.bind {act : Act α} {next : α → Act β} (first : act.Obeys q reports held)
    (rest : ∀ a, (next a).Obeys q reports held) : (act >>= next).Obeys q reports held := by
  intro h free
  obtain ⟨obeyed, fair⟩ := first h free
  rw [on_bind]
  cases done : act.on h with
  | mk result h' =>
    rw [done] at obeyed fair
    cases result with
    | error e =>
      refine ⟨obeyed, fun e' failed waits => ?_⟩
      cases failed
      exact fair e rfl waits
    | ok a =>
      obtain ⟨obeyed', fair'⟩ := rest a h' fun here => obeyed.unlocked (free here)
      exact ⟨obeyed.trans obeyed', fair'⟩

theorem Obeys.map {act : Act α} (obeys : act.Obeys q reports held) (f : α → β) :
    (f <$> act).Obeys q reports held := by
  rw [← bind_pure_comp]
  exact obeys.bind fun _ => obeys_pure _

theorem Obeys.attempt {act : Act α} {next : Except Failure α → Act β}
    (first : act.Obeys q reports held)
    (rest : ∀ r : Except Failure α, (∀ e, r = .error e → e.Waits → reports e) →
      (next r).Obeys q reports held) : (act.attempt >>= next).Obeys q reports held := by
  intro h free
  obtain ⟨obeyed, fair⟩ := first h free
  rw [on_bind_of_ok _ _ (on_attempt h act)]
  obtain ⟨obeyed', fair'⟩ := rest _ fair _ fun here => obeyed.unlocked (free here)
  exact ⟨obeyed.trans obeyed', fair'⟩

theorem obeys_inspect {path : Path} {problem : Path → OsError → StorageProblem}
    (fair : ∀ path e held, problem path e ≠ .lockHeld held)
    (query : FileSystem → Path → Except OsError α) :
    (inspect path problem query).Obeys q reports held := by
  refine obeys_of_still (fun h => by rw [inspect_on]) fun h e failed waits => ?_
  obtain ⟨held, rfl⟩ := waits
  rw [inspect_on] at failed
  simp only at failed
  split at failed
  · cases failed
  · cases answer : query h.files path with
    | ok a =>
      rw [answer] at failed
      cases failed
    | error e =>
      rw [answer] at failed
      injection failed with failed
      injection failed with failed
      exact absurd failed (fair path e held)

theorem obeys_search {directory : Path} (own : q.configured = some directory) :
    (search directory).Obeys q reports true :=
  (obeys_record fun _ => .searched own).bind fun _ => obeys_inspect (by rintro _ _ _ ⟨⟩) _

theorem obeys_unlink (path : Path) (shown : Text) : (unlink path shown).Obeys q reports held := by
  intro h _
  rw [unlink_on]
  split
  · exact ⟨.refl q held h, fun e failed waits => by
      obtain ⟨path, rfl⟩ := waits
      cases failed⟩
  · split
    · rename_i files unlinked
      obtain ⟨m, mode, content, -, -, rfl⟩ := FileSystem.of_unlink unlinked
      exact ⟨Host.obeyed_withFiles rfl, fun _ failed => nomatch failed⟩
    · exact ⟨.refl q held h, fun e failed waits => by
        obtain ⟨path, rfl⟩ := waits
        cases failed⟩

end Act

/-! ## Under the lock -/

section WithLock

variable {α : Type} {directory : Path} {reports : Failure → Prop}

/-- The lock is held exactly while the act happens, and no one waits for it. -/
theorem obeys_withLock {act : Act α} (under : act.Obeys ⟨some directory⟩ reports true) :
    (withLock directory act).Obeys ⟨some directory⟩ reports false := by
  intro h free
  have locked := QueueLock.lockFile_on (directory.join QueueLock.fileName) h
  have refused {e : Failure} (other : ¬ e.Waits)
      (failed : (QueueLock.lockFile (directory.join QueueLock.fileName)).on h = (.error e, h)) :
      h.Obeyed ⟨some directory⟩ false ((withLock directory act).on h).2 ∧
        ∀ e, ((withLock directory act).on h).1 = .error e → e.Waits → reports e := by
    have done : (withLock directory act).on h = (.error e, h) := Act.on_bind_of_error h _ failed
    rw [done]
    refine ⟨.refl _ _ h, fun e' same waits => ?_⟩
    cases same
    exact absurd waits other
  split at locked
  · refine refused ?_ locked
    rintro ⟨path, same⟩
    cases same
  · split at locked
    · refine refused ?_ locked
      rintro ⟨path, same⟩
      cases same
    · rename_i l files opened
      obtain ⟨located, made⟩ := FileSystem.of_openOrCreate opened
      have own : Queue.lock? ⟨some directory⟩ h.files.home = some l := by
        rw [FileSystem.target_of_locate located]
        rfl
      have home : files.home = h.files.home := by
        obtain ⟨-, rfl⟩ | ⟨-, rfl⟩ := made <;> rfl
      rw [if_neg (free rfl l own)] at locked
      have done : (withLock directory act).on h = ((act.on (h.lock l files)).1,
          Host.unlock l (act.on (h.lock l files)).2) := Act.on_bind_of_ok h _ locked
      rw [done]
      obtain ⟨obeyed, fair⟩ := under (h.lock l files) nofun
      exact ⟨obeyed.unlock own home, fair⟩

end WithLock

/-! ## The queue -/

namespace Queue

variable {reports : Failure → Prop} {held : Bool}

theorem obeys_directory {β : Type} {q : Queue} {next : Path → Act β}
    (rest : ∀ directory, q = ⟨some directory⟩ → (next directory).Obeys q reports held) :
    (q.directory >>= next).Obeys q reports held := by
  obtain ⟨_ | directory⟩ := q
  · refine Act.obeys_of_still (fun _ => rfl) fun h e failed waits => ?_
    obtain ⟨path, rfl⟩ := waits
    cases failed
  · exact rest directory rfl

theorem obeys_path (q : Queue) (name : Text) : (q.path name).Obeys q reports held :=
  obeys_directory fun _ _ => Act.obeys_pure _

section Configured

variable {directory : Path}

theorem obeys_scan (key : Text) : (scan directory key).Obeys ⟨some directory⟩ reports true :=
  (Act.obeys_search rfl).bind fun _ => Act.obeys_pure _

theorem obeys_freeSequence (key second : Text) :
    (freeSequence directory key second).Obeys ⟨some directory⟩ reports true :=
  (Act.obeys_search rfl).bind fun _ => Act.obeys_orFault _

theorem obeys_createFrom {key second : Text} (part : ∀ n, (EntryName.compose key second n).IsPart)
    (content : Bytes) (sequence tries : Nat) :
    (createFrom directory key second content sequence tries).Obeys ⟨some directory⟩ reports true := by
  induction tries generalizing sequence with
  | zero => exact Act.obeys_throw fun ⟨_, same⟩ => nomatch same
  | succ tries ih =>
    intro h _
    have begun : h.Obeyed ⟨some directory⟩ true
        (h.record (.creating (directory.join (EntryName.compose key second sequence)))) := by
      refine Host.obeyed_record (.creating ?_)
      rw [Path.join_of_isPart directory (part sequence)]
      simp [Path.parent]
    rw [createFrom_succ_on]
    simp only
    split
    · rename_i files created
      obtain ⟨m, -, -, rfl⟩ := FileSystem.of_create created
      have set : Host.Obeyed ⟨some directory⟩ true
          (h.record (.creating (directory.join (EntryName.compose key second sequence))))
          { h.record (.creating (directory.join (EntryName.compose key second sequence))) with
            files := h.files.set m (.file entryMode content) } :=
        ⟨rfl, fun _ inside => inside, [], (List.append_nil _).symm, .nil⟩
      exact ⟨begun.trans set, fun _ failed => nomatch failed⟩
    · obtain ⟨obeyed, fair⟩ := ih (sequence + 1) _ nofun
      exact ⟨begun.trans obeyed, fair⟩
    · refine ⟨begun, fun e failed waits => ?_⟩
      obtain ⟨path, rfl⟩ := waits
      cases failed

theorem obeys_write (c : Change) (moment : Option Moment) :
    (write directory c moment).Obeys ⟨some directory⟩ reports true := by
  unfold write
  cases content? c with
  | none => exact Act.obeys_throw fun ⟨_, same⟩ => nomatch same
  | some content =>
    refine (Act.obeys_ask _).bind fun now => ?_
    cases stamped : (moment.getD now).stamp? with
    | none => exact Act.obeys_throw fun ⟨_, same⟩ => nomatch same
    | some second =>
      have part (n : Nat) : (EntryName.compose c.key second n).IsPart :=
        EntryName.isPart_compose c n stamped
      exact (obeys_freeSequence _ _).bind fun sequence => obeys_createFrom part content sequence _

end Configured

variable (q : Queue)

theorem obeys_hasPending (key : Text) : (q.hasPending key).Obeys q reports false :=
  obeys_directory fun directory same => by
    subst same
    exact obeys_withLock (obeys_scan key)

theorem obeys_isPending (who : Who) (domain operation : Text) :
    (q.isPending who domain operation).Obeys q reports false :=
  (Act.obeys_orFault _).bind fun key => q.obeys_hasPending key

theorem obeys_entries : q.entries.Obeys q reports false :=
  obeys_directory fun directory same => by
    subst same
    exact obeys_withLock ((Act.obeys_search rfl).bind fun _ => Act.obeys_pure _)

theorem obeys_enqueue (c : Change) (moment : Option Moment) :
    (q.enqueue c moment).Obeys q reports false :=
  obeys_directory fun directory same => by
    subst same
    exact (obeys_withLock (obeys_write c moment)).bind fun _ =>
      (Act.obeys_log _ _).bind fun _ => Act.obeys_pure _

theorem obeys_enqueueBehind (c : Change) (moment : Option Moment) :
    (q.enqueueBehind c moment).Obeys q reports false :=
  obeys_directory fun directory same => by
    subst same
    refine (obeys_withLock ((obeys_scan c.key).bind fun pending => ?_)).bind fun name => ?_
    · split
      · exact (obeys_write c moment).bind fun _ => Act.obeys_pure _
      · exact Act.obeys_pure _
    · split
      · exact (Act.obeys_log _ _).bind fun _ => Act.obeys_pure _
      · exact Act.obeys_pure _

theorem obeys_read (file : Path) : (Entry.read file).Obeys q reports held := by
  refine Act.Obeys.bind (Act.obeys_inspect (by rintro _ _ _ ⟨⟩) _) fun bytes => ?_
  refine Act.obeys_ofResult fun e failed waits => ?_
  obtain ⟨path, rfl⟩ := waits
  obtain ⟨kind, -⟩ | ⟨kind, -⟩ := Entry.of_ofBytes_error failed
  · cases kind
  · cases kind

theorem obeys_remove (file : Path) : (Entry.remove file).Obeys q reports held :=
  Act.obeys_unlink file _

end Queue

/-! ## Deliveries and replays -/

/-- The backend leaves relative paths where they start. -/
def Backend.KeepsHome (backend : Backend) : Prop :=
  ∀ call h, (backend call h).files.home = h.files.home

section Backend

variable {backend : Backend} {reports : Failure → Prop} {q : Queue}

theorem Backend.obeys_deliver (home : backend.KeepsHome)
    (fair : ∀ call h e, (backend call h).failure = some e → reports e) (call : Call) :
    (backend.deliver call).Obeys q reports false := by
  intro h _
  have called : h.Obeyed q false (h.record (.called call)) := Host.obeyed_record (.called call)
  have served : h.Obeyed q false (backend.served call h) :=
    called.trans (Host.obeyed_withFiles (home call _))
  rw [deliver_on]
  split
  · exact ⟨served.trans (Host.obeyed_record (.delivered call)), fun _ failed => nomatch failed⟩
  · rename_i e failure
    refine ⟨served, fun e' failed _ => ?_⟩
    cases failed
    exact fair _ _ _ failure

variable (home : backend.KeepsHome) (fair : ∀ call h e, (backend call h).failure = some e → reports e)
  (defaultRealm : Text)

include home fair

theorem obeys_replay (file : Path) : (replay backend defaultRealm file).Obeys q reports false := by
  refine (q.obeys_read file).bind fun entry => ?_
  split
  · exact Act.obeys_throw fun ⟨_, same⟩ => nomatch same
  · refine (Act.obeys_log _ _).bind fun _ => ?_
    refine (Backend.obeys_deliver home fair _).bind fun _ => ?_
    refine (q.obeys_remove entry.path).bind fun _ => ?_
    exact (Act.obeys_log _ _).bind fun _ => Act.obeys_pure _

theorem Drain.obeys_run (blocked names : List Text) (r : Drained) :
    (run backend defaultRealm q blocked r names).Obeys q reports false := by
  induction names generalizing blocked r with
  | nil => exact Act.obeys_pure r
  | cons name rest ih =>
    rw [run]
    split
    · exact (Act.obeys_log _ _).bind fun _ => ih _ _
    · refine Act.Obeys.attempt ((q.obeys_path name).bind fun file =>
        obeys_replay home fair defaultRealm file) fun result passed => ?_
      cases result with
      | ok entry => exact ih _ _
      | error e =>
        obtain ⟨-, same⟩ | ⟨-, -, same⟩ | ⟨-, same⟩ := outcome_cases e
        · rw [same]
          exact (Act.obeys_log _ _).bind fun _ => ih _ _
        · rw [same]
          exact (Act.obeys_log _ _).bind fun _ => ih _ _
        · rw [same]
          exact Act.obeys_throw (passed e rfl)

theorem obeys_drain (queue : Option Queue) (own : ∀ given, queue = some given → given = q) :
    (drain backend defaultRealm queue).Obeys q reports false := by
  cases queue with
  | none => exact Act.obeys_throw fun ⟨_, same⟩ => nomatch same
  | some given =>
    obtain rfl := own given rfl
    refine given.obeys_entries.bind fun names => ?_
    refine (Drain.obeys_run home fair defaultRealm _ _ _).bind fun r => ?_
    exact (Act.obeys_log _ _).bind fun _ => Act.obeys_pure _

end Backend

/-! ## Propagations -/

namespace Relay

variable {r : Relay} {reports : Failure → Prop}

/-- The failures that the backend and the instance check of a relay may end with are among these. -/
structure Reported (r : Relay) (reports : Failure → Prop) : Prop where
  backend : ∀ backend, r.backend = some backend → ∀ call h e,
    (backend call h).failure = some e → reports e
  instanceExists : ∀ check, r.instanceExists = some check → ∀ principal inst h e,
    check principal inst h = .error e → reports e

theorem obeys_permits {q : Queue}
    (fair : ∀ check, r.instanceExists = some check → ∀ principal inst h e,
      check principal inst h = .error e → reports e) (c : Change) :
    (r.permits c).Obeys q reports false := by
  have known (base : Text) : (r.hasBaseInstance c base).Obeys q reports false := by
    unfold hasBaseInstance
    split
    · exact Act.obeys_pure _
    · rename_i check given
      split
      · refine (Act.obeys_record fun home => .asked c.principal base).bind fun _ => ?_
        intro h free
        rw [Act.on_bind_of_ok h _ (Act.on_ask h _)]
        exact Act.obeys_ofResult (fun e failed _ => fair check given _ _ h e failed) h free
      · exact Act.obeys_pure _
  unfold permits
  split
  · split
    · exact Act.obeys_pure _
    · exact (Act.obeys_log _ _).bind fun _ => Act.obeys_pure _
  · refine (known _).bind fun here => ?_
    split
    · exact (Act.obeys_log _ _).bind fun _ => Act.obeys_pure _
    · exact Act.obeys_pure _

variable (reported : r.Reported reports)
  (home : ∀ backend, r.backend = some backend → backend.KeepsHome)

include reported home

theorem obeys_deliverOrQueue {backend : Backend} (configured : r.backend = some backend) (c : Change) :
    (r.deliverOrQueue backend c).Obeys r.queue reports false := by
  refine Act.Obeys.attempt (Backend.obeys_deliver (home _ configured)
    (reported.backend _ configured) _) fun result passed => ?_
  cases result with
  | ok => exact (Act.obeys_log _ _).bind fun _ => Act.obeys_pure _
  | error e =>
    simp only
    split
    · refine (Act.obeys_log _ _).bind fun _ => ?_
      exact (r.queue.obeys_enqueue c none).bind fun _ => Act.obeys_pure _
    · exact Act.obeys_throw (passed e rfl)

theorem obeys_propagate (c : Change) : (r.propagate c).Obeys r.queue reports false := by
  refine (obeys_permits reported.instanceExists c).bind fun permits => ?_
  split
  · exact Act.obeys_pure _
  · split
    · exact (r.queue.obeys_enqueue c none).bind fun _ => Act.obeys_pure _
    · split
      · exact (Act.obeys_log _ _).bind fun _ => Act.obeys_pure _
      · rename_i backend configured
        refine (r.queue.obeys_enqueueBehind c none).bind fun name => ?_
        split
        · exact Act.obeys_pure _
        · exact obeys_deliverOrQueue reported home configured c

theorem obeys_composed (who : Who) (operation : Text) (password : Option Text) :
    (Act.ofResult (Change.compose who operation password) >>= r.propagate).Obeys r.queue reports
      false := by
  refine Act.Obeys.bind (Act.obeys_ofResult fun e failed waits => ?_) fun c =>
    obeys_propagate reported home c
  obtain ⟨path, rfl⟩ := waits
  obtain ⟨p, same, -⟩ := Change.compose_eq_error_iff.1 failed
  cases same

end Relay

/-! ## All operations -/

/-- An operation of the queue, of its replay or of the propagation into it. -/
inductive Job where
  | serve (request : Request)
  | permits (relay : Relay) (c : Change)
  | isPending (who : Who) (domain operation : Text)
  | hasPending (key : Text)
  | entries
  | path (name : Text)
  | read (name : Text)
  | replay (backend : Backend) (defaultRealm : Text) (file : Path)
  /-- A drain where there is no queue. -/
  | drainNothing (backend : Backend) (defaultRealm : Text)

namespace Job

/-- What the operation does with the queue, its result aside. -/
def act (q : Queue) : Job → Act Unit
  | serve request => (fun _ => ()) <$> request.act q
  | permits relay c => (fun _ => ()) <$> { relay with queue := q }.permits c
  | isPending who domain operation => (fun _ => ()) <$> q.isPending who domain operation
  | hasPending key => (fun _ => ()) <$> q.hasPending key
  | entries => (fun _ => ()) <$> q.entries
  | path name => (fun _ => ()) <$> q.path name
  | read name => (fun _ => ()) <$> q.read name
  | replay backend defaultRealm file => (fun _ => ()) <$> AccountRelay.replay backend defaultRealm file
  | drainNothing backend defaultRealm => (fun _ => ()) <$> AccountRelay.drain backend defaultRealm none

def backend? : Job → Option Backend
  | serve request => request.backend?
  | replay backend _ _ => some backend
  | drainNothing backend _ => some backend
  | _ => none

def instanceExists? : Job → Option InstanceCheck
  | serve (.changePassword relay _ _) => relay.instanceExists
  | serve (.changeStatus relay _ _) => relay.instanceExists
  | serve (.propagate relay _) => relay.instanceExists
  | permits relay _ => relay.instanceExists
  | _ => none

def Reports (job : Job) (e : Failure) : Prop :=
  (∃ backend call h, job.backend? = some backend ∧ (backend call h).failure = some e) ∨
    ∃ check principal inst h, job.instanceExists? = some check ∧ check principal inst h = .error e

structure Disciplined (job : Job) (q : Queue) (h : Host) (result : Except Failure Unit) (h' : Host) :
    Prop where
  /-- The lock was taken only while free and given back only while held; everything else came when
  it may. In the end it was given back. -/
  events : ∃ events, h'.journal = h.journal ++ events ∧
    Journal.Leads q h.files.home false events false
  free : h'.Unlocked q
  locked : ∀ l ∈ h'.locked, l ∈ h.locked
  /-- The lock was never waited for. -/
  waits : ∀ e, result = .error e → e.Waits → job.Reports e

theorem reported {job : Job} {r : Relay} (served : r.backend = job.backend?)
    (asked : r.instanceExists = job.instanceExists?) : r.Reported job.Reports where
  backend backend configured call h _ failure :=
    .inl ⟨backend, call, h, served ▸ configured, failure⟩
  instanceExists check given principal inst h _ failed :=
    .inr ⟨check, principal, inst, h, asked ▸ given, failed⟩

theorem obeys_request {request : Request} {q : Queue}
    (home : ∀ backend, request.backend? = some backend → backend.KeepsHome) :
    (request.act q).Obeys q (serve request).Reports false := by
  cases request with
  | changePassword relay who password =>
    refine Act.Obeys.map ?_ _
    cases password with
    | none => exact (Act.obeys_log _ _).bind fun _ => Act.obeys_pure _
    | some t => exact @Relay.obeys_composed { relay with queue := q } _ (reported rfl rfl) home _ _ _
  | changeStatus relay who enabled =>
    refine Act.Obeys.map ?_ _
    exact @Relay.obeys_composed { relay with queue := q } _ (reported rfl rfl) home _ _ _
  | propagate relay c =>
    refine Act.Obeys.map ?_ _
    exact @Relay.obeys_propagate { relay with queue := q } _ (reported rfl rfl) home c
  | enqueue c moment => exact (q.obeys_enqueue c moment).map _
  | enqueueBehind c moment => exact (q.obeys_enqueueBehind c moment).map _
  | drain backend defaultRealm =>
    refine (obeys_drain (home backend rfl) ?_ defaultRealm (some q) ?_).map _
    · intro call h e failure
      exact .inl ⟨backend, call, h, rfl, failure⟩
    · intro given same
      exact (Option.some.inj same).symm
  | delete name =>
    exact ((q.obeys_path name).bind fun file => q.obeys_remove file).map _

theorem obeys_act {job : Job} {q : Queue}
    (home : ∀ backend, job.backend? = some backend → backend.KeepsHome) :
    (job.act q).Obeys q job.Reports false := by
  cases job with
  | serve request => exact (obeys_request home).map _
  | permits relay c =>
    refine Act.Obeys.map (Relay.obeys_permits ?_ c) _
    intro check given principal inst h e failed
    exact .inr ⟨check, principal, inst, h, given, failed⟩
  | isPending who domain operation => exact (q.obeys_isPending who domain operation).map _
  | hasPending key => exact (q.obeys_hasPending key).map _
  | entries => exact q.obeys_entries.map _
  | path name => exact (q.obeys_path name).map _
  | read name => exact ((q.obeys_path name).bind fun file => q.obeys_read file).map _
  | replay backend defaultRealm file =>
    refine (obeys_replay (home backend rfl) ?_ defaultRealm file).map _
    intro call h e failure
    exact .inl ⟨backend, call, h, rfl, failure⟩
  | drainNothing backend defaultRealm =>
    refine (obeys_drain (home backend rfl) ?_ defaultRealm none nofun).map _
    intro call h e failure
    exact .inl ⟨backend, call, h, rfl, failure⟩

/-- Every operation that begins with the lock free keeps to the discipline, and ends with the lock
free. -/
theorem disciplined (job : Job) (q : Queue) {h : Host} (free : h.Unlocked q)
    (home : ∀ backend, job.backend? = some backend → backend.KeepsHome) :
    job.Disciplined q h ((job.act q).on h).1 ((job.act q).on h).2 := by
  obtain ⟨obeyed, fair⟩ := obeys_act home h fun _ => free
  exact ⟨obeyed.events, obeyed.unlocked free, obeyed.locked, fair⟩

/-- A change whose delivery is refused takes the lock twice, and calls the backend in between. -/
theorem disciplined_of_refused :
    let p : Path := ⟨[], ["queue"]⟩
    let q : Queue := ⟨some p⟩
    let h := Host.withDirectory "queue" .newYear
    let settings : Settings := ⟨none, false, none, none, [], none, false, []⟩
    let job : Job := .serve (.changeStatus ⟨settings, some .refusing, ⟨none⟩, none⟩ (.name "test") true)
    let lock : Location := ["queue", ".lock"]
    h.Unlocked q ∧ (∀ backend, job.backend? = some backend → backend.KeepsHome) ∧
      ((job.act q).on h).2.journal =
        [.acquired lock, .searched p, .released lock, .called ⟨"test", .enable, none⟩,
          .logged .warning "AD status change failed, queuing: not now", .acquired lock, .searched p,
          .creating (p.join "test-ad-enable-20240101T000000Z-00"), .released lock,
          .logged .info "Queued `enable` for `test`"] ∧
      job.Disciplined q h ((job.act q).on h).1 ((job.act q).on h).2 := by
  intro p q h settings job lock
  have free : h.Unlocked q := fun l _ inside => nomatch inside
  have home : ∀ backend, job.backend? = some backend → backend.KeepsHome := by
    intro backend served
    cases served
    intro call host
    rfl
  exact ⟨free, home, by decide +kernel, job.disciplined q free home⟩

end Job

end AccountRelay
