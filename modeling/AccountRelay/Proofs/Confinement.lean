import AccountRelay.Command
import AccountRelay.Proofs.Numbering
/-!
# Entries stay in their directory

A principal may be any text, but nothing of it leads out of the queue: what could separate or end the
parts of a path, or a line of a listing, is escaped or replaced before it comes to a name, and the
hyphens of a name tell it from the directory itself, from the one above and from the lock file. What a
listing shows are lines with one entry each. It leaves out those whose user starts with a dot.
-/

namespace AccountRelay

/-! ## Names -/

/-- The name of something directly below a directory, other than the lock file, in one line. -/
structure EntryName.Confined (name : Text) : Prop where
  part : name.IsPart
  nul : Symbol.char '\x00' ∉ name
  newline : Symbol.char '\n' ∉ name
  lock : name ≠ QueueLock.fileName

/-- The path is that of an entry in the directory. -/
structure Queue.Child (p entry : Path) : Prop where
  named : EntryName.Confined entry.name
  parent : entry.parent = p
  lock : entry ≠ (QueueLock.ofDirectory p).path

theorem Text.Tame.newline_not_mem {t : Text} (h : t.Tame) : Symbol.char '\n' ∉ t := by
  intro inside
  cases (h _ inside).2

theorem Change.exists_key (principal : Principal) (domain : Domain) (k : ChangeClass) :
    ∃ c : Change, c.key = keyOf principal.user domain k := by
  cases k with
  | password => exact ⟨⟨principal, domain, .setPassword ⟨"x", by decide, by decide, by decide⟩⟩, rfl⟩
  | enable => exact ⟨⟨principal, domain, .enable⟩, rfl⟩

namespace EntryName

theorem confined_compose (c : Change) {m : Moment} {second : Text} (sequence : Nat)
    (stamped : m.stamp? = some second) : Confined (compose c.key second sequence) where
  part := isPart_compose c sequence stamped
  nul := (tame_compose c sequence stamped).nul_not_mem
  newline := (tame_compose c sequence stamped).newline_not_mem
  lock := compose_ne_lock c second sequence

/-- Whatever the principal holds, its names are confined. -/
theorem confined_of_compose? {principal : Principal} {domain operation key second name : Text}
    {m : Moment} {sequence : Int} (keyed : conflictKey (.principal principal) domain operation = .ok key)
    (stamped : m.stamp? = some second) (composed : compose? key second sequence = .ok name) :
    Confined name := by
  obtain ⟨known, k, rfl⟩ : ∃ known k, key = keyOf principal.user known k := by
    unfold conflictKey at keyed
    cases found : Domain.ofWord? domain with
    | none =>
      rw [found] at keyed
      cases keyed
    | some known =>
      rw [found] at keyed
      obtain ⟨_, read, keyed⟩ := bind_eq_ok_iff.1 keyed
      cases read
      obtain ⟨k, -, keyed⟩ := bind_eq_ok_iff.1 keyed
      cases keyed
      exact ⟨known, k, rfl⟩
  obtain ⟨c, own⟩ := Change.exists_key principal known k
  rw [← own, compose?] at composed
  split at composed
  · cases composed
    exact confined_compose c _ stamped
  · cases composed

theorem Confined.child {name : Text} (confined : Confined name) (p : Path) :
    Queue.Child p (p.join name) := by
  have lock : (QueueLock.ofDirectory p).path = p.join QueueLock.fileName := rfl
  refine ⟨?_, ?_, ?_⟩
  · rw [Path.name_join p confined.part]
    exact confined
  · rw [Path.join_of_isPart p confined.part]
    simp [Path.parent]
  · intro same
    have names := congrArg Path.name same
    rw [lock, Path.name_join p confined.part, Path.name_join p QueueLock.isPart_fileName] at names
    exact confined.lock names

end EntryName

/-! ## What is recorded -/

/-- The event may happen in an operation on the queue: entries are created in its directory, and
nothing is written to the standard output. -/
def Event.Within (p : Path) : Event → Prop
  | .creating entry => Queue.Child p entry
  | .emitted _ => False
  | _ => True

def Host.Within (p : Path) (h h' : Host) : Prop :=
  ∃ events, h'.journal = h.journal ++ events ∧ ∀ e ∈ events, e.Within p

namespace Host

variable {p : Path} {h h' h'' : Host}

theorem within_of_journal (same : h'.journal = h.journal) : Within p h h' :=
  ⟨[], by rw [same, List.append_nil], nofun⟩

theorem Within.trans (first : Within p h h') (second : Within p h' h'') : Within p h h'' := by
  obtain ⟨events, same, within⟩ := first
  obtain ⟨events', same', within'⟩ := second
  refine ⟨events ++ events', by rw [same', same, List.append_assoc], ?_⟩
  intro e inside
  obtain inside | inside := List.mem_append.1 inside
  · exact within e inside
  · exact within' e inside

instance (p : Path) : Std.Refl (Within p) := ⟨fun _ => within_of_journal rfl⟩

instance (p : Path) : IsTrans Host (Within p) := ⟨fun _ _ _ => Within.trans⟩

theorem within_record (e : Event) (within : e.Within p) (h : Host) : Within p h (h.record e) := by
  refine ⟨[e], rfl, ?_⟩
  intro e' inside
  rwa [List.mem_singleton.1 inside]

theorem Within.output (within : Within p h h') : h'.journal.output = h.journal.output := by
  obtain ⟨events, same, within⟩ := within
  have silent : Journal.output events = [] := by
    rw [Journal.output, List.flatMap_eq_nil_iff]
    intro e inside
    cases e with
    | emitted bytes => exact (within _ inside).elim
    | _ => rfl
  have both : Journal.output (h.journal ++ events) = Journal.output h.journal ++ Journal.output events :=
    List.flatMap_append
  rw [same, both, silent, List.append_nil]

end Host

namespace Queue

variable {p : Path}

theorem within_search : (Act.search p).Keeps (Host.Within p) := by
  intro h
  rw [Act.search_on]
  exact Host.within_record (.searched p) trivial h

theorem within_withLock {α : Type} {act : Act α} (kept : act.Keeps (Host.Within p)) :
    (withLock p act).Keeps (Host.Within p) := by
  refine Act.Keeps.bind ?_ fun l h => ?_
  · intro h
    rw [QueueLock.lockFile_on]
    split
    · exact Host.within_of_journal rfl
    · split
      · exact Host.within_of_journal rfl
      · split
        · exact Host.within_of_journal rfl
        · exact Host.within_record (.acquired _) trivial _
  · rw [Act.on_ensuring]
    exact (kept h).trans (Host.within_record (.released l) trivial _)

theorem within_createFrom (c : Change) {m : Moment} {second : Text} (stamped : m.stamp? = some second)
    (content : Bytes) (sequence tries : Nat) :
    (createFrom p c.key second content sequence tries).Keeps (Host.Within p) := by
  induction tries generalizing sequence with
  | zero => exact fun h => Host.within_of_journal rfl
  | succ tries ih =>
    intro h
    have begun : h.Within p (h.record (.creating (p.join (EntryName.compose c.key second sequence)))) :=
      Host.within_record (.creating _) ((EntryName.confined_compose c sequence stamped).child p) h
    rw [createFrom_succ_on]
    simp only
    split
    · exact begun
    · exact begun.trans (ih (sequence + 1) _)
    · exact begun

theorem within_write (c : Change) (moment : Option Moment) :
    (write p c moment).Keeps (Host.Within p) := by
  unfold write
  cases content? c with
  | none => exact fun h => Host.within_of_journal rfl
  | some content =>
    refine (Act.keeps_ask _).bind fun now => ?_
    cases stamped : (moment.getD now).stamp? with
    | none => exact fun h => Host.within_of_journal rfl
    | some second =>
      have numbered : (freeSequence p c.key second).Keeps (Host.Within p) :=
        within_search.bind fun _ => Act.keeps_ofResult _
      exact numbered.bind fun sequence => within_createFrom c stamped content sequence _

theorem within_enqueue (c : Change) (moment : Option Moment) :
    (enqueue ⟨some p⟩ c moment).Keeps (Host.Within p) := by
  rw [enqueue_configured]
  refine (within_withLock (within_write c moment)).bind fun name h => ?_
  exact Host.within_record (.logged .info _) trivial h

theorem within_entries : (entries ⟨some p⟩).Keeps (Host.Within p) := by
  rw [entries_configured]
  exact within_withLock (within_search.map _)

/-- Putting a change into the queue creates entries of its directory, and changes nothing besides the
new entry and the lock file. -/
structure Confines (p : Path) (result : Except Failure Text) (before after : Host) : Prop where
  created : ∃ events, after.journal = before.journal ++ events ∧
    ∀ entry, .creating entry ∈ events → Child p entry
  changed : ∀ m, after.files.get? m ≠ before.files.get? m → ∃ l name, before.files.LeadsTo p l ∧
    m = l ++ [name] ∧ (name = QueueLock.fileName ∨ EntryName.Confined name ∧ result = .ok name)

theorem changed_of_lockMade {before after : FileSystem} (made : before.LockMade p after) {m : Location}
    (changed : after.get? m ≠ before.get? m) :
    ∃ l, before.LeadsTo p l ∧ m = l ++ [QueueLock.fileName] := by
  obtain rfl | ⟨l, leads, -, rfl⟩ := made.eq_or_eq_set
  · exact absurd rfl changed
  · by_cases lock : m = l ++ [QueueLock.fileName]
    · exact ⟨l, leads, lock⟩
    · exact absurd (FileSystem.get?_set_of_ne before _ lock) changed

theorem confines_enqueue (p : Path) (c : Change) (moment : Option Moment) (h : Host) :
    Confines p ((enqueue ⟨some p⟩ c moment).on h).1 h ((enqueue ⟨some p⟩ c moment).on h).2 where
  created := by
    obtain ⟨events, same, within⟩ := within_enqueue c moment h
    exact ⟨events, same, fun entry inside => within _ inside⟩
  changed m changed := by
    obtain ⟨e, h', idle, failed⟩ | ⟨name, h', enqueued, done⟩ := enqueue_cases p c moment h
    · rw [failed] at changed
      obtain ⟨l, leads, lock⟩ := changed_of_lockMade idle.files changed
      exact ⟨l, _, leads, lock, .inl rfl⟩
    · rw [done] at changed ⊢
      obtain ⟨-, second, sequence, content, rfl, added⟩ := enqueued.written
      obtain ⟨l, leads⟩ := added.exists_leadsTo
      obtain ⟨mid, _, _, made, -, -, -, -, -, set⟩ := added.set leads
      by_cases own : m = l ++ [EntryName.compose c.key second sequence]
      · exact ⟨l, _, leads, own, .inr ⟨EntryName.confined_compose c sequence added.stamped, rfl⟩⟩
      · rw [set, FileSystem.get?_set_of_ne mid _ own] at changed
        obtain ⟨l', leads', lock⟩ := changed_of_lockMade made changed
        exact ⟨l', _, leads', lock, .inl rfl⟩

end Queue

/-! ## What is printed -/

def linesOf (names : List Text) : Text := names.flatMap fun name => name ++ [.char '\n']

section Printed

variable {p : Path} {l : Location} {h : Host} {steps : List Step}

/-- A listing of the queue prints the names of the entries, in lines. -/
theorem run_list_of_lockable {s : Settings} (configured : Queue.ofText s.queueDir = ⟨some p⟩)
    (modules : List Module) (lockable : h.Lockable p l) :
    ∃ after, (Command.run modules s (.list "-")).on h = (.ok (), after) ∧
      after.journal.output =
        h.journal.output ++ Text.toBytes (linesOf (h.files.named l EntryName.isListed)) := by
  obtain ⟨h', -, done⟩ := Queue.entries_of_lockable lockable
  have silent : h'.journal.output = h.journal.output :=
    (Queue.within_entries.of_on done).output
  have standard : Destination.ofText "-" = .ok .standardOutput := by decide
  have listing : (Command.listTo ⟨some p⟩ .standardOutput).on h =
      (.ok (), h'.record (.emitted (Text.toBytes (linesOf (h.files.named l EntryName.isListed))))) :=
    Act.on_bind_of_ok h _ done
  have ran : (Command.run modules s (.list "-")).on h =
      (.ok (), h'.record (.emitted (Text.toBytes (linesOf (h.files.named l EntryName.isListed))))) := by
    rw [Command.run, standard, configured]
    exact listing
  have emitted (bytes : Bytes) : Journal.output (h'.journal ++ [.emitted bytes]) =
      h'.journal.output ++ (bytes ++ []) := List.flatMap_append
  refine ⟨_, ran, (emitted _).trans ?_⟩
  rw [silent, List.append_nil]

/-- In a queue, a principal, an operation, a time and a sequence number get confined names, whatever
they are, and what is put into the queue stays in its directory. After a run from an empty directory,
an entry is printed on exactly one line of a listing if its user does not start with a dot, and on
none if it does. -/
theorem entries_confined (lockable : h.Lockable p l) (empty : h.files.entries l = [])
    (spares : ∀ step ∈ steps, ∀ backend, step.request.backend? = some backend → backend.Spares p)
    {s : Settings} (configured : Queue.ofText s.queueDir = ⟨some p⟩) (modules : List Module) :
    (∀ (principal : Principal) (domain operation key second name : Text) (m : Moment) (sequence : Int),
      conflictKey (.principal principal) domain operation = .ok key → m.stamp? = some second →
        EntryName.compose? key second sequence = .ok name → EntryName.Confined name) ∧
      (∀ c moment g, Queue.Confines p ((Queue.enqueue ⟨some p⟩ c moment).on g).1 g
        ((Queue.enqueue ⟨some p⟩ c moment).on g).2) ∧
      ∃ names after, (Command.run modules s (.list "-")).on (run ⟨some p⟩ h steps).host =
          (.ok (), after) ∧
        after.journal.output =
          (run ⟨some p⟩ h steps).host.journal.output ++ Text.toBytes (linesOf names) ∧
        Text.splitAll (.char '\n') (linesOf names) = names ++ [[]] ∧
        ∀ name c, StandsFor p l h steps name c →
          names.count name = if c.principal.user.startsWith "." then 0 else 1 := by
  refine ⟨?_, Queue.confines_enqueue p, ?_⟩
  · intro principal domain operation key second name m sequence keyed stamped composed
    exact EntryName.confined_of_compose? keyed stamped composed
  have orderly := orderly_of_run lockable.leads empty spares
  obtain ⟨after, done, output⟩ := run_list_of_lockable configured modules
    (lockable.run fun step inside backend served => (spares step inside backend served).steady)
  refine ⟨_, after, done, output, Text.splitAll_lines ?_, ?_⟩
  · intro name inside
    obtain ⟨listed, mode, content, held⟩ := FileSystem.mem_named_iff.1 inside
    obtain ⟨-, c, m, second, sequence, stamped, rfl⟩ :=
      orderly name _ (EntryName.ne_lock_of_isListed listed) held
    exact (EntryName.confined_compose c sequence stamped).newline
  · intro name c stands
    have present := stands.hasFile
    obtain ⟨second, sequence, rfl⟩ := stands.name_eq lockable.leads empty spares
    have listed : EntryName.isListed (EntryName.compose c.key second sequence) =
        EntryName.isListed c.principal.user :=
      (EntryName.isListed_compose _ _ _ second sequence).trans (EntryName.isListed_keyOf _ _ _)
    cases dot : c.principal.user.startsWith "." with
    | true =>
      refine List.count_eq_zero_of_not_mem fun inside => ?_
      have shown := (FileSystem.mem_named_iff.1 inside).1
      rw [listed, EntryName.isListed, dot] at shown
      cases shown
    | false =>
      refine List.count_eq_one_of_mem FileSystem.nodup_named (FileSystem.mem_named_iff.2 ⟨?_, present⟩)
      rw [listed, EntryName.isListed, dot]
      rfl

/-- A slash and two dots in one component, and a newline in the other. -/
theorem entries_confined_of_dots :
    let p : Path := ⟨[], ["queue"]⟩
    let h := Host.withDirectory "queue" .newYear
    let s : Settings := ⟨some "queue", false, none, none, [], none, false, []⟩
    let c : Change := ⟨⟨["a/..", "b\n"], []⟩, .ad, .enable⟩
    let name : Text := "a\\....b\\n-ad-enable-20240101T000000Z-00"
    let steps : List Step := [⟨.newYear, .enqueue c none⟩]
    h.Lockable p ["queue"] ∧ h.files.entries ["queue"] = [] ∧
      (∀ step ∈ steps, ∀ backend, step.request.backend? = some backend → backend.Spares p) ∧
      Queue.ofText s.queueDir = ⟨some p⟩ ∧ StandsFor p ["queue"] h steps name c ∧
      EntryName.Confined name ∧
      ∃ names after, (Command.run [] s (.list "-")).on (run ⟨some p⟩ h steps).host =
          (.ok (), after) ∧
        after.journal.output =
          (run ⟨some p⟩ h steps).host.journal.output ++ Text.toBytes (linesOf names) ∧
        Text.splitAll (.char '\n') (linesOf names) = names ++ [[]] ∧ names.count name = 1 := by
  intro p h s c name steps
  have lockable : h.Lockable p ["queue"] :=
    ⟨⟨by decide, by decide⟩, by decide, by decide, by decide, by decide⟩
  have empty : h.files.entries ["queue"] = [] := by decide
  have spares : ∀ step ∈ steps, ∀ backend, step.request.backend? = some backend →
      backend.Spares p := by
    intro step inside backend configured
    obtain rfl := List.mem_singleton.1 inside
    cases configured
  have configured : Queue.ofText s.queueDir = ⟨some p⟩ := by decide
  have stands : StandsFor p ["queue"] h steps name c := by
    refine ⟨[], _, [], rfl, rfl, .inl (by decide +kernel), fun since early => ?_⟩
    obtain rfl := List.prefix_nil.1 early
    exact ⟨Queue.entryMode, (Queue.content? c).getD [], by decide +kernel⟩
  obtain ⟨confined, -, names, after, done, output, lines, counted⟩ :=
    entries_confined lockable empty spares configured []
  refine ⟨lockable, empty, spares, configured, stands, ?_, names, after, done, output, lines,
    counted name c stands⟩
  exact confined c.principal "ad" "enable" c.key "20240101T000000Z" name .newYear 0 (by decide +kernel)
    (by decide +kernel) (by decide +kernel)

/-- An entry whose user starts with a dot is made, and no line of a listing shows it. -/
theorem not_printed_of_dot :
    let p : Path := ⟨[], ["queue"]⟩
    let h := Host.withDirectory "queue" .newYear
    let s : Settings := ⟨some "queue", false, none, none, [], none, false, []⟩
    let c : Change := ⟨⟨[".x"], []⟩, .ad, .enable⟩
    let name : Text := ".x-ad-enable-20240101T000000Z-00"
    let h' := (run ⟨some p⟩ h [⟨.newYear, .enqueue c none⟩]).host
    ((Queue.enqueue ⟨some p⟩ c none).on h).1 = .ok name ∧ h'.files.HasFile ["queue"] name ∧
      ((Command.run [] s (.list "-")).on h').1 = .ok () ∧
      ((Command.run [] s (.list "-")).on h').2.journal.output = [] := by
  intro p h s c name h'
  exact ⟨by decide +kernel, ⟨Queue.entryMode, (Queue.content? c).getD [], by decide +kernel⟩,
    by decide +kernel, by decide +kernel⟩

end Printed

end AccountRelay
