import AccountRelay.Lock
import AccountRelay.Proofs.FileSystem
import AccountRelay.Proofs.Host
/-!
# Under the lock

Taking the lock of a directory may make the lock file, and nothing else. What an act under the lock
has changed is all that has changed once the lock is given back. If the lock cannot be taken, the act
does not begin.
-/

namespace AccountRelay

def QueueLock.fileName : Text := ".lock"

theorem QueueLock.isPart_fileName : QueueLock.fileName.IsPart := by
  constructor <;> decide

theorem QueueLock.startsWith_fileName {stem : Text} (hyphen : Symbol.char '-' ∈ stem) :
    QueueLock.fileName.startsWith stem = false := by
  rw [Bool.eq_false_iff, Ne, Text.startsWith_iff]
  rintro ⟨rest, whole⟩
  have inside : Symbol.char '-' ∈ QueueLock.fileName := by
    rw [whole]
    exact List.mem_append_left rest hyphen
  exact absurd inside (by decide)

/-! ## The lock file -/

/-- Nothing but the lock file of the directory may have been made. -/
def FileSystem.LockMade (directory : Path) (before after : FileSystem) : Prop :=
  after = before ∨
    ∃ l, before.openOrCreate QueueLock.fileMode (directory.join QueueLock.fileName) = .ok (l, after)

namespace FileSystem

variable {fs before after : FileSystem} {p : Path} {l : Location} {mode : Nat}

theorem openOrCreate_twice (opened : before.openOrCreate mode p = .ok (l, after)) :
    after.openOrCreate mode p = .ok (l, after) := by
  obtain ⟨located, ⟨free, rfl⟩ | ⟨-, rfl⟩⟩ := of_openOrCreate opened
  · have other : before.get? l ≠ some .directory := by simp [free]
    have again := @locate_of_directories before (before.set l (.file mode [])) p l rfl
      (get?_set_directory other _) located
    simp only [openOrCreate, again, bind, Except.bind,
      get?_set_self before _ (ne_nil_of_get?_ne other)]
    rfl
  · exact opened

theorem LockMade.refl (p : Path) (fs : FileSystem) : LockMade p fs fs := .inl rfl

theorem LockMade.trans {first mid last : FileSystem} (h : LockMade p first mid)
    (h' : LockMade p mid last) : LockMade p first last := by
  obtain rfl | ⟨l, made⟩ := h
  · exact h'
  · obtain rfl | ⟨m, again⟩ := h'
    · exact .inr ⟨l, made⟩
    · rw [openOrCreate_twice made] at again
      cases again
      exact .inr ⟨l, made⟩

theorem LockMade.get?_directory (h : LockMade p before after) (m : Location) :
    after.get? m = some .directory ↔ before.get? m = some .directory := by
  obtain rfl | ⟨l, made⟩ := h
  · exact Iff.rfl
  · obtain ⟨-, ⟨free, rfl⟩ | ⟨-, rfl⟩⟩ := of_openOrCreate made
    · by_cases same : m = l
      · subst same
        have other : before.get? m ≠ some .directory := by simp [free]
        rw [get?_set_self before _ (ne_nil_of_get?_ne other), free]
        exact ⟨nofun, nofun⟩
      · rw [get?_set_of_ne before _ same]
    · exact Iff.rfl

theorem LockMade.home (h : LockMade p before after) : after.home = before.home := by
  obtain rfl | ⟨l, made⟩ := h
  · rfl
  · obtain ⟨-, ⟨-, rfl⟩ | ⟨-, rfl⟩⟩ := of_openOrCreate made
    · rfl
    · rfl

theorem LockMade.leadsTo (h : LockMade p before after) {q : Path} (leads : before.LeadsTo q l) :
    after.LeadsTo q l :=
  leads.of_directories h.home fun m => (h.get?_directory m).2

theorem LockMade.leadsTo_before (made : LockMade p before after) {q : Path}
    (leads : after.LeadsTo q l) : before.LeadsTo q l :=
  leads.of_directories made.home.symm fun m => (made.get?_directory m).1

theorem LockMade.get?_of_some (made : LockMade p before after) {m : Location} {node : Node}
    (held : before.get? m = some node) : after.get? m = some node := by
  obtain rfl | ⟨k, opened⟩ := made
  · exact held
  · obtain ⟨-, ⟨free, rfl⟩ | ⟨-, rfl⟩⟩ := of_openOrCreate opened
    · rw [get?_set_of_ne]
      · exact held
      · rintro rfl
        cases free.symm.trans held
    · exact held

theorem LockMade.get?_of_ne (h : LockMade p before after) (leads : before.LeadsTo p l) {m : Location}
    (other : m ≠ l ++ [QueueLock.fileName]) : after.get? m = before.get? m := by
  obtain rfl | ⟨k, made⟩ := h
  · rfl
  · obtain ⟨located, ⟨-, rfl⟩ | ⟨-, rfl⟩⟩ := of_openOrCreate made
    · rw [leads.locate_join QueueLock.isPart_fileName] at located
      split at located
      · cases located
        exact get?_set_of_ne before _ other
      · cases located
    · rfl

theorem LockMade.get?_below (h : LockMade p before after) (leads : before.LeadsTo p l) {name : Text}
    (lock : name ≠ QueueLock.fileName) : after.get? (l ++ [name]) = before.get? (l ++ [name]) :=
  h.get?_of_ne leads fun same => lock (below_injective same)

theorem LockMade.eq_or_eq_set (h : LockMade p before after) :
    after = before ∨ ∃ l, before.LeadsTo p l ∧ before.get? (l ++ [QueueLock.fileName]) = none ∧
      after = before.set (l ++ [QueueLock.fileName]) (.file QueueLock.fileMode []) := by
  obtain rfl | ⟨m, made⟩ := h
  · exact .inl rfl
  · obtain ⟨located, ⟨free, rfl⟩ | ⟨-, rfl⟩⟩ := of_openOrCreate made
    · obtain ⟨l, leads, rfl⟩ := leadsTo_of_locate_join QueueLock.isPart_fileName located
      exact .inr ⟨l, leads, free, rfl⟩
    · exact .inl rfl

end FileSystem

/-! ## Hosts on which nothing happens -/

/-- The clock has not moved, the same locks are held, and no backend was called. -/
structure Host.Quiet (h h' : Host) : Prop where
  clock : h'.clock = h.clock
  locked : h'.locked = h.locked
  calls : h'.journal.calls = h.journal.calls
  deliveries : h'.journal.deliveries = h.journal.deliveries

/-- Besides, no file has changed. -/
structure Host.Still (h h' : Host) : Prop extends Host.Quiet h h' where
  files : h'.files = h.files

/-- Besides, nothing but the lock file of the directory may have been made. -/
structure Host.Idle (directory : Path) (h h' : Host) : Prop extends Host.Quiet h h' where
  files : h.files.LockMade directory h'.files

/-- The event is neither a call of a backend nor its acceptance. -/
def Event.Quiet : Event → Prop
  | .called _ => False
  | .delivered _ => False
  | _ => True

namespace Host

theorem Quiet.refl (h : Host) : Quiet h h := ⟨rfl, rfl, rfl, rfl⟩

theorem Quiet.trans {h h' h'' : Host} (first : Quiet h h') (second : Quiet h' h'') : Quiet h h'' where
  clock := second.clock.trans first.clock
  locked := second.locked.trans first.locked
  calls := second.calls.trans first.calls
  deliveries := second.deliveries.trans first.deliveries

theorem Idle.refl (directory : Path) (h : Host) : Idle directory h h :=
  ⟨.refl h, .refl directory h.files⟩

theorem Idle.trans {directory : Path} {h h' h'' : Host} (first : Idle directory h h')
    (second : Idle directory h' h'') : Idle directory h h'' :=
  ⟨first.toQuiet.trans second.toQuiet, first.files.trans second.files⟩

instance (directory : Path) : Std.Refl (Idle directory) := ⟨Idle.refl directory⟩

instance (directory : Path) : IsTrans Host (Idle directory) := ⟨fun _ _ _ => Idle.trans⟩

theorem quiet_record (e : Event) (quiet : e.Quiet) (h : Host) : Quiet h (h.record e) := by
  have calls : Journal.calls [e] = [] := by cases e <;> first | rfl | exact quiet.elim
  have deliveries : Journal.deliveries [e] = [] := by cases e <;> first | rfl | exact quiet.elim
  refine ⟨rfl, rfl, ?_, ?_⟩
  · change Journal.calls (h.journal ++ [e]) = _
    rw [Journal.calls_append, calls, List.append_nil]
  · change Journal.deliveries (h.journal ++ [e]) = _
    rw [Journal.deliveries_append, deliveries, List.append_nil]

theorem Still.refl (h : Host) : Still h h := ⟨.refl h, rfl⟩

theorem Still.trans {h h' h'' : Host} (first : Still h h') (second : Still h' h'') : Still h h'' :=
  ⟨first.toQuiet.trans second.toQuiet, second.files.trans first.files⟩

instance : Std.Refl Still := ⟨Still.refl⟩

instance : IsTrans Host Still := ⟨fun _ _ _ => Still.trans⟩

theorem Still.idle {h h' : Host} (still : Still h h') (directory : Path) : Idle directory h h' :=
  ⟨still.toQuiet, .inl still.files⟩

theorem still_record (e : Event) (quiet : e.Quiet) (h : Host) : Still h (h.record e) :=
  ⟨quiet_record e quiet h, rfl⟩

theorem idle_record (e : Event) (quiet : e.Quiet) (directory : Path) (h : Host) :
    Idle directory h (h.record e) := ⟨quiet_record e quiet h, .refl directory h.files⟩

theorem keeps_log (level : Level) (message : Text) (directory : Path) :
    (Act.log level message).Keeps (Idle directory) := fun h =>
  idle_record (.logged level message) trivial directory h

def lock (l : Location) (files : FileSystem) (h : Host) : Host :=
  record (.acquired l) { h with files := files, locked := h.locked ++ [l] }

/-- Once the lock is given back, only what happened under it has happened. -/
theorem Quiet.unlock {l : Location} {files : FileSystem} {h h' : Host} (free : l ∉ h.locked)
    (under : Quiet (h.lock l files) h') : Quiet h (Host.unlock l h') where
  clock := under.clock
  locked := by
    have others : h.locked.filter (fun m => decide (m ≠ l)) = h.locked := by
      rw [List.filter_eq_self]
      intro m held
      rw [decide_eq_true_eq]
      rintro rfl
      exact free held
    have own : [l].filter (fun m => decide (m ≠ l)) = [] := by simp
    have here : h'.locked = h.locked ++ [l] := under.locked
    change h'.locked.filter (fun m => decide (m ≠ l)) = h.locked
    rw [here, List.filter_append, others, own, List.append_nil]
  calls := by
    have quiet := (quiet_record (.released l) trivial h').calls
    have quiet' := (quiet_record (.acquired l) trivial h).calls
    exact quiet.trans (under.calls.trans quiet')
  deliveries := by
    have quiet := (quiet_record (.released l) trivial h').deliveries
    have quiet' := (quiet_record (.acquired l) trivial h).deliveries
    exact quiet.trans (under.deliveries.trans quiet')

theorem Idle.unlock {directory : Path} {l : Location} {files : FileSystem} {h h' : Host}
    (free : l ∉ h.locked) (made : h.files.LockMade directory files)
    (under : Idle directory (h.lock l files) h') : Idle directory h (Host.unlock l h') :=
  ⟨under.toQuiet.unlock free, made.trans under.files⟩

end Host

/-! ## Acts under the lock -/

namespace QueueLock

theorem lockFile_on (path : Path) (h : Host) :
    (lockFile path).on h =
      if path.hasNul then (.error (.fault .nulInPath), h)
      else match h.files.openOrCreate fileMode path with
        | .error e => (.error (.storage (.lockFile path e)), h)
        | .ok (l, files) =>
          if l ∈ h.locked then (.error (.storage (.lockHeld path)), { h with files := files })
          else (.ok l, h.lock l files) := by
  unfold lockFile Act.requireName
  by_cases nul : path.hasNul = true
  · simp [nul]
  · cases opened : h.files.openOrCreate fileMode path with
    | error e => simp [nul, Act.on_bind, opened]
    | ok both =>
      by_cases held : both.1 ∈ h.locked
      · simp [nul, Act.on_bind, opened, held]
      · simp [nul, Act.on_bind, opened, held, Host.lock, Host.record, Except.map]

theorem lockFile_of_free {path : Path} {h : Host} {l : Location} {files : FileSystem}
    (nul : path.hasNul = false) (opened : h.files.openOrCreate fileMode path = .ok (l, files))
    (free : l ∉ h.locked) : (lockFile path).on h = (.ok l, h.lock l files) := by
  simp [lockFile_on, nul, opened, free]

end QueueLock

/-- Either the lock cannot be taken, or what the act does under it is what happens. -/
theorem withLock_cases {α : Type} (directory : Path) (act : Act α) (h : Host) :
    (∃ e h', h.Idle directory h' ∧ (withLock directory act).on h = (.error e, h')) ∨
      ∃ l files, (directory.join QueueLock.fileName).hasNul = false ∧
        h.files.openOrCreate QueueLock.fileMode (directory.join QueueLock.fileName) = .ok (l, files) ∧
        l ∉ h.locked ∧ (withLock directory act).on h =
          ((act.on (h.lock l files)).1, Host.unlock l (act.on (h.lock l files)).2) := by
  unfold withLock
  have locked := QueueLock.lockFile_on (directory.join QueueLock.fileName) h
  split at locked
  · exact .inl ⟨_, h, .refl directory h, Act.on_bind_of_error h _ locked⟩
  · rename_i nul
    split at locked
    · exact .inl ⟨_, h, .refl directory h, Act.on_bind_of_error h _ locked⟩
    · rename_i l files opened
      split at locked
      · have idle : h.Idle directory { h with files := files } :=
          ⟨⟨rfl, rfl, rfl, rfl⟩, .inr ⟨l, opened⟩⟩
        exact .inl ⟨_, _, idle, Act.on_bind_of_error h _ locked⟩
      · rename_i free
        exact .inr ⟨l, files, by simpa using nul, opened, free, Act.on_bind_of_ok h _ locked⟩

theorem keeps_withLock {α : Type} {directory : Path} {act : Act α}
    (kept : act.Keeps (Host.Idle directory)) :
    (withLock directory act).Keeps (Host.Idle directory) := by
  intro h
  obtain ⟨e, h', idle, failed⟩ | ⟨l, files, -, opened, free, done⟩ := withLock_cases directory act h
  · rw [failed]
    exact idle
  · rw [done]
    exact (kept (h.lock l files)).unlock free (.inr ⟨l, opened⟩)

/-! ## When the lock can be taken -/

/-- The directory is there, and its lock can be opened and is free. -/
structure Host.Lockable (h : Host) (p : Path) (l : Location) : Prop where
  leads : h.files.LeadsTo p l
  nul : p.hasNul = false
  admitted : p.Admits QueueLock.fileName
  file : h.files.get? (l ++ [QueueLock.fileName]) ≠ some .directory
  free : l ++ [QueueLock.fileName] ∉ h.locked

theorem Host.lockable_of_opened {h : Host} {p : Path} {l m : Location} {files : FileSystem}
    (leads : h.files.LeadsTo p l) (nul : (p.join QueueLock.fileName).hasNul = false)
    (opened : h.files.openOrCreate QueueLock.fileMode (p.join QueueLock.fileName) = .ok (m, files))
    (free : m ∉ h.locked) : h.Lockable p l := by
  obtain ⟨located, held⟩ := FileSystem.of_openOrCreate opened
  rw [leads.locate_join QueueLock.isPart_fileName] at located
  split at located
  · rename_i admitted
    cases located
    refine ⟨leads, ?_, admitted, ?_, free⟩
    · rw [Path.hasNul_join p QueueLock.isPart_fileName, Bool.or_eq_false_iff] at nul
      exact nul.1
    · obtain ⟨none, -⟩ | ⟨⟨mode, content, file⟩, -⟩ := held
      · simp [none]
      · simp [file]
  · cases located

theorem Host.Lockable.before {h h' : Host} {p : Path} {l : Location} (lockable : h'.Lockable p l)
    (idle : h.Idle p h') (leads : h.files.LeadsTo p l) : h.Lockable p l where
  leads := leads
  nul := lockable.nul
  admitted := lockable.admitted
  file directory := lockable.file ((idle.files.get?_directory _).2 directory)
  free := idle.locked ▸ lockable.free

theorem Host.Lockable.opened {h : Host} {p : Path} {l : Location} (lockable : h.Lockable p l) :
    ∃ files, h.files.openOrCreate QueueLock.fileMode (p.join QueueLock.fileName) =
      .ok (l ++ [QueueLock.fileName], files) := by
  rw [lockable.leads.openOrCreate_join QueueLock.isPart_fileName, if_pos lockable.admitted]
  cases held : h.files.get? (l ++ [QueueLock.fileName]) with
  | none => exact ⟨_, rfl⟩
  | some node =>
    cases node with
    | file mode content => exact ⟨_, rfl⟩
    | directory => exact absurd held lockable.file

theorem Host.Lockable.withLock {α : Type} {h : Host} {p : Path} {l : Location}
    (lockable : h.Lockable p l) (act : Act α) :
    ∃ files, h.files.LockMade p files ∧ (withLock p act).on h =
      ((act.on (h.lock (l ++ [QueueLock.fileName]) files)).1,
        Host.unlock (l ++ [QueueLock.fileName]) (act.on (h.lock (l ++ [QueueLock.fileName]) files)).2) := by
  obtain ⟨files, opened⟩ := lockable.opened
  refine ⟨files, .inr ⟨_, opened⟩, ?_⟩
  have named : (p.join QueueLock.fileName).hasNul = false := by
    rw [Path.hasNul_join p QueueLock.isPart_fileName, lockable.nul]
    decide
  exact Act.on_bind_of_ok h _ (QueueLock.lockFile_of_free named opened lockable.free)

/-- Where it is not, the operating system is to blame, or whoever holds the lock. -/
theorem withLock_of_named {α : Type} {p : Path} (named : p.hasNul = false) (act : Act α) (h : Host) :
    ((∀ l, ¬ h.Lockable p l) ∧ ∃ e, ((withLock p act).on h).1 = .error e ∧ e.kind = .system) ∨
      ∃ l files, h.Lockable p l ∧ h.files.LockMade p files ∧ ((withLock p act).on h).1 =
        (act.on (h.lock (l ++ [QueueLock.fileName]) files)).1 := by
  by_cases lockable : ∃ l, h.Lockable p l
  · obtain ⟨l, lockable⟩ := lockable
    obtain ⟨files, made, done⟩ := lockable.withLock act
    rw [done]
    exact .inr ⟨l, files, lockable, made, rfl⟩
  · refine .inl ⟨fun l here => lockable ⟨l, here⟩, ?_⟩
    have nul : (p.join QueueLock.fileName).hasNul = false := by
      rw [Path.hasNul_join p QueueLock.isPart_fileName, named]
      decide
    have locked := QueueLock.lockFile_on (p.join QueueLock.fileName) h
    rw [if_neg (by simp [nul])] at locked
    unfold withLock
    split at locked
    · exact ⟨_, congrArg Prod.fst (Act.on_bind_of_error h _ locked), rfl⟩
    · rename_i m files opened
      split at locked
      · exact ⟨_, congrArg Prod.fst (Act.on_bind_of_error h _ locked), rfl⟩
      · rename_i free
        obtain ⟨located, -⟩ := FileSystem.of_openOrCreate opened
        obtain ⟨l, leads, -⟩ := FileSystem.leadsTo_of_locate_join QueueLock.isPart_fileName located
        exact absurd ⟨l, Host.lockable_of_opened leads nul opened free⟩ lockable

def Host.withDirectory (name : Text) (clock : Moment) : Host :=
  ⟨(FileSystem.empty []).set [name] .directory, [], clock, []⟩

/-! ## The directory behind the lock -/

/-- Nothing has been delivered, and the directory holds the entries that it held. -/
structure Host.Unmoved (p : Path) (l : Location) (h h' : Host) : Prop where
  clock : h'.clock = h.clock
  locked : ∀ m ∈ h'.locked, m ∈ h.locked
  deliveries : h'.journal.deliveries = h.journal.deliveries
  leads : h'.files.LeadsTo p l
  held : ∀ name, name ≠ QueueLock.fileName →
    h'.files.get? (l ++ [name]) = h.files.get? (l ++ [name])

theorem Host.Idle.unmoved {h h' : Host} {p : Path} {l : Location} (idle : h.Idle p h')
    (leads : h.files.LeadsTo p l) : h.Unmoved p l h' where
  clock := idle.clock
  locked _ held := idle.locked ▸ held
  deliveries := idle.deliveries
  leads := idle.files.leadsTo leads
  held _ other := idle.files.get?_below leads other

theorem Host.Unmoved.trans {h h' h'' : Host} {p : Path} {l : Location} (first : h.Unmoved p l h')
    (second : h'.Unmoved p l h'') : h.Unmoved p l h'' where
  clock := second.clock.trans first.clock
  locked m held := first.locked m (second.locked m held)
  deliveries := second.deliveries.trans first.deliveries
  leads := second.leads
  held name other := (second.held name other).trans (first.held name other)

end AccountRelay
