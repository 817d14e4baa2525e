import AccountRelay.Proofs.EntryName
import AccountRelay.Proofs.Lock
/-!
# What operations on a queue do

Searching a queue leaves it as it is. Putting a change into it either makes one new file, which is
the entry of the change, or makes none.

The name of a new entry follows the names of all entries of its key and second, because its sequence
number is above theirs.
-/

namespace AccountRelay

namespace EntryName

theorem isPart_of_tame {name : Text} (tame : name.Tame) (hyphen : Symbol.char '-' ∈ name) :
    name.IsPart where
  slash inside := (tame _ inside).1 rfl
  nonempty := List.ne_nil_of_mem hyphen
  dot := by
    rintro rfl
    exact absurd hyphen (by decide)
  dots := by
    rintro rfl
    exact absurd hyphen (by decide)

theorem isPart_compose (c : Change) {m : Moment} {second : Text} (sequence : Nat)
    (moment : m.stamp? = some second) : (compose c.key second sequence).IsPart :=
  isPart_of_tame (tame_compose c sequence moment) (hyphen_mem_compose c second sequence)

theorem compose_ne_lock (c : Change) (second : Text) (sequence : Nat) :
    compose c.key second sequence ≠ QueueLock.fileName := by
  intro same
  have hyphen := hyphen_mem_compose c second sequence
  rw [same] at hyphen
  exact absurd hyphen (by decide)

end EntryName

namespace Queue

/-- The change has been written to a new file of the directory. The lock file may have been made
before. -/
structure Added (directory : Path) (c : Change) (time : Moment) (second : Text) (sequence : Nat)
    (content : Bytes) (before after : FileSystem) : Prop where
  named : directory.hasNul = false
  stamped : time.stamp? = some second
  bound : sequence < sequenceBound
  encoded : content? c = some content
  made : ∃ mid found free, before.LockMade directory mid ∧ mid.list directory = .ok found ∧
    sequenceAmong (c.key ++ second ++ "-") (found.map Prod.fst) = .ok free ∧ free ≤ sequence ∧
    mid.create entryMode content (directory.join (EntryName.compose c.key second sequence)) =
      .ok after

/-- A file with this name now holds the change, and nothing has been delivered. -/
def Written (directory : Path) (c : Change) (moment : Option Moment) (h : Host) (name : Text)
    (h' : Host) : Prop :=
  h.Quiet h' ∧ ∃ second sequence content, name = EntryName.compose c.key second sequence ∧
    Added directory c (moment.getD h.clock) second sequence content h.files h'.files

/-- The change has been written while the lock of the directory was held, which was free. -/
structure Enqueued (directory : Path) (c : Change) (moment : Option Moment) (h : Host) (name : Text)
    (h' : Host) : Prop where
  written : Written directory c moment h name h'
  lockable : ∀ l, h.files.LeadsTo directory l → h.Lockable directory l

theorem Added.before {directory : Path} {c : Change} {time : Moment} {second : Text} {sequence : Nat}
    {content : Bytes} {first before after : FileSystem} (made : first.LockMade directory before)
    (added : Added directory c time second sequence content before after) :
    Added directory c time second sequence content first after := by
  obtain ⟨mid, found, free, made', rest⟩ := added.made
  exact ⟨added.named, added.stamped, added.bound, added.encoded, mid, found, free,
    made.trans made', rest⟩

section Enqueued

variable {directory : Path} {c : Change} {moment : Option Moment} {name : Text} {h h' h'' : Host}

theorem Written.before (idle : h.Idle directory h') (written : Written directory c moment h' name h'') :
    Written directory c moment h name h'' := by
  obtain ⟨quiet, second, sequence, content, rfl, added⟩ := written
  rw [idle.clock] at added
  exact ⟨idle.toQuiet.trans quiet, second, sequence, content, rfl, added.before idle.files⟩

theorem Written.enqueued {l : Location} {files : FileSystem}
    (nul : (directory.join QueueLock.fileName).hasNul = false)
    (opened : h.files.openOrCreate QueueLock.fileMode (directory.join QueueLock.fileName) =
      .ok (l, files))
    (free : l ∉ h.locked) (written : Written directory c moment (h.lock l files) name h') :
    Enqueued directory c moment h name (h'.unlock l) := by
  obtain ⟨quiet, second, sequence, content, rfl, added⟩ := written
  refine ⟨⟨quiet.unlock free, second, sequence, content, rfl, added.before (.inr ⟨l, opened⟩)⟩, ?_⟩
  intro m leads
  exact Host.lockable_of_opened leads nul opened free

theorem Enqueued.before (idle : h.Idle directory h') (done : Enqueued directory c moment h' name h'') :
    Enqueued directory c moment h name h'' := by
  refine ⟨done.written.before idle, ?_⟩
  intro l leads
  exact (done.lockable l (idle.files.leadsTo leads)).before idle leads

theorem Enqueued.record (done : Enqueued directory c moment h name h') (e : Event)
    (quiet : e.Quiet) : Enqueued directory c moment h name (h'.record e) :=
  ⟨⟨done.written.1.trans (Host.quiet_record e quiet h'), done.written.2⟩, done.lockable⟩

end Enqueued

/-- No name in the directory starts with the key. -/
def Clear (directory : Path) (key : Text) (fs : FileSystem) : Prop :=
  ∃ mid found, fs.LockMade directory mid ∧ mid.list directory = .ok found ∧
    ∀ entry ∈ found, entry.1.startsWith key = false

def Pending (directory : Path) (key : Text) (fs : FileSystem) : Prop :=
  ∃ mid found, fs.LockMade directory mid ∧ mid.list directory = .ok found ∧
    ∃ entry ∈ found, entry.1.startsWith key = true

theorem Clear.before {directory : Path} {key : Text} {first fs : FileSystem}
    (made : first.LockMade directory fs) (clear : Clear directory key fs) :
    Clear directory key first := by
  obtain ⟨mid, found, made', rest⟩ := clear
  exact ⟨mid, found, made.trans made', rest⟩

theorem Pending.before {directory : Path} {key : Text} {first fs : FileSystem}
    (made : first.LockMade directory fs) (pending : Pending directory key fs) :
    Pending directory key first := by
  obtain ⟨mid, found, made', rest⟩ := pending
  exact ⟨mid, found, made.trans made', rest⟩

/-! ## Under the lock -/

theorem keeps_search (directory : Path) :
    (Act.search directory).Keeps (Host.Idle directory) := by
  intro h
  rw [Act.search_on]
  exact Host.idle_record (.searched directory) trivial directory h

theorem search_of_leadsTo {p : Path} {l : Location} {h : Host} (named : p.hasNul = false)
    (leads : h.files.LeadsTo p l) :
    (Act.search p).on h = (.ok (h.files.entries l), h.record (.searched p)) := by
  rw [Act.search_on, named, leads.list]
  rfl

theorem freeSequence_of_leadsTo {p : Path} {l : Location} {h : Host} (named : p.hasNul = false)
    (leads : h.files.LeadsTo p l) (key second : Text) :
    (freeSequence p key second).on h =
      ((sequenceAmong (key ++ second ++ "-") ((h.files.entries l).map Prod.fst)).mapError .fault,
        h.record (.searched p)) := by
  unfold freeSequence
  rw [Act.on_bind_of_ok h _ (search_of_leadsTo named leads), Act.orFault, Act.on_ofResult]

theorem freeSequence_cases (directory : Path) (key second : Text) (h : Host) :
    (∃ e, (freeSequence directory key second).on h = (.error e, h.record (.searched directory))) ∨
      ∃ found free, directory.hasNul = false ∧ h.files.list directory = .ok found ∧
        sequenceAmong (key ++ second ++ "-") (found.map Prod.fst) = .ok free ∧
        (freeSequence directory key second).on h = (.ok free, h.record (.searched directory)) := by
  unfold freeSequence
  rw [Act.on_bind, Act.search_on]
  by_cases nul : directory.hasNul = true
  · rw [if_pos nul]
    exact .inl ⟨_, rfl⟩
  · rw [if_neg nul]
    cases listed : h.files.list directory with
    | error e => exact .inl ⟨_, rfl⟩
    | ok found =>
      simp only [mapError_ok, Act.orFault, Act.on_ofResult]
      cases among : sequenceAmong (key ++ second ++ "-") (found.map Prod.fst) with
      | error f => exact .inl ⟨_, rfl⟩
      | ok free => exact .inr ⟨found, free, by simpa using nul, rfl, among, rfl⟩

theorem createFrom_succ_on (directory : Path) (key second : Text) (content : Bytes)
    (sequence tries : Nat) (h : Host) :
    (createFrom directory key second content sequence (tries + 1)).on h =
      let entry := directory.join (EntryName.compose key second sequence)
      match h.files.create entryMode content entry with
      | .ok files => (.ok entry.name, { h.record (.creating entry) with files := files })
      | .error .alreadyExists =>
        (createFrom directory key second content (sequence + 1) tries).on (h.record (.creating entry))
      | .error e => (.error (.storage (.createEntry entry e)), h.record (.creating entry)) := by
  cases created : h.files.create entryMode content
      (directory.join (EntryName.compose key second sequence)) with
  | ok files => simp [createFrom, Act.on_bind, Host.record, created, Except.map]
  | error e => cases e <;> simp [createFrom, Act.on_bind, Host.record, created]

/-- Either no sequence number was free, or the file for one of them was made. -/
theorem createFrom_cases (directory : Path) (key second : Text) (content : Bytes)
    (sequence tries : Nat) (h : Host) :
    (∃ e h', h.Idle directory h' ∧
      (createFrom directory key second content sequence tries).on h = (.error e, h')) ∨
      ∃ n h', sequence ≤ n ∧ n < sequence + tries ∧ h.Quiet h' ∧
        h.files.create entryMode content (directory.join (EntryName.compose key second n)) =
          .ok h'.files ∧
        (createFrom directory key second content sequence tries).on h =
          (.ok (directory.join (EntryName.compose key second n)).name, h') := by
  -- Only a name that is taken leads on to the next number; any other failure ends the search.
  induction tries generalizing sequence h with
  | zero => exact .inl ⟨_, h, .refl directory h, rfl⟩
  | succ tries ih =>
    have begun := Host.idle_record (.creating (directory.join (EntryName.compose key second sequence)))
      trivial directory h
    rw [createFrom_succ_on]
    simp only
    split
    · rename_i files created
      exact .inr ⟨sequence, { h.record (.creating _) with files := files }, Nat.le_refl _, by omega,
        ⟨rfl, rfl, begun.calls, begun.deliveries⟩, created, rfl⟩
    · obtain ⟨e, h', idle, failed⟩ | ⟨n, h', low, high, quiet, made, done⟩ := ih (sequence + 1)
        (h.record (.creating (directory.join (EntryName.compose key second sequence))))
      · exact .inl ⟨e, h', begun.trans idle, failed⟩
      · exact .inr ⟨n, h', by omega, by omega, begun.toQuiet.trans quiet, made, done⟩
    · exact .inl ⟨_, _, begun, rfl⟩

theorem write_on (directory : Path) {c : Change} {moment : Option Moment} {h : Host} {content : Bytes}
    {second : Text} (encoded : content? c = some content)
    (stamped : (moment.getD h.clock).stamp? = some second) :
    (write directory c moment).on h = (freeSequence directory c.key second >>= fun sequence =>
      createFrom directory c.key second content sequence (sequenceBound - sequence)).on h := by
  simp [write, encoded, Act.on_bind, stamped]

theorem write_cases (directory : Path) (c : Change) (moment : Option Moment) (h : Host) :
    (∃ e h', h.Idle directory h' ∧ (write directory c moment).on h = (.error e, h')) ∨
      ∃ name h', Written directory c moment h name h' ∧
        (write directory c moment).on h = (.ok name, h') := by
  cases encoded : content? c with
  | none => exact .inl ⟨_, h, .refl directory h, by simp only [write, encoded]; rfl⟩
  | some content =>
    cases stamped : (moment.getD h.clock).stamp? with
    | none =>
      refine .inl ⟨.dateRange, h, .refl directory h, ?_⟩
      simp [write, encoded, Act.on_bind, stamped]
    | some second =>
      rw [write_on directory encoded stamped]
      have searched := Host.idle_record (.searched directory) trivial directory h
      obtain ⟨e, failed⟩ | ⟨found, free, named, listed, among, done⟩ :=
        freeSequence_cases directory c.key second h
      · exact .inl ⟨e, _, searched, Act.on_bind_of_error h _ failed⟩
      · rw [Act.on_bind_of_ok h _ done]
        obtain ⟨e, h', idle, failed⟩ | ⟨n, h', low, high, quiet, created, made⟩ :=
          createFrom_cases directory c.key second content free (sequenceBound - free)
            (h.record (.searched directory))
        · exact .inl ⟨e, h', searched.trans idle, failed⟩
        · have part := EntryName.isPart_compose c n stamped
          rw [Path.name_join directory part] at made
          refine .inr ⟨_, h', ⟨searched.toQuiet.trans quiet, second, n, content, rfl, ?_⟩, made⟩
          exact ⟨named, stamped, by omega, encoded,
            h.files, found, free, .refl directory h.files, listed, among, low, created⟩

theorem scan_cases (directory : Path) (key : Text) (h : Host) :
    (∃ e, (scan directory key).on h = (.error e, h.record (.searched directory))) ∨
      ∃ found, h.files.list directory = .ok found ∧ (scan directory key).on h =
        (.ok (found.any fun entry => entry.1.startsWith key), h.record (.searched directory)) := by
  unfold scan
  rw [Act.on_bind, Act.search_on]
  by_cases nul : directory.hasNul = true
  · rw [if_pos nul]
    exact .inl ⟨_, rfl⟩
  · rw [if_neg nul]
    cases h.files.list directory with
    | error e => exact .inl ⟨_, rfl⟩
    | ok found => exact .inr ⟨found, rfl, rfl⟩

/-- With the lock held: puts the change into the queue if a name there starts with its key. -/
def writeBehind (directory : Path) (c : Change) (moment : Option Moment) : Act (Option Text) :=
  scan directory c.key >>= fun pending =>
    if pending = true then (write directory c moment >>= fun name => pure (some name)) else pure none

theorem writeBehind_cases (directory : Path) (c : Change) (moment : Option Moment) (h : Host) :
    (∃ e h', h.Idle directory h' ∧ (writeBehind directory c moment).on h = (.error e, h')) ∨
      (∃ h', h.Idle directory h' ∧ Clear directory c.key h.files ∧
        (writeBehind directory c moment).on h = (.ok none, h')) ∨
      ∃ name h', Written directory c moment h name h' ∧ Pending directory c.key h.files ∧
        (writeBehind directory c moment).on h = (.ok (some name), h') := by
  unfold writeBehind
  have searched := Host.idle_record (.searched directory) trivial directory h
  obtain ⟨e, failed⟩ | ⟨found, listed, scanned⟩ := scan_cases directory c.key h
  · exact .inl ⟨e, _, searched, Act.on_bind_of_error h _ failed⟩
  · rw [Act.on_bind_of_ok h _ scanned]
    cases pending : found.any fun entry => entry.1.startsWith c.key with
    | false =>
      rw [List.any_eq_false] at pending
      have clear : Clear directory c.key h.files := by
        refine ⟨h.files, found, .refl directory h.files, listed, ?_⟩
        intro entry inside
        simpa using pending entry inside
      exact .inr (.inl ⟨_, searched, clear, rfl⟩)
    | true =>
      obtain ⟨entry, inside, starts⟩ := List.any_eq_true.1 pending
      have pending : Pending directory c.key h.files :=
        ⟨h.files, found, .refl directory h.files, listed, entry, inside, starts⟩
      rw [if_pos rfl]
      obtain ⟨e, h', idle, failed⟩ | ⟨name, h', written, done⟩ :=
        write_cases directory c moment (h.record (.searched directory))
      · exact .inl ⟨e, h', searched.trans idle, Act.on_bind_of_error _ _ failed⟩
      · exact .inr (.inr ⟨name, h', written.before searched, pending,
          Act.on_bind_of_ok _ _ done⟩)

/-! ## Operations -/

theorem enqueue_configured (directory : Path) (c : Change) (moment : Option Moment) :
    enqueue ⟨some directory⟩ c moment = withLock directory (write directory c moment) >>= fun name =>
      (do
        Act.log .info ("Queued " ++ c.operation.word.cited ++ " for " ++ c.account.cited)
        return name) := rfl

theorem enqueue_cases (directory : Path) (c : Change) (moment : Option Moment) (h : Host) :
    (∃ e h', h.Idle directory h' ∧ (enqueue ⟨some directory⟩ c moment).on h = (.error e, h')) ∨
      ∃ name h', Enqueued directory c moment h name h' ∧
        (enqueue ⟨some directory⟩ c moment).on h = (.ok name, h') := by
  rw [enqueue_configured]
  obtain ⟨e, h', idle, failed⟩ | ⟨l, files, nul, opened, free, done⟩ :=
    withLock_cases directory (write directory c moment) h
  · exact .inl ⟨e, h', idle, Act.on_bind_of_error h _ failed⟩
  · obtain ⟨e, h', idle, failed⟩ | ⟨name, h', written, ended⟩ :=
      write_cases directory c moment (h.lock l files)
    · rw [failed] at done
      exact .inl ⟨e, _, idle.unlock free (.inr ⟨l, opened⟩), Act.on_bind_of_error h _ done⟩
    · rw [ended] at done
      have logged := (written.enqueued nul opened free).record
        (.logged .info ("Queued " ++ c.operation.word.cited ++ " for " ++ c.account.cited)) trivial
      exact .inr ⟨name, _, logged, Act.on_bind_of_ok h _ done⟩

theorem enqueueBehind_configured (directory : Path) (c : Change) (moment : Option Moment) :
    enqueueBehind ⟨some directory⟩ c moment =
      (withLock directory (writeBehind directory c moment) >>= fun name =>
        if name.isSome = true then
          (do
            Act.log .info ("Queued " ++ c.operation.word.cited ++ " for " ++ c.account.cited
              ++ " behind pending change")
            return name)
        else pure name) := rfl

theorem enqueueBehind_cases (directory : Path) (c : Change) (moment : Option Moment) (h : Host) :
    (∃ e h', h.Idle directory h' ∧ (enqueueBehind ⟨some directory⟩ c moment).on h = (.error e, h')) ∨
      (∃ h', h.Idle directory h' ∧ Clear directory c.key h.files ∧
        (enqueueBehind ⟨some directory⟩ c moment).on h = (.ok none, h')) ∨
      ∃ name h', Enqueued directory c moment h name h' ∧ Pending directory c.key h.files ∧
        (enqueueBehind ⟨some directory⟩ c moment).on h = (.ok (some name), h') := by
  rw [enqueueBehind_configured]
  obtain ⟨e, h', idle, failed⟩ | ⟨l, files, nul, opened, free, done⟩ :=
    withLock_cases directory (writeBehind directory c moment) h
  · exact .inl ⟨e, h', idle, Act.on_bind_of_error h _ failed⟩
  · have made : h.files.LockMade directory files := .inr ⟨l, opened⟩
    obtain ⟨e, h', idle, failed⟩ | ⟨h', idle, clear, searched⟩ | ⟨name, h', written, pending, ended⟩ :=
      writeBehind_cases directory c moment (h.lock l files)
    · rw [failed] at done
      exact .inl ⟨e, _, idle.unlock free made, Act.on_bind_of_error h _ done⟩
    · rw [searched] at done
      refine .inr (.inl ⟨_, idle.unlock free made, clear.before made, ?_⟩)
      exact Act.on_bind_of_ok h _ done
    · rw [ended] at done
      have logged := (written.enqueued nul opened free).record (.logged .info ("Queued "
        ++ c.operation.word.cited ++ " for " ++ c.account.cited ++ " behind pending change")) trivial
      refine .inr (.inr ⟨name, _, logged, pending.before made, ?_⟩)
      exact Act.on_bind_of_ok h _ done

/-! ## The directory with the new entry -/

section Added

variable {p : Path} {l : Location} {c : Change} {time : Moment} {second : Text} {sequence : Nat}
  {content : Bytes} {before after : FileSystem}

theorem Added.set (added : Added p c time second sequence content before after)
    (leads : before.LeadsTo p l) :
    ∃ mid found free, before.LockMade p mid ∧ mid.list p = .ok found ∧
      sequenceAmong (c.key ++ second ++ "-") (found.map Prod.fst) = .ok free ∧ free ≤ sequence ∧
      p.Admits (EntryName.compose c.key second sequence) ∧
      mid.get? (l ++ [EntryName.compose c.key second sequence]) = none ∧
      after = mid.set (l ++ [EntryName.compose c.key second sequence]) (.file entryMode content) := by
  obtain ⟨mid, found, free, made, listed, among, low, created⟩ := added.made
  refine ⟨mid, found, free, made, listed, among, low, ?_⟩
  have part := EntryName.isPart_compose c sequence added.stamped
  obtain ⟨m, located, new, rfl⟩ := FileSystem.of_create created
  rw [(made.leadsTo leads).locate_join part] at located
  split at located
  · rename_i admitted
    cases located
    exact ⟨admitted, new, rfl⟩
  · cases located

theorem Added.exists_leadsTo (added : Added p c time second sequence content before after) :
    ∃ l, before.LeadsTo p l := by
  obtain ⟨mid, found, free, made, listed, -⟩ := added.made
  obtain ⟨l, leads⟩ := FileSystem.leadsTo_of_list listed
  exact ⟨l, made.leadsTo_before leads⟩

theorem Added.leadsTo (added : Added p c time second sequence content before after)
    (leads : before.LeadsTo p l) : after.LeadsTo p l := by
  obtain ⟨mid, _, _, made, -, -, -, -, new, rfl⟩ := added.set leads
  exact (made.leadsTo leads).set (by simp [new]) _

theorem Added.admitted (added : Added p c time second sequence content before after)
    (leads : before.LeadsTo p l) : p.Admits (EntryName.compose c.key second sequence) := by
  obtain ⟨_, _, _, -, -, -, -, admitted, -, -⟩ := added.set leads
  exact admitted

theorem Added.get?_self (added : Added p c time second sequence content before after)
    (leads : before.LeadsTo p l) :
    before.get? (l ++ [EntryName.compose c.key second sequence]) = none ∧
      after.get? (l ++ [EntryName.compose c.key second sequence]) =
        some (.file entryMode content) := by
  obtain ⟨mid, _, _, made, -, -, -, -, new, rfl⟩ := added.set leads
  have other : l ++ [EntryName.compose c.key second sequence] ≠ l ++ [QueueLock.fileName] :=
    fun same => EntryName.compose_ne_lock c second sequence (FileSystem.below_injective same)
  rw [made.get?_of_ne leads other] at new
  exact ⟨new, FileSystem.get?_set_self mid _ (FileSystem.below_ne_nil l _)⟩

theorem Added.get?_of_ne (added : Added p c time second sequence content before after)
    (leads : before.LeadsTo p l) {name : Text} (lock : name ≠ QueueLock.fileName)
    (other : name ≠ EntryName.compose c.key second sequence) :
    after.get? (l ++ [name]) = before.get? (l ++ [name]) := by
  obtain ⟨mid, _, _, made, -, -, -, -, -, rfl⟩ := added.set leads
  rw [FileSystem.get?_set_of_ne mid _ fun same => other (FileSystem.below_injective same)]
  exact made.get?_below leads lock

theorem Added.get?_directory (added : Added p c time second sequence content before after)
    (leads : before.LeadsTo p l) (m : Location) :
    after.get? m = some .directory ↔ before.get? m = some .directory := by
  obtain ⟨mid, _, _, made, -, -, -, -, new, rfl⟩ := added.set leads
  rw [← made.get?_directory m]
  by_cases here : m = l ++ [EntryName.compose c.key second sequence]
  · subst here
    rw [FileSystem.get?_set_self mid _ (FileSystem.below_ne_nil l _), new]
    exact ⟨nofun, nofun⟩
  · rw [FileSystem.get?_set_of_ne mid _ here]

/-- The sequence number of the new entry is above that of every name there. -/
theorem Added.above (added : Added p c time second sequence content before after)
    (leads : before.LeadsTo p l) {name : Text} (lock : name ≠ QueueLock.fileName) {node : Node}
    (held : before.get? (l ++ [name]) = some node) :
    ∃ next, sequenceAfter (c.key ++ second ++ "-") name = .ok next ∧ next ≤ sequence := by
  obtain ⟨mid, found, free, made, listed, among, low, -, -, -⟩ := added.set leads
  rw [(made.leadsTo leads).list] at listed
  cases listed
  rw [← made.get?_below leads lock] at held
  have inside : name ∈ (mid.entries l).map Prod.fst := by
    rw [FileSystem.name_mem_entries_iff, held]
    rfl
  obtain ⟨next, after, below⟩ := EntryName.sequenceAfter_le among inside
  exact ⟨next, after, Nat.le_trans below low⟩

theorem Clear.get?_eq_none {key : Text} (clear : Clear p key before) (leads : before.LeadsTo p l)
    {name : Text} (lock : name ≠ QueueLock.fileName) (starts : name.startsWith key = true) :
    before.get? (l ++ [name]) = none := by
  obtain ⟨mid, found, made, listed, none⟩ := clear
  rw [(made.leadsTo leads).list] at listed
  cases listed
  cases held : before.get? (l ++ [name]) with
  | none => rfl
  | some node =>
    rw [← made.get?_below leads lock] at held
    have absent := none _ ((FileSystem.mem_entries_iff mid l name node).2 held)
    rw [starts] at absent
    cases absent

end Added

end Queue

/-- A host with one directory, into which the changes have been put one after the other. -/
def Host.withEntries (name : Text) (clock : Moment) (changes : List Change) : Host :=
  changes.foldl (fun h c => ((Queue.enqueue ⟨some ⟨[], [name]⟩⟩ c none).on h).2)
    (Host.withDirectory name clock)

end AccountRelay
