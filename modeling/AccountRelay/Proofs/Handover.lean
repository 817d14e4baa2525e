import AccountRelay.Proofs.Entry
import AccountRelay.Proofs.Outcome
/-!
# What a replay hands to the backend

A replay reads its file before it does anything else, so the backend is only called for an entry that
can be read, with what the file says. The file is removed after the backend has accepted the call. The
system may refuse that for reasons of its own, which are free here. However a replay fails, all files
are as the backend left them.

The call of a password change lacks the password if its line in the file is empty.
-/

namespace AccountRelay

namespace Replay

/-- The file at the location holds the entry, whose account can be read and gives that of the call. -/
structure Asks (defaultRealm : Text) (file : Path) (fs : FileSystem) (l : Location) (entry : Entry)
    (call : Call) : Prop where
  named : file.hasNul = false
  located : fs.locate file = .ok l
  held : ∃ mode bytes, fs.get? l = some (.file mode bytes) ∧ entry.HeldBy bytes
  path : entry.path = file
  account : ∃ principal, Principal.parse entry.account defaultRealm = .ok principal ∧
    call = ⟨principal.unparse, entry.operation, entry.password⟩

/-- What a replay has done to the host, by its result. The backend sees all files as they were. -/
inductive Shows (refusal : FileSystem.Refusal) (backend : Backend) (defaultRealm : Text)
    (file : Path) (h h' : Host) : Except Failure Entry → Prop where
  | accepted {l : Location} {entry : Entry} {call : Call} {before : Host}
    (asks : Asks defaultRealm file h.files l entry call) (still : h.Still before)
    (answer : (backend call (before.record (.called call))).failure = none)
    (permitted : refusal h.files l = none) (served : h.Served [call] [call] h')
    (gone : h'.files.get? l = none) (others : ∀ m, m ≠ l → h'.files.get? m = h.files.get? m)
    (home : h'.files.home = h.files.home) : Shows refusal backend defaultRealm file h h' (.ok entry)
  | unremoved {l : Location} {entry : Entry} {call : Call} {before : Host} {e : OsError}
    (asks : Asks defaultRealm file h.files l entry call) (still : h.Still before)
    (answer : (backend call (before.record (.called call))).failure = none)
    (denied : refusal h.files l = some e) (served : h.Served [call] [call] h')
    (kept : h'.files = h.files) :
    Shows refusal backend defaultRealm file h h' (.error (.storage (.unlinkEntry file.toText e)))
  | refused {l : Location} {entry : Entry} {call : Call} {before : Host} {e : Failure}
    (asks : Asks defaultRealm file h.files l entry call) (still : h.Still before)
    (answer : (backend call (before.record (.called call))).failure = some e)
    (served : h.Served [call] [] h') (kept : h'.files = h.files) :
    Shows refusal backend defaultRealm file h h' (.error e)
  | failed {e : Failure} (unasked : ∀ l entry call, ¬ Asks defaultRealm file h.files l entry call)
    (served : h.Served [] [] h') (kept : h'.files = h.files) :
    Shows refusal backend defaultRealm file h h' (.error e)

variable {refusal : FileSystem.Refusal} {backend : Backend} {defaultRealm : Text} {file : Path}
  {h h' : Host} {entry : Entry} {call : Call}

theorem toCall_eq_ok_iff : entry.toCall defaultRealm = .ok call ↔
    ∃ principal, Principal.parse entry.account defaultRealm = .ok principal ∧
      call = ⟨principal.unparse, entry.operation, entry.password⟩ := by
  rw [Entry.toCall]
  cases Principal.parse entry.account defaultRealm with
  | error f => simp
  | ok principal => simp only [Except.ok.injEq, exists_eq_left', eq_comm]

theorem ready_iff_asks :
    Ready defaultRealm file h entry call ↔ ∃ l, Asks defaultRealm file h.files l entry call := by
  constructor
  · rintro ⟨named, ⟨bytes, read, holds⟩, asks⟩
    obtain ⟨l, mode, located, held⟩ := FileSystem.read_eq_ok_iff.1 read
    obtain ⟨path, heldBy⟩ := Entry.ofBytes_eq_ok_iff_heldBy.1 holds
    exact ⟨l, named, located, ⟨mode, bytes, held, heldBy⟩, path, toCall_eq_ok_iff.1 asks⟩
  · rintro ⟨l, named, located, ⟨mode, bytes, held, heldBy⟩, path, asks⟩
    have read := FileSystem.read_eq_ok_iff.2 ⟨l, mode, located, held⟩
    have holds := Entry.ofBytes_eq_ok_iff_heldBy.2 ⟨path, heldBy⟩
    exact ⟨named, ⟨bytes, read, holds⟩, toCall_eq_ok_iff.2 asks⟩

theorem Asks.unlink {l : Location} {fs : FileSystem} (asks : Asks defaultRealm file fs l entry call)
    (refusal : FileSystem.Refusal) :
    l ≠ [] ∧ fs.unlink file refusal = match refusal fs l with
      | some e => .error e
      | none => .ok (fs.erase l) := by
  obtain ⟨mode, bytes, held, -⟩ := asks.held
  have other : fs.get? l ≠ some .directory := by simp [held]
  exact ⟨FileSystem.ne_nil_of_get?_ne other, FileSystem.unlink_of_file refusal asks.located held⟩

theorem Ends.shows (harmless : backend.Harmless) {result : Except Failure Entry}
    (ends : Ends refusal backend defaultRealm file h result h') :
    Shows refusal backend defaultRealm file h h' result := by
  have failed {e : Failure} (ends : Ends refusal backend defaultRealm file h (.error e) h) :
      Shows refusal backend defaultRealm file h h (.error e) := by
    refine .failed ?_ (Host.Quiet.refl h).served rfl
    intro l entry call asks
    exact ends.unready entry call (ready_iff_asks.2 ⟨l, asks⟩)
  have files {call : Call} {before after : Host} (still : h.Still before)
      (called : backend.Called call before after) : after.files = h.files :=
    (called.files.trans (harmless _ _)).trans still.files
  cases ends with
  | nul nul => exact failed (.nul nul)
  | unread named unread => exact failed (.unread named unread)
  | malformed named read malformed => exact failed (.malformed named read malformed)
  | nameless named read holds nameless => exact failed (.nameless named read holds nameless)
  | refused ready still called =>
    obtain ⟨l, asks⟩ := ready_iff_asks.1 ready
    obtain ⟨answer, made, -⟩ := Backend.of_deliver_error called
    have served := Backend.served_of_error called still.toQuiet (Host.Quiet.refl h')
    exact .refused asks still answer served (files still made)
  | kept ready still called unremoved =>
    obtain ⟨l, asks⟩ := ready_iff_asks.1 ready
    obtain ⟨made, deliveries⟩ := Backend.of_deliver_ok called
    rw [files still made, (asks.unlink refusal).2] at unremoved
    have served := made.served deliveries still.toQuiet (Host.Quiet.refl h')
    cases denied : refusal h.files l with
    | none =>
      rw [denied] at unremoved
      cases unremoved
    | some e =>
      rw [denied] at unremoved
      cases unremoved
      exact .unremoved asks still (Backend.failure_of_deliver_ok called) denied served
        (files still made)
  | replayed ready still called removed rest =>
    obtain ⟨l, asks⟩ := ready_iff_asks.1 ready
    obtain ⟨below, unlinked⟩ := asks.unlink refusal
    obtain ⟨made, deliveries⟩ := Backend.of_deliver_ok called
    rw [files still made, unlinked] at removed
    cases permitted : refusal h.files l with
    | some e =>
      rw [permitted] at removed
      cases removed
    | none =>
      rw [permitted] at removed
      cases removed
      have served := made.served deliveries still.toQuiet (Host.Quiet.refl _)
      have after : h'.files = h.files.erase l := rest.files
      refine .accepted asks still (Backend.failure_of_deliver_ok called) permitted
        ⟨rest.calls.trans served.calls, rest.deliveries.trans served.deliveries⟩ ?_ ?_ ?_
      · rw [after]
        exact FileSystem.get?_erase_self h.files below
      · intro m other
        rw [after]
        exact FileSystem.get?_erase_of_ne h.files other
      · rw [after]
        rfl

end Replay

/-- The result of a replay tells whether the backend was called, what it answered, and that nothing
has changed but the file of an entry that it has accepted. That file is gone, unless the system has
refused to remove it. -/
theorem replay_shows {backend : Backend} (harmless : backend.Harmless) (defaultRealm : Text)
    (file : Path) (refusal : FileSystem.Refusal) (h : Host) :
    Replay.Shows refusal backend defaultRealm file h
      ((replay backend defaultRealm file refusal).on h).2
      ((replay backend defaultRealm file refusal).on h).1 :=
  (replay_ends backend defaultRealm file refusal h).shows harmless

/-- The entry of a change is replayed, and is left where it is if it may not be removed. -/
theorem replay_shows_accepted :
    let name := EntryName.compose "test-ad-enable-" "20240101T000000Z" 0
    let file : Path := ⟨[], ["queue", name]⟩
    let h := Host.withEntries "queue" .newYear [⟨⟨["test"], []⟩, .ad, .enable⟩]
    let entry : Entry := ⟨file, "test", .ad, .enable, none⟩
    let denied : FileSystem.Refusal := fun _ _ => some .accessDenied
    let problem : Failure := .storage (.unlinkEntry file.toText .accessDenied)
    Backend.accepting.Harmless ∧
      ((replay .accepting "EXAMPLE.COM" file).on h).1 = .ok entry ∧
      Replay.Shows .never .accepting "EXAMPLE.COM" file h
        ((replay .accepting "EXAMPLE.COM" file).on h).2 (.ok entry) ∧
      ((replay .accepting "EXAMPLE.COM" file denied).on h).1 = .error problem ∧
      Replay.Shows denied .accepting "EXAMPLE.COM" file h
        ((replay .accepting "EXAMPLE.COM" file denied).on h).2 (.error problem) := by
  intro name file h entry denied problem
  have harmless : Backend.accepting.Harmless := fun _ _ => rfl
  have result : ((replay .accepting "EXAMPLE.COM" file).on h).1 = .ok entry := by decide +kernel
  have failure : ((replay .accepting "EXAMPLE.COM" file denied).on h).1 = .error problem := by
    decide +kernel
  refine ⟨harmless, result, ?_, failure, ?_⟩
  · rw [← result]
    exact replay_shows harmless "EXAMPLE.COM" file .never h
  · rw [← failure]
    exact replay_shows harmless "EXAMPLE.COM" file denied h

/-! ## Passwords -/

namespace Replay

/-- The file is that of a password change on the account, with an empty line for the password. -/
structure Blank (defaultRealm : Text) (file : Path) (fs : FileSystem) (account : Text) : Prop where
  named : file.hasNul = false
  begins : ∃ l mode bytes text, fs.locate file = .ok l ∧ fs.get? l = some (.file mode bytes) ∧
    Entry.Front bytes text ∧ text.BeginsWith [account, "ad", "password", []]
  parses : ∃ principal, Principal.parse account defaultRealm = .ok principal

variable {defaultRealm : Text} {file : Path} {h : Host} {fs : FileSystem} {l : Location}
  {entry : Entry} {call : Call} {account : Text}

theorem Blank.asks (blank : Blank defaultRealm file fs account) :
    ∃ l call, Asks defaultRealm file fs l ⟨file, account, .ad, .password, none⟩ call := by
  obtain ⟨l, mode, bytes, text, located, held, front, begins⟩ := blank.begins
  obtain ⟨principal, parses⟩ := blank.parses
  have nonempty : account ≠ [] := by
    rintro rfl
    cases parses
  exact ⟨l, _, blank.named, located, ⟨mode, bytes, held, nonempty, nofun, text, front, begins⟩, rfl,
    principal, parses, rfl⟩

theorem Asks.blank (asks : Asks defaultRealm file fs l entry call)
    (operation : call.operation = .password) (none : call.password = none) :
    Blank defaultRealm file fs entry.account := by
  obtain ⟨principal, parses, rfl⟩ := asks.account
  obtain ⟨mode, bytes, held, -, -, text, front, begins⟩ := asks.held
  refine ⟨asks.named, ⟨l, mode, bytes, text, asks.located, held, front, ?_⟩, principal, parses⟩
  obtain ⟨path, account, ⟨⟩, _, _⟩ := entry
  obtain rfl : _ = Operation.password := operation
  obtain rfl : _ = Option.none := none
  exact begins

theorem Asks.password_eq_none (asks : Asks defaultRealm file fs l entry call)
    (other : call.operation ≠ .password) : call.password = none := by
  obtain ⟨principal, -, rfl⟩ := asks.account
  obtain ⟨mode, bytes, -, heldBy⟩ := asks.held
  exact heldBy.password_eq_none other

theorem Ready.unique {other : Entry} {call' : Call} (ready : Ready defaultRealm file h entry call)
    (again : Ready defaultRealm file h other call') : entry = other ∧ call = call' := by
  obtain ⟨bytes, read, holds⟩ := ready.read
  obtain ⟨bytes', read', holds'⟩ := again.read
  cases read.symm.trans read'
  cases holds.symm.trans holds'
  exact ⟨rfl, Except.ok.inj (ready.asks.symm.trans again.asks)⟩

end Replay

/-- A replay calls a backend with a password only to set one. It calls it to set none if and only if the
file has an empty line in the place of the password. -/
theorem replay_passwords (backend : Backend) (defaultRealm : Text) (file : Path) (h : Host) :
    ∃ made, ((replay backend defaultRealm file).on h).2.journal.calls = h.journal.calls ++ made ∧
      (∀ call ∈ made, call.operation ≠ .password → call.password = none) ∧
      ((∃ call ∈ made, call.operation = .password ∧ call.password = none) ↔
        ∃ account, Replay.Blank defaultRealm file h.files account) := by
  obtain ⟨calls, unready⟩ | ⟨entry, call, ready, calls⟩ :=
    (replay_ends backend defaultRealm file .never h).calls
  · refine ⟨[], calls.trans (List.append_nil _).symm, nofun, nofun, ?_⟩
    rintro ⟨account, blank⟩
    obtain ⟨l, call, asks⟩ := blank.asks
    exact absurd (Replay.ready_iff_asks.2 ⟨l, asks⟩) (unready _ call)
  · obtain ⟨l, asks⟩ := Replay.ready_iff_asks.1 ready
    refine ⟨[call], calls, ?_, ?_, ?_⟩
    · intro made inside other
      obtain rfl := List.mem_singleton.1 inside
      exact asks.password_eq_none other
    · rintro ⟨made, inside, operation, none⟩
      obtain rfl := List.mem_singleton.1 inside
      exact ⟨entry.account, asks.blank operation none⟩
    · rintro ⟨account, blank⟩
      obtain ⟨l', call', asks'⟩ := blank.asks
      obtain ⟨rfl, rfl⟩ := ready.unique (Replay.ready_iff_asks.2 ⟨l', asks'⟩)
      obtain ⟨principal, -, made⟩ := asks'.account
      refine ⟨call, List.mem_singleton_self _, ?_⟩
      rw [made]
      exact ⟨rfl, rfl⟩

/-- The password line of this file is empty, and the backend is called without a password. -/
theorem replay_calls_without_password :
    let file : Path := ⟨[], ["queue", "test-ad-password-20240101T000000Z-00"]⟩
    let files := (Host.withDirectory "queue" .newYear).files.set file.parts
      (.file 0o600 "test\nad\npassword\n\n".toUTF8.toList)
    let h := { Host.withDirectory "queue" .newYear with files := files }
    ((replay .accepting [] file).on h).2.journal.calls = [⟨"test", .password, none⟩] := by
  decide +kernel

end AccountRelay
