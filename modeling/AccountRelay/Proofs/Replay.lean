import AccountRelay.Replay
import AccountRelay.Proofs.Content
import AccountRelay.Proofs.Delivery
import AccountRelay.Proofs.Listing
/-!
# What a replay and a drain come to

A replay ends in one of seven ways, and only one of them removes the file. A drain is a chain of
replays: each name is skipped, replayed, kept as failed, found to be gone, or ends the drain. What
holds of every drain is proved along that chain.
-/

namespace AccountRelay

/-! ## A replay -/

def Entry.toCall (defaultRealm : Text) (e : Entry) : Except Failure Call :=
  match Principal.parse e.account defaultRealm with
  | .error f => .error (.parse (.account e.account f))
  | .ok principal => .ok ⟨principal.unparse, e.operation, e.password⟩

/-- The account of a call is the one that was written, in the default realm. -/
theorem Entry.toCall_of_account {defaultRealm : Text} {e : Entry} {who : Principal} {call : Call}
    (account : e.account = who.account) (asks : e.toCall defaultRealm = .ok call) :
    call = ⟨Principal.unparse ⟨who.components, defaultRealm⟩, e.operation, e.password⟩ := by
  rw [toCall, account, Principal.account_eq_name] at asks
  by_cases empty : who.components.headD [] = []
  · rw [Principal.parse_name_of_empty who defaultRealm empty] at asks
    cases asks
  · rw [Principal.parse_name who defaultRealm empty] at asks
    cases asks
    rfl

namespace Replay

/-- The file can be read, and holds an entry that asks for the call. -/
structure Ready (defaultRealm : Text) (file : Path) (h : Host) (entry : Entry) (call : Call) :
    Prop where
  named : file.hasNul = false
  read : ∃ bytes, h.files.read file = .ok bytes ∧ Entry.ofBytes file bytes = .ok entry
  asks : entry.toCall defaultRealm = .ok call

/-- What a replay may end with on a host, and the host after it. -/
inductive Ends (refusal : FileSystem.Refusal) (backend : Backend) (defaultRealm : Text)
    (file : Path) (h : Host) : Except Failure Entry → Host → Prop where
  | nul (named : file.hasNul = true) :
    Ends refusal backend defaultRealm file h (.error (.fault .nulInPath)) h
  | unread {e : OsError} (named : file.hasNul = false) (failed : h.files.read file = .error e) :
    Ends refusal backend defaultRealm file h (.error (.storage (.readEntry file e))) h
  | malformed {bytes : Bytes} {e : Failure} (named : file.hasNul = false)
    (read : h.files.read file = .ok bytes) (failed : Entry.ofBytes file bytes = .error e) :
    Ends refusal backend defaultRealm file h (.error e) h
  | nameless {bytes : Bytes} {entry : Entry} {e : Failure} (named : file.hasNul = false)
    (read : h.files.read file = .ok bytes) (holds : Entry.ofBytes file bytes = .ok entry)
    (failed : entry.toCall defaultRealm = .error e) :
    Ends refusal backend defaultRealm file h (.error e) h
  | refused {entry : Entry} {call : Call} {before after : Host} {e : Failure}
    (ready : Ready defaultRealm file h entry call) (still : h.Still before)
    (called : (backend.deliver call).on before = (.error e, after)) :
    Ends refusal backend defaultRealm file h (.error e) after
  | kept {entry : Entry} {call : Call} {before after : Host} {e : OsError}
    (ready : Ready defaultRealm file h entry call) (still : h.Still before)
    (called : (backend.deliver call).on before = (.ok (), after))
    (failed : after.files.unlink file refusal = .error e) :
    Ends refusal backend defaultRealm file h (.error (.storage (.unlinkEntry file.toText e))) after
  | replayed {entry : Entry} {call : Call} {before after h' : Host} {files : FileSystem}
    (ready : Ready defaultRealm file h entry call) (still : h.Still before)
    (called : (backend.deliver call).on before = (.ok (), after))
    (removed : after.files.unlink file refusal = .ok files)
    (rest : (after.withFiles files).Still h') :
    Ends refusal backend defaultRealm file h (.ok entry) h'

end Replay

def Entry.serve (refusal : FileSystem.Refusal) (backend : Backend) (defaultRealm : Text)
    (entry : Entry) : Act Entry :=
  match Principal.parse entry.account defaultRealm with
  | .error f => throw (.parse (.account entry.account f))
  | .ok principal => do
    let account := principal.unparse
    Act.log .info ("Replaying " ++ entry.operation.word.cited ++ " for " ++ account.cited ++ " ...")
    backend.deliver ⟨account, entry.operation, entry.password⟩
    Entry.remove entry.path refusal
    Act.log .info ("AD " ++ entry.operation.noun ++ " change for " ++ account.cited ++ " succeeded")
    return entry

theorem replay_eq (backend : Backend) (defaultRealm : Text) (file : Path)
    (refusal : FileSystem.Refusal) :
    replay backend defaultRealm file refusal =
      Entry.read file >>= Entry.serve refusal backend defaultRealm := rfl

theorem serve_ends {refusal : FileSystem.Refusal} {backend : Backend} {defaultRealm : Text}
    {file : Path} {h : Host} {bytes : Bytes} {entry : Entry} (named : file.hasNul = false)
    (read : h.files.read file = .ok bytes) (holds : Entry.ofBytes file bytes = .ok entry) :
    Replay.Ends refusal backend defaultRealm file h
      ((Entry.serve refusal backend defaultRealm entry).on h).1
      ((Entry.serve refusal backend defaultRealm entry).on h).2 := by
  obtain rfl := Entry.path_of_ofBytes holds
  unfold Entry.serve
  cases parsed : Principal.parse entry.account defaultRealm with
  | error f => exact .nameless named read holds (by rw [Entry.toCall, parsed])
  | ok principal =>
    have ready : Replay.Ready defaultRealm entry.path h entry
        ⟨principal.unparse, entry.operation, entry.password⟩ :=
      ⟨named, ⟨bytes, read, holds⟩, by rw [Entry.toCall, parsed]⟩
    rw [Act.on_bind_of_ok h _ (Act.on_log h _ _)]
    generalize logged : h.record _ = before
    have still : h.Still before := by
      subst logged
      exact Host.still_record (.logged .info _) trivial h
    cases called : (backend.deliver ⟨principal.unparse, entry.operation, entry.password⟩).on before with
    | mk result after =>
      cases result with
      | error e =>
        rw [Act.on_bind_of_error before _ called]
        exact .refused ready still called
      | ok =>
        rw [Act.on_bind_of_ok before _ called, Act.on_bind, Entry.remove, Act.unlink_on,
          if_neg (by simp [named])]
        cases removed : after.files.unlink entry.path refusal with
        | error e => exact .kept ready still called removed
        | ok files =>
          exact .replayed ready still called removed
            (Host.still_record (.logged .info _) trivial _)

theorem replay_ends (backend : Backend) (defaultRealm : Text) (file : Path)
    (refusal : FileSystem.Refusal) (h : Host) :
    Replay.Ends refusal backend defaultRealm file h
      ((replay backend defaultRealm file refusal).on h).1
      ((replay backend defaultRealm file refusal).on h).2 := by
  rw [replay_eq, Act.on_bind, Entry.read_on]
  by_cases nul : file.hasNul = true
  · simp only [if_pos nul]
    exact .nul nul
  · have named : file.hasNul = false := by simpa using nul
    simp only [if_neg nul]
    cases read : h.files.read file with
    | error e => exact .unread named read
    | ok bytes =>
      simp only
      cases holds : Entry.ofBytes file bytes with
      | error e => exact .malformed named read holds
      | ok entry =>
        exact serve_ends named read holds

theorem ends_of_replay {backend : Backend} {defaultRealm : Text} {file : Path} {h h' : Host}
    {result : Except Failure Entry} (done : (replay backend defaultRealm file).on h = (result, h')) :
    Replay.Ends .never backend defaultRealm file h result h' := by
  have ends := replay_ends backend defaultRealm file .never h
  rwa [done] at ends

/-- A replay calls the backend once if its file holds an entry that asks for a call, and otherwise not
at all. -/
theorem Replay.Ends.calls {refusal : FileSystem.Refusal} {backend : Backend} {defaultRealm : Text}
    {file : Path} {h h' : Host} {result : Except Failure Entry}
    (ends : Replay.Ends refusal backend defaultRealm file h result h') :
    (h'.journal.calls = h.journal.calls ∧
      ∀ entry call, ¬ Replay.Ready defaultRealm file h entry call) ∨
      ∃ entry call, Replay.Ready defaultRealm file h entry call ∧
        h'.journal.calls = h.journal.calls ++ [call] := by
  have one {entry : Entry} {call : Call} {before after : Host}
      (ready : Replay.Ready defaultRealm file h entry call) (still : h.Still before)
      (called : backend.Called call before after) :
      ∃ entry call, Replay.Ready defaultRealm file h entry call ∧
        after.journal.calls = h.journal.calls ++ [call] :=
    ⟨entry, call, ready, by rw [called.calls, still.calls]⟩
  cases ends with
  | nul nul =>
    refine .inl ⟨rfl, ?_⟩
    intro entry call ready
    cases ready.named.symm.trans nul
  | unread _ failed =>
    refine .inl ⟨rfl, ?_⟩
    intro entry call ready
    obtain ⟨bytes, read, -⟩ := ready.read
    cases failed.symm.trans read
  | malformed _ read failed =>
    refine .inl ⟨rfl, ?_⟩
    intro entry call ready
    obtain ⟨bytes, again, holds⟩ := ready.read
    cases read.symm.trans again
    cases failed.symm.trans holds
  | nameless _ read holds failed =>
    refine .inl ⟨rfl, ?_⟩
    intro entry call ready
    obtain ⟨bytes, again, holds'⟩ := ready.read
    cases read.symm.trans again
    cases holds.symm.trans holds'
    cases failed.symm.trans ready.asks
  | refused ready still called => exact .inr (one ready still (Backend.of_deliver_error called).2.1)
  | kept ready still called failed => exact .inr (one ready still (Backend.of_deliver_ok called).1)
  | replayed ready still called removed rest =>
    obtain ⟨entry, call, ready, made⟩ := one ready still (Backend.of_deliver_ok called).1
    exact .inr ⟨entry, call, ready, rest.calls.trans made⟩

/-- A replay that leaves no trace at all has found nothing to ask for. -/
theorem Replay.Ends.unready {refusal : FileSystem.Refusal} {backend : Backend} {defaultRealm : Text}
    {file : Path} {h : Host} {result : Except Failure Entry}
    (ends : Replay.Ends refusal backend defaultRealm file h result h)
    (entry : Entry) (call : Call) : ¬ Replay.Ready defaultRealm file h entry call := by
  obtain ⟨-, unready⟩ | ⟨-, other, -, calls⟩ := ends.calls
  · exact unready entry call
  · exact absurd (List.self_eq_append_right.1 calls) (List.cons_ne_nil other [])

theorem Entry.kind_of_toCall {defaultRealm : Text} {entry : Entry} {e : Failure}
    (failed : entry.toCall defaultRealm = .error e) : e.kind = .parse := by
  unfold toCall at failed
  split at failed
  · cases failed
    rfl
  · cases failed

/-! ## A replay in a directory that the backend spares -/

/-- The file is gone and its change delivered. All else in the directory is as it was. -/
structure Host.Removed (p : Path) (l : Location) (name : Text) (call : Call) (h h' : Host) : Prop where
  clock : h'.clock = h.clock
  locked : ∀ m ∈ h'.locked, m ∈ h.locked
  deliveries : h'.journal.deliveries = h.journal.deliveries ++ [call]
  leads : h'.files.LeadsTo p l
  gone : h'.files.get? (l ++ [name]) = none
  held : ∀ other, other ≠ name → h'.files.get? (l ++ [other]) = h.files.get? (l ++ [other])

section Replay

variable {backend : Backend} {defaultRealm : Text} {p : Path} {l : Location} {name : Text}
  {h h' : Host}

theorem FileSystem.LeadsTo.of_read_join {fs : FileSystem} {bytes : Bytes} (leads : fs.LeadsTo p l)
    (part : name.IsPart) (read : fs.read (p.join name) = .ok bytes) :
    p.Admits name ∧ ∃ mode, fs.get? (l ++ [name]) = some (.file mode bytes) := by
  rw [leads.read_join part] at read
  split at read
  · rename_i admitted
    refine ⟨admitted, ?_⟩
    cases held : fs.get? (l ++ [name]) with
    | none =>
      rw [held] at read
      cases read
    | some node =>
      cases node with
      | directory =>
        rw [held] at read
        cases read
      | file mode content =>
        rw [held] at read
        cases read
        exact ⟨mode, rfl⟩
  · cases read

theorem Replay.Ready.unlink (spares : backend.Spares p) (leads : h.files.LeadsTo p l)
    (part : name.IsPart) {entry : Entry} {call : Call} {before after : Host}
    (ready : Replay.Ready defaultRealm (p.join name) h entry call) (still : h.Still before)
    (called : backend.Called call before after) :
    after.files.unlink (p.join name) = .ok (after.files.erase (l ++ [name])) ∧
      ∃ mode content, after.files.get? (l ++ [name]) = some (.file mode content) := by
  obtain ⟨bytes, read, -⟩ := ready.read
  obtain ⟨admitted, mode, held⟩ := leads.of_read_join part read
  have leads' : before.files.LeadsTo p l := by
    rw [still.files]
    exact leads
  have held' : after.files.get? (l ++ [name]) = some (.file mode bytes) := by
    rw [called.get?_below spares leads' name, still.files]
    exact held
  refine ⟨?_, mode, bytes, held'⟩
  rw [(called.leadsTo spares leads').unlink_join part, if_pos admitted, held']

theorem Replay.Ends.unmoved (spares : backend.Spares p) (leads : h.files.LeadsTo p l)
    (part : name.IsPart) {e : Failure}
    (ends : Replay.Ends .never backend defaultRealm (p.join name) h (.error e) h') : h.Unmoved p l h' := by
  have here : h.Unmoved p l h := ((Host.Idle.refl p h).unmoved leads)
  cases ends with
  | nul => exact here
  | unread => exact here
  | malformed => exact here
  | nameless => exact here
  | refused ready still called =>
    have first := (still.idle p).unmoved leads
    obtain ⟨-, made, deliveries⟩ := Backend.of_deliver_error called
    exact first.trans (made.unmoved spares first.leads deliveries)
  | kept ready still called failed =>
    obtain ⟨made, -⟩ := Backend.of_deliver_ok called
    rw [(ready.unlink spares leads part still made).1] at failed
    cases failed

theorem Replay.Ends.removed (spares : backend.Spares p) (leads : h.files.LeadsTo p l)
    (part : name.IsPart) {entry : Entry}
    (ends : Replay.Ends .never backend defaultRealm (p.join name) h (.ok entry) h') :
    ∃ call, Replay.Ready defaultRealm (p.join name) h entry call ∧ h.Removed p l name call h' := by
  cases ends with
  | @replayed _ call before after _ files ready still called removed rest =>
    refine ⟨call, ready, ?_⟩
    have first := (still.idle p).unmoved leads
    obtain ⟨made, deliveries⟩ := Backend.of_deliver_ok called
    obtain ⟨unlinked, mode, content, held⟩ := ready.unlink spares leads part still made
    rw [removed] at unlinked
    cases unlinked
    have file : after.files.get? (l ++ [name]) ≠ some .directory := by simp [held]
    refine ⟨?_, ?_, ?_, ?_, ?_, ?_⟩
    · exact rest.clock.trans (made.clock.trans still.clock)
    · intro m inside
      rw [rest.locked] at inside
      rw [← still.locked]
      exact made.locked m (List.mem_filter.1 inside).1
    · rw [rest.deliveries, ← still.deliveries]
      exact deliveries
    · rw [rest.files]
      exact (made.leadsTo spares first.leads).erase file
    · rw [rest.files]
      exact FileSystem.get?_erase_self after.files (FileSystem.below_ne_nil l name)
    · intro other different
      rw [rest.files]
      change (after.files.erase (l ++ [name])).get? (l ++ [other]) = _
      rw [FileSystem.get?_erase_of_ne after.files
        fun same => different (FileSystem.below_injective same),
        made.get?_below spares first.leads, still.files]

/-- A failure that counts as a vanished file, while the file is there, comes from the backend. -/
theorem Replay.Ends.refused_of_vanishes (spares : backend.Spares p) (leads : h.files.LeadsTo p l)
    (part : name.IsPart) (file : h.files.HasFile l name) {e : Failure} (kind : e.kind = .system)
    (gone : Drain.vanishes e = true)
    (ends : Replay.Ends .never backend defaultRealm (p.join name) h (.error e) h') :
    ∃ entry call before, Replay.Ready defaultRealm (p.join name) h entry call ∧ h.Still before ∧
      (backend.deliver call).on before = (.error e, h') := by
  obtain ⟨mode, content, held⟩ := file
  cases ends with
  | nul => cases kind
  | unread named failed =>
    rw [leads.read_join part, held] at failed
    split at failed
    · cases failed
    · cases failed
      cases gone
  | malformed named read failed =>
    obtain ⟨parse, -⟩ | ⟨validation, -⟩ := Entry.of_ofBytes_error failed
    · rw [parse] at kind
      cases kind
    · rw [validation] at kind
      cases kind
  | nameless named read holds failed =>
    rw [Entry.kind_of_toCall failed] at kind
    cases kind
  | refused ready still called => exact ⟨_, _, _, ready, still, called⟩
  | kept ready still called failed =>
    rw [(ready.unlink spares leads part still (Backend.of_deliver_ok called).1).1] at failed
    cases failed

theorem Replay.Ends.not_hasFile (spares : backend.Spares p) (refuses : backend.OnlyRefuses)
    (leads : h.files.LeadsTo p l) (part : name.IsPart) {e : Failure} (kind : e.kind = .system)
    (gone : Drain.vanishes e = true)
    (ends : Replay.Ends .never backend defaultRealm (p.join name) h (.error e) h') :
    ¬ h.files.HasFile l name := by
  intro file
  obtain ⟨entry, call, before, -, -, called⟩ :=
    ends.refused_of_vanishes spares leads part file kind gone
  rw [refuses _ _ _ (Backend.of_deliver_error called).1] at kind
  cases kind

end Replay

/-! ## A drain -/

namespace Drain

/-- What going through the names may end with, from a set of blocked keys and what has been listed so
far. -/
inductive Ends (backend : Backend) (defaultRealm : Text) (p : Path) :
    List Text → Drained → List Text → Host → Except Failure Drained → Host → Prop where
  | nil {blocked : List Text} {r : Drained} {h : Host} :
    Ends backend defaultRealm p blocked r [] h (.ok r) h
  | skipped {blocked : List Text} {r : Drained} {name : Text} {rest : List Text} {h h₁ h' : Host}
    {result : Except Failure Drained} (behind : keyOrName name ∈ blocked) (still : h.Still h₁)
    (after : Ends backend defaultRealm p blocked { r with skipped := r.skipped ++ [name] } rest h₁
      result h') : Ends backend defaultRealm p blocked r (name :: rest) h result h'
  | replayed {blocked : List Text} {r : Drained} {name : Text} {rest : List Text} {h h₁ h' : Host}
    {entry : Entry} {result : Except Failure Drained} (free : keyOrName name ∉ blocked)
    (done : (replay backend defaultRealm (p.join name)).on h = (.ok entry, h₁))
    (after : Ends backend defaultRealm p blocked { r with replayed := r.replayed ++ [name] } rest h₁
      result h') : Ends backend defaultRealm p blocked r (name :: rest) h result h'
  | failed {blocked : List Text} {r : Drained} {name : Text} {rest : List Text} {h h₁ h₂ h' : Host}
    {e : Failure} {result : Except Failure Drained} (free : keyOrName name ∉ blocked)
    (done : (replay backend defaultRealm (p.join name)).on h = (.error e, h₁))
    (kind : e.kind = .delivery ∨ e.kind = .parse) (still : h₁.Still h₂)
    (after : Ends backend defaultRealm p (keyOrName name :: blocked)
      { r with failed := r.failed ++ [name] } rest h₂ result h') :
    Ends backend defaultRealm p blocked r (name :: rest) h result h'
  | vanished {blocked : List Text} {r : Drained} {name : Text} {rest : List Text}
    {h h₁ h₂ h' : Host} {e : Failure} {result : Except Failure Drained}
    (free : keyOrName name ∉ blocked)
    (done : (replay backend defaultRealm (p.join name)).on h = (.error e, h₁))
    (kind : e.kind = .system) (gone : vanishes e = true) (still : h₁.Still h₂)
    (after : Ends backend defaultRealm p blocked r rest h₂ result h') :
    Ends backend defaultRealm p blocked r (name :: rest) h result h'
  | aborted {blocked : List Text} {r : Drained} {name : Text} {rest : List Text} {h h' : Host}
    {e : Failure} (free : keyOrName name ∉ blocked)
    (done : (replay backend defaultRealm (p.join name)).on h = (.error e, h'))
    (other : e.kind ≠ .delivery ∧ e.kind ≠ .parse ∧ (e.kind = .system → vanishes e = false)) :
    Ends backend defaultRealm p blocked r (name :: rest) h (.error e) h'

theorem outcome_cases (e : Failure) :
    ((e.kind = .delivery ∨ e.kind = .parse) ∧ outcome (α := Entry) (.error e) = .failed e) ∨
      (e.kind = .system ∧ vanishes e = true ∧ outcome (α := Entry) (.error e) = .vanished) ∨
      (e.kind ≠ .delivery ∧ e.kind ≠ .parse ∧ (e.kind = .system → vanishes e = false)) ∧
        outcome (α := Entry) (.error e) = .aborted e := by
  unfold outcome
  simp only
  cases kind : e.kind <;> simp

section Run

variable {backend : Backend} {defaultRealm : Text} {p : Path} {blocked : List Text} {r : Drained}
  {name : Text}

theorem run_of_blocked (behind : keyOrName name ∈ blocked) (rest : List Text) (h : Host) :
    (run backend defaultRealm ⟨some p⟩ blocked r (name :: rest)).on h =
      (run backend defaultRealm ⟨some p⟩ blocked { r with skipped := r.skipped ++ [name] } rest).on
        (h.record (.logged .info "Skipping, earlier change pending")) := by
  rw [run]
  simp only [if_pos behind]
  rfl

/-- A name whose key is free is replayed, and the outcome decides how the drain goes on. -/
theorem run_of_free {h h₁ : Host} {result : Except Failure Entry}
    (free : keyOrName name ∉ blocked)
    (done : (replay backend defaultRealm (p.join name)).on h = (result, h₁)) (rest : List Text) :
    (run backend defaultRealm ⟨some p⟩ blocked r (name :: rest)).on h =
      match outcome result with
      | .replayed =>
        (run backend defaultRealm ⟨some p⟩ blocked { r with replayed := r.replayed ++ [name] }
          rest).on h₁
      | .failed e =>
        (run backend defaultRealm ⟨some p⟩ (keyOrName name :: blocked)
          { r with failed := r.failed ++ [name] } rest).on (h₁.record (.logged .error e.report))
      | .vanished =>
        (run backend defaultRealm ⟨some p⟩ blocked r rest).on
          (h₁.record (.logged .debug "Entry vanished"))
      | .aborted e => (.error e, h₁) := by
  have attempted : (Act.attempt (do
      replay backend defaultRealm (← Queue.path ⟨some p⟩ name))).on h = (.ok result, h₁) := by
    change (Except.ok ((replay backend defaultRealm (p.join name)).on h).1,
      ((replay backend defaultRealm (p.join name)).on h).2) = _
    rw [done]
  rw [run]
  simp only [if_neg free]
  rw [Act.on_bind_of_ok h _ attempted]
  cases outcome result <;> rfl

end Run

theorem run_ends (backend : Backend) (defaultRealm : Text) (p : Path) (blocked : List Text)
    (r : Drained) (names : List Text) (h : Host) :
    Ends backend defaultRealm p blocked r names h
      ((run backend defaultRealm ⟨some p⟩ blocked r names).on h).1
      ((run backend defaultRealm ⟨some p⟩ blocked r names).on h).2 := by
  induction names generalizing blocked r h with
  | nil => exact .nil
  | cons name rest ih =>
    by_cases behind : keyOrName name ∈ blocked
    · rw [run_of_blocked behind]
      exact .skipped behind (Host.still_record (.logged .info _) trivial h) (ih _ _ _)
    · cases done : (replay backend defaultRealm (p.join name)).on h with
      | mk result h₁ =>
        cases result with
        | ok entry =>
          rw [run_of_free behind done]
          exact .replayed behind done (ih _ _ _)
        | error e =>
          obtain ⟨kind, same⟩ | ⟨kind, gone, same⟩ | ⟨other, same⟩ := outcome_cases e
          · rw [run_of_free behind done, same]
            exact .failed behind done kind (Host.still_record (.logged .error _) trivial h₁) (ih _ _ _)
          · rw [run_of_free behind done, same]
            exact .vanished behind done kind gone
              (Host.still_record (.logged .debug _) trivial h₁) (ih _ _ _)
          · rw [run_of_free behind done, same]
            exact .aborted behind done other

theorem ends_of_run {backend : Backend} {defaultRealm : Text} {p : Path} {blocked names : List Text}
    {r : Drained} {h h' : Host} {result : Except Failure Drained}
    (done : (run backend defaultRealm ⟨some p⟩ blocked r names).on h = (result, h')) :
    Ends backend defaultRealm p blocked r names h result h' := by
  have ends := run_ends backend defaultRealm p blocked r names h
  rwa [done] at ends

end Drain

theorem drain_cases (backend : Backend) (defaultRealm : Text) (p : Path) (h : Host) :
    (∃ e h', h.Idle p h' ∧ (Queue.entries ⟨some p⟩).on h = (.error e, h') ∧
      (drain backend defaultRealm (some ⟨some p⟩)).on h = (.error e, h')) ∨
      ∃ found h₁ result h₂ h', h.Idle p h₁ ∧ h₁.files.list p = .ok found ∧
        (Queue.entries ⟨some p⟩).on h = (.ok (Queue.listed found), h₁) ∧
        Drain.Ends backend defaultRealm p [] ⟨[], [], []⟩ (Queue.listed found) h₁ result h₂ ∧
        h₂.Still h' ∧ (drain backend defaultRealm (some ⟨some p⟩)).on h = (result, h') := by
  unfold drain
  obtain ⟨e, h', idle, failed⟩ | ⟨found, h₁, idle, listed, done⟩ := Queue.entries_cases p h
  · exact .inl ⟨e, h', idle, failed, Act.on_bind_of_error h _ failed⟩
  · simp only
    rw [Act.on_bind_of_ok h _ done]
    have ends := Drain.run_ends backend defaultRealm p [] ⟨[], [], []⟩ (Queue.listed found) h₁
    cases chain : (Drain.run backend defaultRealm ⟨some p⟩ [] ⟨[], [], []⟩ (Queue.listed found)).on h₁ with
    | mk result h₂ =>
      rw [chain] at ends
      cases result with
      | error e =>
        exact .inr ⟨found, h₁, _, h₂, h₂, idle, listed, done, ends, .refl h₂,
          Act.on_bind_of_error h₁ _ chain⟩
      | ok r =>
        exact .inr ⟨found, h₁, _, h₂, _, idle, listed, done, ends,
          Host.still_record (.logged .info _) trivial h₂, Act.on_bind_of_ok h₁ _ chain⟩

/-! ## Relations that a drain keeps -/

section Keeps

variable {R : Host → Host → Prop} [Std.Refl R] [IsTrans Host R] {backend : Backend}
  {defaultRealm : Text} {h h' : Host}

omit [IsTrans Host R] in
theorem Entry.keeps_remove
    (removed : ∀ {h : Host} {file files}, h.files.unlink file = .ok files → R h (h.withFiles files))
    (file : Path) : (remove file).Keeps R := by
  intro h
  rw [remove, Act.unlink_on]
  by_cases nul : file.hasNul = true
  · rw [if_pos nul]
    exact Std.Refl.refl h
  · rw [if_neg nul]
    cases unlinked : h.files.unlink file with
    | error e => exact Std.Refl.refl h
    | ok files => exact removed unlinked

theorem Replay.Ends.keeps (still : ∀ {h h' : Host}, h.Still h' → R h h')
    (called : ∀ {call h h'}, backend.Called call h h' → R h h')
    (removed : ∀ {h : Host} {file files}, h.files.unlink file = .ok files → R h (h.withFiles files))
    {file : Path} {result : Except Failure Entry}
    (ends : Replay.Ends .never backend defaultRealm file h result h') : R h h' := by
  cases ends with
  | nul => exact Std.Refl.refl h
  | unread => exact Std.Refl.refl h
  | malformed => exact Std.Refl.refl h
  | nameless => exact Std.Refl.refl h
  | refused ready begun refused =>
    exact IsTrans.trans _ _ _ (still begun) (called (Backend.of_deliver_error refused).2.1)
  | kept ready begun accepted failed =>
    exact IsTrans.trans _ _ _ (still begun) (called (Backend.of_deliver_ok accepted).1)
  | replayed ready begun accepted unlinked rest =>
    have served := IsTrans.trans _ _ _ (still begun) (called (Backend.of_deliver_ok accepted).1)
    exact IsTrans.trans _ _ _ served (IsTrans.trans _ _ _ (removed unlinked) (still rest))

theorem Drain.Ends.keeps (still : ∀ {h h' : Host}, h.Still h' → R h h')
    (called : ∀ {call h h'}, backend.Called call h h' → R h h')
    (removed : ∀ {h : Host} {file files}, h.files.unlink file = .ok files → R h (h.withFiles files))
    {p : Path} {blocked names : List Text} {r : Drained} {result : Except Failure Drained}
    (ends : Drain.Ends backend defaultRealm p blocked r names h result h') : R h h' := by
  have replayed {name : Text} {h h' : Host} {result : Except Failure Entry}
      (done : (replay backend defaultRealm (p.join name)).on h = (result, h')) : R h h' :=
    (ends_of_replay done).keeps still called removed
  induction ends with
  | nil => exact Std.Refl.refl _
  | skipped behind begun after ih => exact IsTrans.trans _ _ _ (still begun) ih
  | replayed free done after ih => exact IsTrans.trans _ _ _ (replayed done) ih
  | failed free done kind rest after ih =>
    exact IsTrans.trans _ _ _ (replayed done) (IsTrans.trans _ _ _ (still rest) ih)
  | vanished free done kind gone rest after ih =>
    exact IsTrans.trans _ _ _ (replayed done) (IsTrans.trans _ _ _ (still rest) ih)
  | aborted free done other => exact replayed done

theorem keeps_drain {p : Path} (idle : ∀ {h h' : Host}, h.Idle p h' → R h h')
    (called : ∀ {call h h'}, backend.Called call h h' → R h h')
    (removed : ∀ {h : Host} {file files}, h.files.unlink file = .ok files → R h (h.withFiles files)) :
    (drain backend defaultRealm (some ⟨some p⟩)).Keeps R := by
  intro h
  obtain ⟨e, h', only, -, done⟩ | ⟨found, h₁, result, h₂, h', first, -, -, ends, last, done⟩ :=
    drain_cases backend defaultRealm p h
  · rw [done]
    exact idle only
  · rw [done]
    have chain : R h₁ h₂ := ends.keeps (fun still => idle (still.idle p)) called removed
    exact IsTrans.trans _ _ _ (idle first) (IsTrans.trans _ _ _ chain (idle (last.idle p)))

end Keeps

end AccountRelay
