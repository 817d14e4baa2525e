import AccountRelay.Proofs.Replay
/-!
# Which files stop a drain

A file that is no valid entry fails and stays, and the drain goes on with the entries of other keys.
There are two exceptions, and both end the drain at once: a file whose account is empty but which is
in order otherwise, because that is found out only after the reading, and a file that cannot be
opened because its path is too long. So a drain of a directory returns if and only if each such file
is skipped, that is, if it stands behind a file of its key that is left.

When a drain returns, the files that are left determine what it returns: the ones that are gone were
replayed, and among those that are left the first of each key has failed and the others were skipped.
The backend has been called once for each entry that was not skipped, in the order of the names.
-/

namespace AccountRelay

/-- The names of the files in the directory are such as file systems have. -/
def FileSystem.Proper (fs : FileSystem) (l : Location) : Prop :=
  ∀ name, fs.HasFile l name → name.IsPart ∧ Symbol.char '\x00' ∉ name

namespace Drain

/-- The file cannot be opened, or is in order except that it has no account. -/
def Stops (fs : FileSystem) (p : Path) (l : Location) (name : Text) : Prop :=
  ¬ p.Admits name ∨ ∃ mode bytes entry, fs.get? (l ++ [name]) = some (.file mode bytes) ∧
    Entry.fields (p.join name) bytes = .ok entry ∧ entry.account = []

/-- What the file asks of a backend, if it can be opened and holds an entry whose account can be read
as a principal. -/
def call? (defaultRealm : Text) (fs : FileSystem) (p : Path) (l : Location) (name : Text) :
    Option Call :=
  if p.Admits name then
    match fs.get? (l ++ [name]) with
    | some (.file _ bytes) =>
      match Entry.ofBytes (p.join name) bytes with
      | .ok entry => (entry.toCall defaultRealm).toOption
      | .error _ => none
    | _ => none
  else none

/-- An earlier file of the same key is left. -/
def Behind (left : FileSystem) (l : Location) (names : List Text) (name : Text) : Prop :=
  ∃ earlier ∈ names, Text.Before earlier name ∧ keyOrName earlier = keyOrName name ∧
    left.HasFile l earlier

variable {defaultRealm : Text} {fs before after : FileSystem} {p : Path} {l : Location}
  {name n : Text} {names rest blocked : List Text}

theorem stops_congr (same : after.get? (l ++ [name]) = before.get? (l ++ [name])) :
    Stops after p l name ↔ Stops before p l name := by
  rw [Stops, Stops, same]

theorem call?_congr (same : after.get? (l ++ [name]) = before.get? (l ++ [name])) :
    call? defaultRealm after p l name = call? defaultRealm before p l name := by
  rw [call?, call?, same]

theorem not_stops {mode : Nat} {bytes : Bytes} (admitted : p.Admits name)
    (held : fs.get? (l ++ [name]) = some (.file mode bytes))
    (named : ∀ entry, Entry.fields (p.join name) bytes = .ok entry → entry.account ≠ []) :
    ¬ Stops fs p l name := by
  rintro (long | ⟨mode', bytes', entry, held', read, empty⟩)
  · exact long admitted
  · rw [held] at held'
    cases held'
    exact named entry read empty

/-! ## One replay -/

section Replay

variable {backend : Backend} {h h' : Host}

theorem not_stops_of_ready {entry : Entry} {call : Call} (leads : h.files.LeadsTo p l)
    (part : name.IsPart) (ready : Replay.Ready defaultRealm (p.join name) h entry call) :
    ¬ Stops h.files p l name := by
  obtain ⟨bytes, read, holds⟩ := ready.read
  obtain ⟨admitted, mode, held⟩ := leads.of_read_join part read
  apply not_stops admitted held
  intro other found
  obtain ⟨read', named⟩ := Entry.ofBytes_eq_ok_iff.1 holds
  rw [found] at read'
  cases read'
  exact named

theorem call?_of_ready {entry : Entry} {call : Call} (leads : h.files.LeadsTo p l)
    (part : name.IsPart) (ready : Replay.Ready defaultRealm (p.join name) h entry call) :
    call? defaultRealm h.files p l name = some call := by
  obtain ⟨bytes, read, holds⟩ := ready.read
  obtain ⟨admitted, mode, held⟩ := leads.of_read_join part read
  simp only [call?, if_pos admitted, held, holds, ready.asks]
  rfl

theorem call?_of_stops (stops : Stops fs p l name) : call? defaultRealm fs p l name = none := by
  obtain long | ⟨mode, bytes, entry, held, read, empty⟩ := stops
  · exact if_neg long
  · unfold call?
    split
    · cases holds : Entry.ofBytes (p.join name) bytes with
      | error e => simp only [held, holds]
      | ok other =>
        obtain ⟨read', named⟩ := Entry.ofBytes_eq_ok_iff.1 holds
        rw [read] at read'
        cases read'
        exact absurd empty named
    · rfl

/-- A replay of a file fails as a delivery or as malformed, unless the file is one that stops. -/
theorem stops_or_of_ends (spares : backend.Spares p) (refuses : backend.OnlyRefuses)
    (leads : h.files.LeadsTo p l) (part : name.IsPart) (named : (p.join name).hasNul = false)
    (file : h.files.HasFile l name) {e : Failure}
    (ends : Replay.Ends .never backend defaultRealm (p.join name) h (.error e) h') :
    (e.kind = .delivery ∨ e.kind = .parse) ∧ ¬ Stops h.files p l name ∨
      (e.kind = .validation ∨ e.kind = .system) ∧ Stops h.files p l name := by
  cases ends with
  | nul nul =>
    rw [named] at nul
    cases nul
  | unread _ failed =>
    obtain ⟨mode, bytes, held⟩ := file
    rw [leads.read_join part, held] at failed
    split at failed
    · cases failed
    · rename_i long
      exact .inr ⟨.inr rfl, .inl long⟩
  | malformed _ read failed =>
    obtain ⟨admitted, mode, held⟩ := leads.of_read_join part read
    obtain ⟨kind, malformed⟩ | ⟨kind, entry, found, empty⟩ := Entry.of_ofBytes_error failed
    · refine .inl ⟨.inr kind, not_stops admitted held ?_⟩
      intro entry found
      exact absurd found (malformed entry)
    · exact .inr ⟨.inl kind, .inr ⟨mode, _, entry, held, found, empty⟩⟩
  | nameless _ read holds failed =>
    obtain ⟨admitted, mode, held⟩ := leads.of_read_join part read
    refine .inl ⟨.inr (Entry.kind_of_toCall failed), not_stops admitted held ?_⟩
    intro entry found
    obtain ⟨read', named⟩ := Entry.ofBytes_eq_ok_iff.1 holds
    rw [found] at read'
    cases read'
    exact named
  | refused ready still called =>
    exact .inl ⟨.inl (refuses _ _ _ (Backend.of_deliver_error called).1),
      not_stops_of_ready leads part ready⟩
  | kept ready still called failed =>
    rw [(ready.unlink spares leads part still (Backend.of_deliver_ok called).1).1] at failed
    cases failed

theorem ready_of_call? {call : Call} (leads : h.files.LeadsTo p l) (part : name.IsPart)
    (named : (p.join name).hasNul = false)
    (asks : call? defaultRealm h.files p l name = some call) :
    ∃ entry, Replay.Ready defaultRealm (p.join name) h entry call := by
  unfold call? at asks
  split at asks
  · rename_i admitted
    cases held : h.files.get? (l ++ [name]) with
    | none => simp [held] at asks
    | some node =>
      cases node with
      | directory => simp [held] at asks
      | file mode bytes =>
        have read : h.files.read (p.join name) = .ok bytes := by
          rw [leads.read_join part, if_pos admitted, held]
        cases holds : Entry.ofBytes (p.join name) bytes with
        | error e => simp [held, holds] at asks
        | ok entry =>
          refine ⟨entry, named, ⟨bytes, read, holds⟩, ?_⟩
          simp only [held, holds] at asks
          cases asked : entry.toCall defaultRealm with
          | error e => simp [asked, Except.toOption] at asks
          | ok other =>
            rw [asked] at asks
            cases asks
            rfl
  · cases asks

theorem calls_of_ends (leads : h.files.LeadsTo p l) (part : name.IsPart)
    (named : (p.join name).hasNul = false) {result : Except Failure Entry}
    (ends : Replay.Ends .never backend defaultRealm (p.join name) h result h') :
    h'.journal.calls = h.journal.calls ++ (call? defaultRealm h.files p l name).toList := by
  obtain ⟨same, none⟩ | ⟨entry, call, ready, made⟩ := ends.calls
  · cases asks : call? defaultRealm h.files p l name with
    | none => rw [same, Option.toList_none, List.append_nil]
    | some call =>
      obtain ⟨entry, ready⟩ := ready_of_call? leads part named asks
      exact absurd ready (none entry call)
  · rw [made, call?_of_ready leads part ready]
    rfl

end Replay

/-! ## A chain of replays and what is left -/

/-- What comes of the names when nothing but a file that stops can end the drain, in terms of the
files before it and after it, and the calls that are made. -/
inductive Settles (defaultRealm : Text) (before after : FileSystem) (p : Path) (l : Location) :
    List Text → Drained → List Text → Except Failure Drained → List Call → Prop where
  | nil {blocked : List Text} {r : Drained} :
    Settles defaultRealm before after p l blocked r [] (.ok r) []
  | skipped {blocked rest : List Text} {r : Drained} {name : Text} {result : Except Failure Drained}
    {calls : List Call} (behind : keyOrName name ∈ blocked) (left : after.HasFile l name)
    (tail : Settles defaultRealm before after p l blocked { r with skipped := r.skipped ++ [name] }
      rest result calls) : Settles defaultRealm before after p l blocked r (name :: rest) result calls
  | replayed {blocked rest : List Text} {r : Drained} {name : Text}
    {result : Except Failure Drained} {calls : List Call} (free : keyOrName name ∉ blocked)
    (passes : ¬ Stops before p l name) (gone : ¬ after.HasFile l name)
    (tail : Settles defaultRealm before after p l blocked { r with replayed := r.replayed ++ [name] }
      rest result calls) :
    Settles defaultRealm before after p l blocked r (name :: rest) result
      ((call? defaultRealm before p l name).toList ++ calls)
  | failed {blocked rest : List Text} {r : Drained} {name : Text} {result : Except Failure Drained}
    {calls : List Call} (free : keyOrName name ∉ blocked) (passes : ¬ Stops before p l name)
    (left : after.HasFile l name)
    (tail : Settles defaultRealm before after p l (keyOrName name :: blocked)
      { r with failed := r.failed ++ [name] } rest result calls) :
    Settles defaultRealm before after p l blocked r (name :: rest) result
      ((call? defaultRealm before p l name).toList ++ calls)
  | stopped {blocked rest : List Text} {r : Drained} {name : Text} {e : Failure}
    (free : keyOrName name ∉ blocked) (stops : Stops before p l name) :
    Settles defaultRealm before after p l blocked r (name :: rest) (.error e) []

/-- A file is left as it was, unless it is one of the names and asks for a call. -/
def Kept (defaultRealm : Text) (before after : FileSystem) (p : Path) (l : Location)
    (names : List Text) : Prop :=
  ∀ name, name ≠ QueueLock.fileName → after.get? (l ++ [name]) = before.get? (l ++ [name]) ∨
    name ∈ names ∧ (call? defaultRealm before p l name).isSome ∧ after.get? (l ++ [name]) = none

theorem not_mem_of_sorted (sorted : (name :: rest).Pairwise Text.Before) : name ∉ rest :=
  fun inside => Text.Before.irrefl name (List.rel_of_pairwise_cons sorted inside)

/-- The names ahead of a drain are those of files that are still as they were. -/
structure Ahead (fs : FileSystem) (p : Path) (l : Location) (names : List Text) (h : Host) : Prop where
  leads : h.files.LeadsTo p l
  sorted : names.Pairwise Text.Before
  proper : ∀ n ∈ names, n.IsPart ∧ (p.join n).hasNul = false ∧ n ≠ QueueLock.fileName
  present : ∀ n ∈ names, fs.HasFile l n
  same : ∀ n ∈ names, h.files.get? (l ++ [n]) = fs.get? (l ++ [n])

section Ahead

variable {h h₁ : Host}

theorem Ahead.not_mem (ahead : Ahead fs p l (name :: rest) h) : name ∉ rest :=
  not_mem_of_sorted ahead.sorted

theorem Ahead.hasFile_of_mem (ahead : Ahead fs p l names h) (inside : name ∈ names) :
    h.files.HasFile l name :=
  (FileSystem.hasFile_congr (ahead.same name inside)).2 (ahead.present name inside)

theorem Ahead.hasFile (ahead : Ahead fs p l (name :: rest) h) : h.files.HasFile l name :=
  ahead.hasFile_of_mem List.mem_cons_self

theorem Ahead.calls {backend : Backend} {result : Except Failure Entry}
    (ahead : Ahead fs p l (name :: rest) h)
    (ends : Replay.Ends .never backend defaultRealm (p.join name) h result h₁) :
    h₁.journal.calls = h.journal.calls ++ (call? defaultRealm fs p l name).toList := by
  obtain ⟨part, named, -⟩ := ahead.proper name List.mem_cons_self
  rw [calls_of_ends ahead.leads part named ends,
    call?_congr (ahead.same name List.mem_cons_self)]

theorem Ahead.tail (ahead : Ahead fs p l (name :: rest) h) (leads : h₁.files.LeadsTo p l)
    (kept : ∀ n ∈ rest, h₁.files.get? (l ++ [n]) = h.files.get? (l ++ [n])) :
    Ahead fs p l rest h₁ where
  leads := leads
  sorted := ahead.sorted.of_cons
  proper n inside := ahead.proper n (List.mem_cons_of_mem name inside)
  present n inside := ahead.present n (List.mem_cons_of_mem name inside)
  same n inside := (kept n inside).trans (ahead.same n (List.mem_cons_of_mem name inside))

theorem Ahead.unmoved (ahead : Ahead fs p l (name :: rest) h) (unmoved : h.Unmoved p l h₁) :
    Ahead fs p l rest h₁ :=
  ahead.tail unmoved.leads fun n inside =>
    unmoved.held n (ahead.proper n (List.mem_cons_of_mem name inside)).2.2

theorem Ahead.unmoved_of_failed {backend : Backend} {h₂ : Host} {e : Failure}
    (ahead : Ahead fs p l (name :: rest) h) (spares : backend.Spares p)
    (done : (replay backend defaultRealm (p.join name)).on h = (.error e, h₁)) (still : h₁.Still h₂) :
    h.Unmoved p l h₂ := by
  obtain ⟨part, -, -⟩ := ahead.proper name List.mem_cons_self
  have first := (ends_of_replay done).unmoved spares ahead.leads part
  exact first.trans ((still.idle p).unmoved first.leads)

theorem Ahead.removed {call : Call} (ahead : Ahead fs p l (name :: rest) h)
    (removed : h.Removed p l name call h₁) : Ahead fs p l rest h₁ := by
  refine ahead.tail removed.leads fun n inside => removed.held n ?_
  rintro rfl
  exact ahead.not_mem inside

theorem Kept.unmoved (kept : Kept defaultRealm h₁.files after p l rest)
    (unmoved : h.Unmoved p l h₁) (wider : rest ⊆ names) :
    Kept defaultRealm h.files after p l names := by
  intro n lock
  obtain same | ⟨inside, valid, gone⟩ := kept n lock
  · exact .inl (same.trans (unmoved.held n lock))
  · exact .inr ⟨wider inside, call?_congr (unmoved.held n lock) ▸ valid, gone⟩

theorem Kept.removed {call : Call} (kept : Kept defaultRealm h₁.files after p l rest)
    (removed : h.Removed p l name call h₁) (valid : (call? defaultRealm h.files p l name).isSome) :
    Kept defaultRealm h.files after p l (name :: rest) := by
  intro n lock
  by_cases own : n = name
  · subst own
    obtain same | ⟨-, -, gone⟩ := kept n lock
    · exact .inr ⟨List.mem_cons_self, valid, same.trans removed.gone⟩
    · exact .inr ⟨List.mem_cons_self, valid, gone⟩
  · have held := removed.held n own
    obtain same | ⟨inside, valid, gone⟩ := kept n lock
    · exact .inl (same.trans held)
    · exact .inr ⟨List.mem_cons_of_mem name inside, call?_congr held ▸ valid, gone⟩

theorem Kept.hasFile (kept : Kept defaultRealm before after p l rest) (out : name ∉ rest)
    (lock : name ≠ QueueLock.fileName) (file : before.HasFile l name) : after.HasFile l name := by
  obtain same | ⟨inside, -⟩ := kept name lock
  · exact (FileSystem.hasFile_congr same).2 file
  · exact absurd inside out

theorem Ahead.left (ahead : Ahead fs p l (name :: rest) h) (unmoved : h.Unmoved p l h₁)
    (kept : Kept defaultRealm h₁.files after p l rest) : after.HasFile l name := by
  obtain ⟨-, -, lock⟩ := ahead.proper name List.mem_cons_self
  exact kept.hasFile ahead.not_mem lock
    ((FileSystem.hasFile_congr (unmoved.held name lock)).2 ahead.hasFile)

theorem Kept.not_hasFile (kept : Kept defaultRealm before after p l rest)
    (lock : name ≠ QueueLock.fileName) (gone : before.get? (l ++ [name]) = none) :
    ¬ after.HasFile l name := by
  rintro ⟨mode, bytes, held⟩
  obtain same | ⟨-, -, none⟩ := kept name lock
  · rw [same, gone] at held
    cases held
  · rw [none] at held
    cases held

end Ahead

section Ends

variable {backend : Backend} {r : Drained} {h h' : Host} {result : Except Failure Drained}

theorem Ends.kept (spares : backend.Spares p)
    (ends : Ends backend defaultRealm p blocked r names h result h')
    (ahead : Ahead fs p l names h) : Kept defaultRealm h.files h'.files p l names := by
  induction ends with
  | nil => exact fun _ _ => .inl rfl
  | @skipped blocked r name rest h h₁ h' result behind still after ih =>
    have unmoved := (still.idle p).unmoved ahead.leads
    exact (ih (ahead.unmoved unmoved)).unmoved unmoved (List.subset_cons_self name rest)
  | @replayed blocked r name rest h h₁ h' entry result free done after ih =>
    obtain ⟨part, -, -⟩ := ahead.proper name List.mem_cons_self
    obtain ⟨call, ready, removed⟩ := (ends_of_replay done).removed spares ahead.leads part
    apply (ih (ahead.removed removed)).removed removed
    rw [call?_of_ready ahead.leads part ready]
    rfl
  | @failed blocked r name rest h h₁ h₂ h' e result free done kind still after ih =>
    have unmoved := ahead.unmoved_of_failed spares done still
    exact (ih (ahead.unmoved unmoved)).unmoved unmoved (List.subset_cons_self name rest)
  | @vanished blocked r name rest h h₁ h₂ h' e result free done kind gone still after ih =>
    have unmoved := ahead.unmoved_of_failed spares done still
    exact (ih (ahead.unmoved unmoved)).unmoved unmoved (List.subset_cons_self name rest)
  | @aborted blocked r name rest h h' e free done other =>
    have same : Kept defaultRealm h'.files h'.files p l rest := fun _ _ => .inl rfl
    exact same.unmoved (ahead.unmoved_of_failed spares done (.refl h'))
      (List.subset_cons_self name rest)

/-- Only a file that stops ends the chain, if the backend does nothing but refuse. -/
theorem Ends.settles (spares : backend.Spares p) (refuses : backend.OnlyRefuses)
    (ends : Ends backend defaultRealm p blocked r names h result h')
    (ahead : Ahead fs p l names h) :
    ∃ calls, h'.journal.calls = h.journal.calls ++ calls ∧
      Settles defaultRealm fs h'.files p l blocked r names result calls := by
  -- The files ahead are as they were in the beginning, so each replay reads what stood there then.
  induction ends with
  | nil => exact ⟨[], (List.append_nil _).symm, .nil⟩
  | @skipped blocked r name rest h h₁ h' result behind still after ih =>
    have unmoved := (still.idle p).unmoved ahead.leads
    have tail := ahead.unmoved unmoved
    obtain ⟨calls, made, settles⟩ := ih tail
    rw [still.calls] at made
    exact ⟨calls, made, .skipped behind (ahead.left unmoved (after.kept spares tail)) settles⟩
  | @replayed blocked r name rest h h₁ h' entry result free done after ih =>
    obtain ⟨part, -, lock⟩ := ahead.proper name List.mem_cons_self
    have ends := ends_of_replay done
    obtain ⟨call, ready, removed⟩ := ends.removed spares ahead.leads part
    have tail := ahead.removed removed
    have passes := not_stops_of_ready ahead.leads part ready
    rw [stops_congr (ahead.same name List.mem_cons_self)] at passes
    have gone := (after.kept spares tail).not_hasFile lock removed.gone
    obtain ⟨calls, made, settles⟩ := ih tail
    refine ⟨_, ?_, .replayed free passes gone settles⟩
    rw [made, ahead.calls ends, List.append_assoc]
  | @failed blocked r name rest h h₁ h₂ h' e result free done kind still after ih =>
    obtain ⟨part, named, -⟩ := ahead.proper name List.mem_cons_self
    have ends := ends_of_replay done
    have unmoved := ahead.unmoved_of_failed spares done still
    have tail := ahead.unmoved unmoved
    obtain ⟨calls, made, settles⟩ := ih tail
    obtain ⟨-, passes⟩ | ⟨other, -⟩ :=
      stops_or_of_ends spares refuses ahead.leads part named ahead.hasFile ends
    · rw [stops_congr (ahead.same name List.mem_cons_self)] at passes
      refine ⟨_, ?_, .failed free passes (ahead.left unmoved (after.kept spares tail)) settles⟩
      rw [made, still.calls, ahead.calls ends, List.append_assoc]
    · obtain kind | kind := kind <;> rw [kind] at other <;> simp at other
  | @vanished blocked r name rest h h₁ h₂ h' e result free done kind gone still after ih =>
    obtain ⟨part, -, -⟩ := ahead.proper name List.mem_cons_self
    have absent := (ends_of_replay done).not_hasFile spares refuses ahead.leads part kind gone
    exact absurd ahead.hasFile absent
  | @aborted blocked r name rest h h' e free done other =>
    obtain ⟨part, named, -⟩ := ahead.proper name List.mem_cons_self
    have ends := ends_of_replay done
    obtain ⟨kind, -⟩ | ⟨-, stops⟩ :=
      stops_or_of_ends spares refuses ahead.leads part named ahead.hasFile ends
    · exact absurd kind (not_or.2 ⟨other.1, other.2.1⟩)
    · rw [stops_congr (ahead.same name List.mem_cons_self)] at stops
      refine ⟨[], ?_, .stopped free stops⟩
      rw [ahead.calls ends, call?_of_stops stops, Option.toList_none]

end Ends

/-! ## What a chain returns -/

/-- The name is to be skipped, from a set of blocked keys. -/
def Held (left : FileSystem) (l : Location) (blocked names : List Text) (name : Text) : Prop :=
  keyOrName name ∈ blocked ∨ Behind left l names name

theorem behind_cons : Behind after l (name :: rest) n ↔
    (Text.Before name n ∧ keyOrName name = keyOrName n ∧ after.HasFile l name) ∨
      Behind after l rest n := by
  simp only [Behind, List.mem_cons, or_and_right, exists_or, exists_eq_left]

theorem held_self (sorted : (name :: rest).Pairwise Text.Before) :
    Held after l blocked (name :: rest) name ↔ keyOrName name ∈ blocked := by
  refine or_iff_left ?_
  rintro ⟨earlier, inside, before, -⟩
  obtain rfl | later := List.mem_cons.1 inside
  · exact Text.Before.irrefl _ before
  · exact before.asymm (List.rel_of_pairwise_cons sorted later)

theorem held_cons_of_blocked (behind : keyOrName name ∈ blocked) :
    Held after l blocked (name :: rest) n ↔ Held after l blocked rest n := by
  rw [Held, Held, behind_cons]
  constructor
  · rintro (inside | ⟨-, same, -⟩ | later)
    · exact .inl inside
    · exact .inl (same ▸ behind)
    · exact .inr later
  · rintro (inside | later)
    · exact .inl inside
    · exact .inr (.inr later)

theorem held_cons_of_gone (gone : ¬ after.HasFile l name) :
    Held after l blocked (name :: rest) n ↔ Held after l blocked rest n := by
  rw [Held, Held, behind_cons]
  simp only [gone, and_false, false_or]

theorem held_cons_of_left (before : Text.Before name n) (left : after.HasFile l name) :
    Held after l blocked (name :: rest) n ↔ Held after l (keyOrName name :: blocked) rest n := by
  rw [Held, Held, behind_cons, List.mem_cons]
  simp only [before, left, true_and, and_true, eq_comm, or_assoc, or_left_comm]

variable {r r' : Drained} {result : Except Failure Drained} {calls : List Call}

theorem forall_stops_cons {blocked' : List Text}
    (first : Stops before p l name → Held after l blocked (name :: rest) name)
    (tail : ∀ n ∈ rest, Held after l blocked (name :: rest) n ↔ Held after l blocked' rest n) :
    (∀ n ∈ name :: rest, Stops before p l n → Held after l blocked (name :: rest) n) ↔
      ∀ n ∈ rest, Stops before p l n → Held after l blocked' rest n := by
  rw [List.forall_mem_cons]
  constructor
  · rintro ⟨-, all⟩ n inside stops
    exact (tail n inside).1 (all n inside stops)
  · intro all
    refine ⟨first, ?_⟩
    intro n inside stops
    exact (tail n inside).2 (all n inside stops)

/-- The chain returns if and only if each file that stops is skipped. -/
theorem Settles.returns_iff (settles : Settles defaultRealm before after p l blocked r names result calls)
    (sorted : names.Pairwise Text.Before) :
    (∃ r', result = .ok r') ↔
      ∀ n ∈ names, Stops before p l n → Held after l blocked names n := by
  -- A file that is left passes its key to the blocked ones, and these hold back what it would.
  induction settles with
  | nil =>
    constructor
    · intro _ n inside
      cases inside
    · intro _
      exact ⟨_, rfl⟩
  | skipped behind left tail ih =>
    rw [ih sorted.of_cons, forall_stops_cons fun _ => (held_self sorted).2 behind]
    intro n _
    exact held_cons_of_blocked behind
  | replayed free passes gone tail ih =>
    rw [ih sorted.of_cons, forall_stops_cons fun stops => absurd stops passes]
    intro n _
    exact held_cons_of_gone gone
  | failed free passes left tail ih =>
    rw [ih sorted.of_cons, forall_stops_cons fun stops => absurd stops passes]
    intro n inside
    exact held_cons_of_left (List.rel_of_pairwise_cons sorted inside) left
  | stopped free stops =>
    constructor
    · rintro ⟨r', same⟩
      cases same
    · intro all
      exact absurd ((held_self sorted).1 (all _ List.mem_cons_self stops)) free

structure Extends (after : FileSystem) (l : Location) (blocked names : List Text) (r r' : Drained)
    (n : Text) : Prop where
  replayed : n ∈ r'.replayed ↔ n ∈ r.replayed ∨ n ∈ names ∧ ¬ after.HasFile l n
  failed : n ∈ r'.failed ↔
    n ∈ r.failed ∨ n ∈ names ∧ after.HasFile l n ∧ ¬ Held after l blocked names n
  skipped : n ∈ r'.skipped ↔
    n ∈ r.skipped ∨ n ∈ names ∧ after.HasFile l n ∧ Held after l blocked names n

theorem Settles.extends (settles : Settles defaultRealm before after p l blocked r names result calls)
    (sorted : names.Pairwise Text.Before) (returned : result = .ok r') (n : Text) :
    Extends after l blocked names r r' n := by
  induction settles with
  | nil =>
    cases returned
    constructor <;> simp
  | @skipped blocked rest r name result calls behind left tail ih =>
    obtain ⟨replayed, failed, skipped⟩ := ih sorted.of_cons returned
    by_cases own : n = name
    · subst own
      have out := not_mem_of_sorted sorted
      have self := @held_self after l n rest blocked sorted
      constructor <;> simp [replayed, failed, skipped, out, self, behind, left]
    · have cons := @held_cons_of_blocked after l name n rest blocked behind
      constructor <;> simp [replayed, failed, skipped, own, cons]
  | @replayed blocked rest r name result calls free passes gone tail ih =>
    obtain ⟨replayed, failed, skipped⟩ := ih sorted.of_cons returned
    by_cases own : n = name
    · subst own
      have out := not_mem_of_sorted sorted
      constructor <;> simp [replayed, failed, skipped, out, gone]
    · have cons := @held_cons_of_gone after l name n rest blocked gone
      constructor <;> simp [replayed, failed, skipped, own, cons]
  | @failed blocked rest r name result calls free passes left tail ih =>
    obtain ⟨replayed, failed, skipped⟩ := ih sorted.of_cons returned
    by_cases own : n = name
    · subst own
      have out := not_mem_of_sorted sorted
      have self := @held_self after l n rest blocked sorted
      constructor <;> simp [replayed, failed, skipped, out, self, free, left]
    · by_cases inside : n ∈ rest
      · have cons := @held_cons_of_left after l name n rest blocked
          (List.rel_of_pairwise_cons sorted inside) left
        constructor <;> simp [replayed, failed, skipped, own, inside, cons]
      · constructor <;> simp [replayed, failed, skipped, own, inside]
  | stopped free stops => cases returned

theorem Settles.not_mem_skipped
    (tail : Settles defaultRealm before after p l blocked r rest result calls)
    (sorted : (name :: rest).Pairwise Text.Before) (returned : result = .ok r')
    (fresh : name ∉ r.skipped) : name ∉ r'.skipped := by
  rw [(tail.extends sorted.of_cons returned name).skipped]
  rintro (inside | ⟨inside, -⟩)
  · exact fresh inside
  · exact not_mem_of_sorted sorted inside

theorem filterMap_call?_cons {skipped : List Text} (told : name ∉ skipped) :
    ((name :: rest).filter fun n => n ∉ skipped).filterMap (call? defaultRealm before p l) =
      (call? defaultRealm before p l name).toList ++
        (rest.filter fun n => n ∉ skipped).filterMap (call? defaultRealm before p l) := by
  rw [List.filter_cons_of_pos (by simpa using told), List.filterMap_cons]
  cases call? defaultRealm before p l name <;> rfl

theorem Settles.calls_eq
    (settles : Settles defaultRealm before after p l blocked r names result calls)
    (sorted : names.Pairwise Text.Before) (returned : result = .ok r')
    (fresh : ∀ n ∈ names, n ∉ r.skipped) :
    calls = (names.filter fun n => n ∉ r'.skipped).filterMap (call? defaultRealm before p l) := by
  induction settles with
  | nil => rfl
  | @skipped blocked rest r name result calls behind left tail ih =>
    have out := not_mem_of_sorted sorted
    have told : name ∈ r'.skipped :=
      (tail.extends sorted.of_cons returned name).skipped.2 (.inl (by simp))
    rw [List.filter_cons_of_neg (by simpa using told)]
    apply ih sorted.of_cons returned
    intro n inside
    have other : n ≠ name := fun same => out (same ▸ inside)
    simp [fresh n (List.mem_cons_of_mem name inside), other]
  | @replayed blocked rest r name result calls free passes gone tail ih =>
    have told := tail.not_mem_skipped sorted returned (fresh name List.mem_cons_self)
    rw [filterMap_call?_cons told,
      ih sorted.of_cons returned fun n inside => fresh n (List.mem_cons_of_mem name inside)]
  | @failed blocked rest r name result calls free passes left tail ih =>
    have told := tail.not_mem_skipped sorted returned (fresh name List.mem_cons_self)
    rw [filterMap_call?_cons told,
      ih sorted.of_cons returned fun n inside => fresh n (List.mem_cons_of_mem name inside)]
  | stopped free stops => cases returned

/-- What a drain makes of the files with the names, and what it tells about them. -/
structure Report (defaultRealm : Text) (before after : Host) (p : Path) (l : Location)
    (names : List Text) (result : Except Failure Drained) : Prop where
  returns : (∃ r, result = .ok r) ↔
    ∀ name ∈ names, Stops before.files p l name → Behind after.files l names name
  called : ∀ r, result = .ok r → after.journal.calls = before.journal.calls ++
    (names.filter fun name => name ∉ r.skipped).filterMap (call? defaultRealm before.files p l)
  replayed : ∀ r, result = .ok r → ∀ name, name ∈ r.replayed ↔
    name ∈ names ∧ ¬ after.files.HasFile l name
  failed : ∀ r, result = .ok r → ∀ name, name ∈ r.failed ↔
    name ∈ names ∧ after.files.HasFile l name ∧ ¬ Behind after.files l names name
  skipped : ∀ r, result = .ok r → ∀ name, name ∈ r.skipped ↔
    name ∈ names ∧ after.files.HasFile l name ∧ Behind after.files l names name
  invalid : ∀ r, result = .ok r → ∀ name ∈ names,
    call? defaultRealm before.files p l name = none → name ∉ r.skipped → name ∈ r.failed
  kept : Kept defaultRealm before.files after.files p l names

theorem held_nil : Held after l [] names n ↔ Behind after l names n := by
  simp only [Held, List.not_mem_nil, false_or]

theorem Settles.report {h h' : Host}
    (settles : Settles defaultRealm h.files h'.files p l [] ⟨[], [], []⟩ names result calls)
    (made : h'.journal.calls = h.journal.calls ++ calls) (sorted : names.Pairwise Text.Before)
    (kept : Kept defaultRealm h.files h'.files p l names)
    (present : ∀ n ∈ names, n ≠ QueueLock.fileName ∧ h.files.HasFile l n) :
    Report defaultRealm h h' p l names result where
  returns := by simpa only [held_nil] using settles.returns_iff sorted
  called r returned := by
    rw [made, settles.calls_eq sorted returned fun _ _ => List.not_mem_nil]
  replayed r returned n := by simpa using (settles.extends sorted returned n).replayed
  failed r returned n := by simpa [held_nil] using (settles.extends sorted returned n).failed
  skipped r returned n := by simpa [held_nil] using (settles.extends sorted returned n).skipped
  invalid r returned n inside invalid := by
    obtain ⟨lock, file⟩ := present n inside
    obtain same | ⟨-, valid, -⟩ := kept n lock
    · have left := (FileSystem.hasFile_congr same).2 file
      have told := settles.extends sorted returned n
      simp [told.skipped, told.failed, inside, left]
    · rw [invalid] at valid
      cases valid
  kept := kept

theorem Ends.report {backend : Backend} {h h₁ h₂ h' : Host} (orderly : backend.Orderly p)
    (leads : h.files.LeadsTo p l) (idle : h.Idle p h₁) (ahead : Ahead h.files p l names h₁)
    (ends : Ends backend defaultRealm p [] ⟨[], [], []⟩ names h₁ result h₂) (still : h₂.Still h') :
    Report defaultRealm h h' p l names result := by
  have kept := ends.kept orderly.1 ahead
  obtain ⟨calls, made, settles⟩ := ends.settles orderly.1 orderly.2 ahead
  rw [idle.calls, ← still.calls] at made
  rw [← still.files] at settles kept
  apply settles.report made ahead.sorted
    (kept.unmoved (idle.unmoved leads) fun _ inside => inside)
  intro n inside
  exact ⟨(ahead.proper n inside).2.2, ahead.present n inside⟩

theorem ahead_of_lockable {h h₁ : Host} (lockable : h.Lockable p l) (proper : h.files.Proper l)
    (unmoved : h.Unmoved p l h₁) :
    Ahead h.files p l (h.files.named l EntryName.isListed) h₁ := by
  have present (n : Text) (inside : n ∈ h.files.named l EntryName.isListed) :
      n ≠ QueueLock.fileName ∧ h.files.HasFile l n := by
    obtain ⟨wanted, file⟩ := FileSystem.mem_named_iff.1 inside
    exact ⟨EntryName.ne_lock_of_isListed wanted, file⟩
  refine ⟨unmoved.leads, FileSystem.pairwise_named, fun n inside => ?_,
    fun n inside => (present n inside).2, fun n inside => unmoved.held n (present n inside).1⟩
  obtain ⟨lock, file⟩ := present n inside
  obtain ⟨part, nul⟩ := proper n file
  refine ⟨part, ?_, lock⟩
  rw [Path.hasNul_join p part, lockable.nul]
  simpa using nul

end Drain

/-- Where the lock cannot be taken a drain does nothing, and otherwise it goes through the files that
are listed. -/
theorem drain_chain (backend : Backend) (defaultRealm : Text) {p : Path} {l : Location} {h : Host}
    (leads : h.files.LeadsTo p l) (proper : h.files.Proper l) :
    (¬ h.Lockable p l ∧ ∃ e h', h.Idle p h' ∧
      (drain backend defaultRealm (some ⟨some p⟩)).on h = (.error e, h')) ∨
      h.Lockable p l ∧ ∃ h₁ result h₂ h', h.Idle p h₁ ∧
        (Queue.entries ⟨some p⟩).on h = (.ok (h.files.named l EntryName.isListed), h₁) ∧
        Drain.Ahead h.files p l (h.files.named l EntryName.isListed) h₁ ∧
        (Drain.run backend defaultRealm ⟨some p⟩ [] ⟨[], [], []⟩
          (h.files.named l EntryName.isListed)).on h₁ = (result, h₂) ∧
        h₂.Still h' ∧ (drain backend defaultRealm (some ⟨some p⟩)).on h = (result, h') := by
  by_cases lockable : h.Lockable p l
  · obtain ⟨h₁, idle, listed⟩ := Queue.entries_of_lockable lockable
    have ahead := Drain.ahead_of_lockable lockable proper (idle.unmoved leads)
    refine .inr ⟨lockable, h₁, ?_⟩
    unfold drain
    simp only
    rw [Act.on_bind_of_ok h _ listed]
    cases ran : (Drain.run backend defaultRealm ⟨some p⟩ [] ⟨[], [], []⟩
        (h.files.named l EntryName.isListed)).on h₁ with
    | mk result h₂ =>
      cases result with
      | error e =>
        exact ⟨_, h₂, h₂, idle, listed, ahead, rfl, .refl h₂, Act.on_bind_of_error h₁ _ ran⟩
      | ok r =>
        exact ⟨_, h₂, _, idle, listed, ahead, rfl,
          Host.still_record (.logged .info _) trivial h₂, Act.on_bind_of_ok h₁ _ ran⟩
  · obtain ⟨e, h', idle, -, done⟩ | ⟨found, h₁, -, -, -, -, -, listed, -⟩ :=
      drain_cases backend defaultRealm p h
    · exact .inl ⟨lockable, e, h', idle, done⟩
    · exact absurd (Queue.lockable_of_entries leads listed) lockable

/-- A drain returns unless it comes to a file that stops it. It skips what stands behind a file of its
key that is left, calls the backend for every other entry, and leaves all files but entries as they
were. -/
theorem drain_report {backend : Backend} {h : Host} {p : Path} {l : Location}
    (lockable : h.Lockable p l) (proper : h.files.Proper l) (orderly : backend.Orderly p)
    (defaultRealm : Text) :
    Drain.Report defaultRealm h ((drain backend defaultRealm (some ⟨some p⟩)).on h).2 p l
      (h.files.named l EntryName.isListed) ((drain backend defaultRealm (some ⟨some p⟩)).on h).1 := by
  obtain ⟨free, -⟩ | ⟨-, h₁, result, h₂, h', idle, -, ahead, ran, still, done⟩ :=
    drain_chain backend defaultRealm lockable.leads proper
  · exact absurd lockable free
  · rw [done]
    exact (Drain.ends_of_run ran).report orderly lockable.leads idle ahead still

/-- A file that would stop the drain is skipped behind one that cannot be read. -/
theorem drain_report_of_three :
    let p : Path := ⟨[], ["queue"]⟩
    let first : Text := "a-ad-enable-20240101T000000Z-00"
    let second : Text := "a-ad-enable-20240101T000000Z-01"
    let third : Text := "b-ad-enable-20240101T000000Z-00"
    let files := (((Host.withDirectory "queue" .newYear).files.set ["queue", first]
      (.file Queue.entryMode "a".toUTF8.toList)).set ["queue", second]
      (.file Queue.entryMode "\nad\nenable\n".toUTF8.toList)).set ["queue", third]
      (.file Queue.entryMode "b\nad\nenable\n".toUTF8.toList)
    let h : Host := ⟨files, [], .newYear, []⟩
    h.Lockable p ["queue"] ∧ h.files.Proper ["queue"] ∧ Backend.accepting.Orderly p ∧
      ((drain .accepting [] (some ⟨some p⟩)).on h).1 = .ok ⟨[third], [first], [second]⟩ ∧
      Drain.Report [] h ((drain .accepting [] (some ⟨some p⟩)).on h).2 p ["queue"]
        (h.files.named ["queue"] EntryName.isListed) ((drain .accepting [] (some ⟨some p⟩)).on h).1 := by
  intro p first second third files h
  have lockable : h.Lockable p ["queue"] :=
    ⟨⟨by decide +kernel, by decide +kernel⟩, by decide +kernel, by decide +kernel,
      by decide +kernel, by decide +kernel⟩
  have all : ∀ entry ∈ h.files.entries ["queue"], entry.1.IsPart ∧ Symbol.char '\x00' ∉ entry.1 := by
    decide +kernel
  have proper : h.files.Proper ["queue"] := fun name ⟨_, _, held⟩ =>
    all _ ((FileSystem.mem_entries_iff h.files ["queue"] name _).2 held)
  have orderly := Backend.orderly_accepting p
  exact ⟨lockable, proper, orderly, by decide +kernel, drain_report lockable proper orderly []⟩

/-- A file without an account ends the drain, and the entry of another user is not replayed. -/
theorem drain_ends_at_empty_account :
    let p : Path := ⟨[], ["queue"]⟩
    let first : Text := "a-ad-enable-20240101T000000Z-00"
    let second : Text := "b-ad-enable-20240101T000000Z-00"
    let files := ((Host.withDirectory "queue" .newYear).files.set ["queue", first]
      (.file Queue.entryMode "\nad\nenable\n".toUTF8.toList)).set ["queue", second]
      (.file Queue.entryMode "b\nad\nenable\n".toUTF8.toList)
    let h : Host := ⟨files, [], .newYear, []⟩
    ((drain .accepting [] (some ⟨some p⟩)).on h).1 =
        .error (.invalid [⟨[.field "account"], .notText⟩]) ∧
      ((drain .accepting [] (some ⟨some p⟩)).on h).2.journal.calls = [] := by
  decide +kernel

end AccountRelay
