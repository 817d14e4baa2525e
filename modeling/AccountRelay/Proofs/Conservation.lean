import AccountRelay.Proofs.Run
/-!
# No change is lost, delivered twice or overtaken

For each conflict key, the changes accepted in a run are at every time the ones delivered, in the
order of their delivery, followed by the ones in the queue, in the order of their names. So changes
of one key are delivered in the order in which they were accepted, each at most once, and the ones
that have not been delivered are in the queue.

A change is accepted by being delivered when nothing of its key is in the queue, or by getting a file
whose name comes after those of its key: its time is not before theirs, and in the same second its
sequence number is higher. A change leaves the queue by being delivered, and a drain comes to a file
only when those before it with its key are gone.
-/

namespace AccountRelay

/-! ## What is counted -/

namespace Call

/-- The call on the account without a realm, as queue files have it. -/
def bare (call : Call) : Call := { call with account := withoutRealm call.account }

/-- The conflict key of a call on an account without a realm. -/
def key (call : Call) : Text :=
  keyOf (call.account.replace (.char '/') (.char '.')) .ad call.operation.changeClass

end Call

theorem Change.key_call (c : Change) : c.call.key = c.key := rfl

def acceptedOf (accepted : List Change) (key : Text) : List (Option Call) :=
  (accepted.filter fun c => c.key = key).map fun c => some c.call

/-- The calls of a key that a backend has accepted, in the order of the calls. -/
def Journal.deliveredOf (j : Journal) (key : Text) : List (Option Call) :=
  ((j.deliveries.map Call.bare).filter fun call => call.key = key).map some

def EntryName.hasKey (key name : Text) : Bool := (EntryName.key? name).toOption = some key

namespace FileSystem

def content? (fs : FileSystem) (l : Location) (name : Text) : Option Bytes :=
  match fs.get? (l ++ [name]) with
  | some (.file _ content) => some content
  | _ => none

/-- What the files of a key hold, in the order of their names. -/
def storedOf (fs : FileSystem) (l : Location) (key : Text) : List (Option Call) :=
  (fs.named l (EntryName.hasKey key)).map fun name => (fs.content? l name).bind Call.ofBytes?

end FileSystem

/-! ## The invariant -/

/-- The node is the file of some change that was enqueued at none of the later moments. -/
def WrittenBefore (later : List Moment) (name : Text) (node : Node) : Prop :=
  ∃ c time second sequence content, Moment.Recent time ∧ time.stamp? = some second ∧
    (∀ m ∈ later, time.instant ≤ m.instant) ∧ sequence < sequenceBound ∧
    Queue.content? c = some content ∧ name = EntryName.compose c.key second sequence ∧
    node = .file Queue.entryMode content

/-- All files are those of changes, and for each key the accepted changes are the delivered and the
stored ones. -/
structure Conserved (p : Path) (l : Location) (later : List Moment) (h : Host)
    (accepted : List Change) : Prop where
  leads : h.files.LeadsTo p l
  written : ∀ name node, name ≠ QueueLock.fileName → h.files.get? (l ++ [name]) = some node →
    WrittenBefore later name node
  balanced : ∀ key, acceptedOf accepted key = h.journal.deliveredOf key ++ h.files.storedOf l key

variable {p : Path} {l : Location} {later : List Moment} {h h' : Host} {accepted : List Change}

theorem EntryName.hasKey_iff (key name : Text) : hasKey key name = true ↔ key? name = .ok key := by
  rw [hasKey, decide_eq_true_eq]
  cases key? name with
  | error f => exact ⟨nofun, nofun⟩
  | ok found =>
    constructor
    · intro same
      exact congrArg Except.ok (Option.some.inj same)
    · intro same
      exact congrArg some (Except.ok.inj same)

theorem EntryName.hasKey_compose (c : Change) {time : Moment} {second : Text} (sequence : Nat)
    (stamped : time.stamp? = some second) (key : Text) :
    hasKey key (compose c.key second sequence) = decide (c.key = key) := by
  rw [hasKey, key?_compose c sequence (hyphen_not_mem_stamp? stamped)]
  simp [Except.toOption]

theorem EntryName.hasKey_lock (key : Text) : hasKey key QueueLock.fileName = false := by
  rfl

theorem EntryName.ne_lock_of_hasKey {key name : Text} (wanted : hasKey key name = true) :
    name ≠ QueueLock.fileName := by
  rintro rfl
  rw [hasKey_lock] at wanted
  cases wanted

theorem FileSystem.content?_congr {before after : FileSystem} {name : Text}
    (same : after.get? (l ++ [name]) = before.get? (l ++ [name])) :
    after.content? l name = before.content? l name := by
  rw [content?, content?, same]

theorem FileSystem.map_content?_congr {before after : FileSystem} {names : List Text}
    (same : ∀ name ∈ names, after.content? l name = before.content? l name) :
    names.map (fun name => (after.content? l name).bind Call.ofBytes?) =
      names.map fun name => (before.content? l name).bind Call.ofBytes? := by
  apply List.map_congr_left
  intro name inside
  rw [same name inside]

theorem FileSystem.storedOf_congr {before after : FileSystem} {key : Text}
    (same : ∀ name, name ≠ QueueLock.fileName →
      after.get? (l ++ [name]) = before.get? (l ++ [name])) :
    after.storedOf l key = before.storedOf l key := by
  have names : after.named l (EntryName.hasKey key) = before.named l (EntryName.hasKey key) :=
    named_congr fun n wanted => hasFile_congr (same n (EntryName.ne_lock_of_hasKey wanted))
  rw [storedOf, storedOf, names]
  apply map_content?_congr
  intro name inside
  exact content?_congr (same name (EntryName.ne_lock_of_hasKey (mem_named_iff.1 inside).1))

theorem FileSystem.storedOf_eq_nil {fs : FileSystem} {key : Text}
    (none : ∀ name, EntryName.hasKey key name = true → ¬ fs.HasFile l name) :
    fs.storedOf l key = [] := by
  have names : fs.named l (EntryName.hasKey key) = [] := by
    rw [List.eq_nil_iff_forall_not_mem]
    intro name inside
    obtain ⟨wanted, file⟩ := mem_named_iff.1 inside
    exact none name wanted file
  rw [storedOf, names, List.map_nil]

theorem Journal.deliveredOf_congr {j k : Journal} (same : k.deliveries = j.deliveries) (key : Text) :
    k.deliveredOf key = j.deliveredOf key := by
  rw [deliveredOf, deliveredOf, same]

theorem Conserved.unmoved (conserved : Conserved p l later h accepted) (unmoved : h.Unmoved p l h') :
    Conserved p l later h' accepted where
  leads := unmoved.leads
  written name node other held := by
    rw [unmoved.held name other] at held
    exact conserved.written name node other held
  balanced key := by
    rw [Journal.deliveredOf_congr unmoved.deliveries, FileSystem.storedOf_congr unmoved.held]
    exact conserved.balanced key

/-! ## A new entry -/

section Enqueued

variable {c : Change} {time : Moment} {second : Text} {sequence : Nat} {content : Bytes}
  {after : FileSystem}

/-- The name of a new entry comes after the names of all entries with its key. -/
theorem Conserved.before_new (conserved : Conserved p l (time :: later) h accepted)
    (recent : time.Recent)
    (added : Queue.Added p c time second sequence content h.files after) {name : Text} {node : Node}
    (lock : name ≠ QueueLock.fileName) (held : h.files.get? (l ++ [name]) = some node)
    (same : EntryName.hasKey c.key name = true) :
    Text.Before name (EntryName.compose c.key second sequence) := by
  obtain ⟨c', time', second', sequence', content', recent', stamped, early, bound, -, rfl, -⟩ :=
    conserved.written name node lock held
  rw [EntryName.hasKey_compose c' sequence' stamped, decide_eq_true_eq] at same
  obtain rfl | earlier := Moment.stamp?_eq_or_before recent' recent
    (early time List.mem_cons_self) stamped added.stamped
  · obtain ⟨next, above, low⟩ := added.above conserved.leads lock held
    rw [← same, EntryName.sequenceAfter_compose _ _ bound] at above
    cases above
    rw [same]
    exact EntryName.compose_before_of_sequence c.key second' added.bound low
  · rw [same]
    have length := (Moment.length_stamp? recent' stamped).trans
      (Moment.length_stamp? recent added.stamped).symm
    exact EntryName.compose_before_of_second c.key sequence' sequence length earlier

theorem Conserved.storedOf_added (conserved : Conserved p l (time :: later) h accepted)
    (recent : time.Recent)
    (added : Queue.Added p c time second sequence content h.files after) (key : Text) :
    after.storedOf l key =
      h.files.storedOf l key ++ if c.key = key then [some c.call] else [] := by
  obtain ⟨new, here⟩ := added.get?_self conserved.leads
  have others (n : Text) (wanted : EntryName.hasKey key n = true)
      (other : n ≠ EntryName.compose c.key second sequence) :
      after.get? (l ++ [n]) = h.files.get? (l ++ [n]) :=
    added.get?_of_ne conserved.leads (EntryName.ne_lock_of_hasKey wanted) other
  have old : ∀ n ∈ h.files.named l (EntryName.hasKey key),
      after.content? l n = h.files.content? l n := by
    intro n inside
    obtain ⟨wanted, mode, bytes, held⟩ := FileSystem.mem_named_iff.1 inside
    apply FileSystem.content?_congr
    apply others n wanted
    rintro rfl
    rw [new] at held
    cases held
  have own := EntryName.hasKey_compose c sequence added.stamped key
  by_cases same : c.key = key
  · subst same
    rw [decide_eq_true rfl] at own
    have names : after.named l (EntryName.hasKey c.key) =
        h.files.named l (EntryName.hasKey c.key) ++ [EntryName.compose c.key second sequence] := by
      apply FileSystem.named_append own ⟨_, _, here⟩
      · intro n wanted file
        obtain ⟨mode, bytes, held⟩ := file
        exact conserved.before_new recent added (EntryName.ne_lock_of_hasKey wanted) held wanted
      · intro n wanted other
        exact FileSystem.hasFile_congr (others n wanted other)
    have held : after.content? l (EntryName.compose c.key second sequence) = some content := by
      rw [FileSystem.content?, here]
    rw [FileSystem.storedOf, names, List.map_append, if_pos rfl]
    congr 1
    · exact FileSystem.map_content?_congr old
    · simp [held, Call.ofBytes?_content added.encoded]
  · rw [decide_eq_false same] at own
    have names : after.named l (EntryName.hasKey key) = h.files.named l (EntryName.hasKey key) := by
      apply FileSystem.named_congr
      intro n wanted
      apply FileSystem.hasFile_congr
      apply others n wanted
      rintro rfl
      rw [own] at wanted
      cases wanted
    rw [FileSystem.storedOf, names, if_neg same, List.append_nil]
    exact FileSystem.map_content?_congr old

end Enqueued

theorem acceptedOf_append (accepted : List Change) (c : Change) (key : Text) :
    acceptedOf (accepted ++ [c]) key =
      acceptedOf accepted key ++ if c.key = key then [some c.call] else [] := by
  rw [acceptedOf, acceptedOf, List.filter_append, List.map_append]
  by_cases same : c.key = key <;> simp [same]

theorem Journal.deliveredOf_append {j k : Journal} {call : Call}
    (more : k.deliveries = j.deliveries ++ [call]) (key : Text) :
    k.deliveredOf key = j.deliveredOf key ++ if call.bare.key = key then [some call.bare] else [] := by
  rw [deliveredOf, deliveredOf, more, List.map_append, List.filter_append, List.map_append]
  by_cases same : call.bare.key = key <;> simp [same]

theorem Conserved.weaken {time : Moment} (conserved : Conserved p l (time :: later) h accepted) :
    Conserved p l later h accepted where
  leads := conserved.leads
  written name node lock held := by
    obtain ⟨c, time', second, sequence, content, recent, stamped, early, rest⟩ :=
      conserved.written name node lock held
    exact ⟨c, time', second, sequence, content, recent, stamped,
      fun m inside => early m (List.mem_cons_of_mem time inside), rest⟩
  balanced := conserved.balanced

theorem Conserved.enqueued {c : Change} {time : Moment} {name : Text} (moment : Option Moment)
    (conserved : Conserved p l (time :: later) h accepted) (recent : time.Recent)
    (ordered : ∀ m ∈ later, time.instant ≤ m.instant) (now : moment.getD h.clock = time)
    (enqueued : Queue.Enqueued p c moment h name h') :
    Conserved p l later h' (accepted ++ [c]) := by
  obtain ⟨⟨quiet, second, sequence, content, rfl, added⟩, -⟩ := enqueued
  rw [now] at added
  refine ⟨added.leadsTo conserved.leads, ?_, ?_⟩
  · intro n node lock held
    by_cases own : n = EntryName.compose c.key second sequence
    · subst own
      rw [(added.get?_self conserved.leads).2] at held
      cases held
      exact ⟨c, time, second, sequence, content, recent, added.stamped, ordered, added.bound,
        added.encoded, rfl, rfl⟩
    · rw [added.get?_of_ne conserved.leads lock own] at held
      exact conserved.weaken.written n node lock held
  · intro key
    rw [acceptedOf_append, conserved.balanced, conserved.storedOf_added recent added key,
      Journal.deliveredOf_congr quiet.deliveries, List.append_assoc]

theorem Conserved.storedOf_clear {key : Text} (conserved : Conserved p l later h accepted)
    (clear : Queue.Clear p key h.files) : h.files.storedOf l key = [] := by
  apply FileSystem.storedOf_eq_nil
  rintro name wanted ⟨mode, bytes, held⟩
  have lock := EntryName.ne_lock_of_hasKey wanted
  obtain ⟨c, time, second, sequence, content, -, stamped, -, -, -, rfl, -⟩ :=
    conserved.written name _ lock held
  rw [EntryName.hasKey_compose c sequence stamped, decide_eq_true_eq] at wanted
  subst wanted
  rw [clear.get?_eq_none conserved.leads lock (EntryName.startsWith_compose _ _ _)] at held
  cases held

theorem Conserved.delivered {c : Change} {call : Call}
    (conserved : Conserved p l later h accepted) (clear : Queue.Clear p c.key h.files)
    (leads : h'.files.LeadsTo p l)
    (held : ∀ name, name ≠ QueueLock.fileName →
      h'.files.get? (l ++ [name]) = h.files.get? (l ++ [name]))
    (more : h'.journal.deliveries = h.journal.deliveries ++ [call]) (same : call.bare = c.call) :
    Conserved p l later h' (accepted ++ [c]) where
  leads := leads
  written name node lock holds := by
    rw [held name lock] at holds
    exact conserved.written name node lock holds
  balanced key := by
    rw [acceptedOf_append, conserved.balanced, Journal.deliveredOf_append more, same,
      Change.key_call, FileSystem.storedOf_congr held]
    by_cases own : c.key = key
    · subst own
      rw [conserved.storedOf_clear clear, List.append_nil, List.append_nil]
    · rw [if_neg own, List.append_nil, List.append_nil]

/-! ## An entry that is replayed -/

theorem Call.bare_of_toCall {defaultRealm : Text} {e : Entry} {c : Change} {call : Call}
    (account : e.account = c.account) (asks : e.toCall defaultRealm = .ok call) :
    call.bare = ⟨c.account, e.operation, e.password⟩ := by
  rw [Entry.toCall_of_account account asks]
  have same : withoutRealm (Principal.unparse ⟨c.principal.components, defaultRealm⟩) =
      c.principal.account :=
    (Principal.account_eq_name ⟨c.principal.components, defaultRealm⟩).trans
      (Principal.account_eq_name c.principal).symm
  rw [Call.bare, same]
  rfl

/-- A replayed entry held a change with the key of its name, and that change was delivered. -/
theorem Conserved.replayed {defaultRealm name : Text} {entry : Entry} {call : Call}
    (conserved : Conserved p l later h accepted) (part : name.IsPart)
    (lock : name ≠ QueueLock.fileName)
    (ready : Replay.Ready defaultRealm (p.join name) h entry call) :
    ∃ (c : Change) (bytes : Bytes) (mode : Nat), EntryName.key? name = .ok c.key ∧ call.bare = c.call ∧
      h.files.get? (l ++ [name]) = some (.file mode bytes) ∧ Call.ofBytes? bytes = some c.call := by
  obtain ⟨bytes, read, holds⟩ := ready.read
  obtain ⟨-, mode, held⟩ := conserved.leads.of_read_join part read
  obtain ⟨c, time, second, sequence, content, -, stamped, -, -, encoded, rfl, node⟩ :=
    conserved.written name _ lock held
  cases node
  refine ⟨c, bytes, Queue.entryMode, ?_, ?_, held, Call.ofBytes?_content encoded⟩
  · exact EntryName.key?_compose c sequence (EntryName.hyphen_not_mem_stamp? stamped)
  · obtain ⟨-, read⟩ | ⟨-, e, failed⟩ := Entry.ofBytes_content (p.join _) encoded
    · rw [read] at holds
      cases holds
      exact Call.bare_of_toCall rfl ready.asks
    · rw [failed] at holds
      cases holds

/-- The first entry of its key goes from the stored changes to the delivered ones. -/
theorem Conserved.removed {defaultRealm name : Text} {entry : Entry} {call : Call}
    (conserved : Conserved p l later h accepted) (part : name.IsPart)
    (lock : name ≠ QueueLock.fileName)
    (ready : Replay.Ready defaultRealm (p.join name) h entry call)
    (removed : h.Removed p l name call h')
    (first : ∀ n, EntryName.key? n = EntryName.key? name → h.files.HasFile l n → n ≠ name →
      Text.Before name n) : Conserved p l later h' accepted where
  leads := removed.leads
  written n node other held := by
    by_cases own : n = name
    · rw [own, removed.gone] at held
      cases held
    · rw [removed.held n own] at held
      exact conserved.written n node other held
  balanced key := by
    obtain ⟨c, bytes, mode, named, same, held, holds⟩ := conserved.replayed part lock ready
    rw [conserved.balanced, Journal.deliveredOf_append removed.deliveries, same, Change.key_call]
    have others (n : Text) (other : n ≠ name) : h'.files.HasFile l n ↔ h.files.HasFile l n :=
      FileSystem.hasFile_congr (removed.held n other)
    have gone : ¬ h'.files.HasFile l name := by
      rintro ⟨mode, content, held⟩
      rw [removed.gone] at held
      cases held
    have rest : ∀ n ∈ h'.files.named l (EntryName.hasKey key),
        h'.files.content? l n = h.files.content? l n := by
      intro n inside
      apply FileSystem.content?_congr
      apply removed.held
      rintro rfl
      exact gone (FileSystem.mem_named_iff.1 inside).2
    by_cases own : c.key = key
    · subst own
      have wanted := (EntryName.hasKey_iff c.key name).2 named
      have names : h.files.named l (EntryName.hasKey c.key) =
          name :: h'.files.named l (EntryName.hasKey c.key) := by
        apply FileSystem.named_cons wanted ⟨mode, bytes, held⟩ gone
        · intro n wanted' file other
          have same := (EntryName.hasKey_iff c.key n).1 wanted'
          exact first n (same.trans named.symm) file other
        · intro n _ other
          exact others n other
      have content : h.files.content? l name = some bytes := by
        rw [FileSystem.content?, held]
      rw [if_pos rfl, FileSystem.storedOf, names, List.map_cons, content, Option.bind_some, holds,
        List.append_assoc]
      congr 2
      exact (FileSystem.map_content?_congr rest).symm
    · have names : h'.files.named l (EntryName.hasKey key) = h.files.named l (EntryName.hasKey key) := by
        apply FileSystem.named_congr
        intro n wanted
        apply others
        rintro rfl
        rw [EntryName.hasKey_iff, named] at wanted
        exact own (Except.ok.inj wanted)
      rw [if_neg own, List.append_nil, FileSystem.storedOf, FileSystem.storedOf, ← names]
      congr 1
      exact (FileSystem.map_content?_congr rest).symm

/-! ## A drain -/

/-- The names that are left of a drain hold every entry that could be replayed, in order. -/
structure Drain.Waiting (fs : FileSystem) (l : Location) (blocked names : List Text) : Prop where
  sorted : names.Pairwise Text.Before
  proper : ∀ name ∈ names, name.IsPart ∧ EntryName.isListed name = true
  complete : ∀ name, fs.HasFile l name → EntryName.isListed name = true →
    keyOrName name ∉ blocked → name ∈ names

namespace Drain.Waiting

variable {fs fs' : FileSystem} {blocked rest : List Text} {name : Text}

theorem tail (waiting : Waiting fs l blocked (name :: rest))
    (kept : ∀ n, EntryName.isListed n = true → fs'.HasFile l n → fs.HasFile l n)
    (past : fs'.HasFile l name → keyOrName name ∈ blocked) : Waiting fs' l blocked rest where
  sorted := waiting.sorted.of_cons
  proper n inside := waiting.proper n (List.mem_cons_of_mem name inside)
  complete n file listed free := by
    obtain rfl | later := List.mem_cons.1 (waiting.complete n (kept n listed file) listed free)
    · exact absurd (past file) free
    · exact later

theorem block (waiting : Waiting fs l blocked rest) (key : Text) :
    Waiting fs l (key :: blocked) rest where
  sorted := waiting.sorted
  proper := waiting.proper
  complete n file listed free :=
    waiting.complete n file listed fun inside => free (List.mem_cons_of_mem key inside)

end Drain.Waiting

theorem Host.Unmoved.hasFile (unmoved : h.Unmoved p l h') (name : Text)
    (listed : EntryName.isListed name = true) : h'.files.HasFile l name ↔ h.files.HasFile l name :=
  FileSystem.hasFile_congr (unmoved.held name (EntryName.ne_lock_of_isListed listed))

theorem Conserved.isListed_eq {name key : Text} (conserved : Conserved p l later h accepted)
    (file : h.files.HasFile l name) (named : EntryName.key? name = .ok key) :
    EntryName.isListed name = EntryName.isListed key := by
  obtain ⟨mode, bytes, held⟩ := file
  have lock := EntryName.ne_lock_of_hasKey ((EntryName.hasKey_iff key name).2 named)
  obtain ⟨c, time, second, sequence, content, -, stamped, -, -, -, rfl, -⟩ :=
    conserved.written name _ lock held
  rw [EntryName.key?_compose c sequence (EntryName.hyphen_not_mem_stamp? stamped)] at named
  cases named
  exact EntryName.isListed_compose _ _ _ second sequence

/-- Among the names left, the first of a key that is not blocked is the first entry of the key. -/
theorem Conserved.first {name key : Text} {blocked rest : List Text}
    (conserved : Conserved p l later h accepted)
    (waiting : Drain.Waiting h.files l blocked (name :: rest))
    (free : Drain.keyOrName name ∉ blocked) (here : h.files.HasFile l name)
    (named : EntryName.key? name = .ok key) {n : Text} (same : EntryName.key? n = .ok key)
    (file : h.files.HasFile l n) (other : n ≠ name) : Text.Before name n := by
  have listed : EntryName.isListed n = true := by
    rw [conserved.isListed_eq file same, ← conserved.isListed_eq here named]
    exact (waiting.proper name List.mem_cons_self).2
  have free' : Drain.keyOrName n ∉ blocked := by
    rw [Drain.keyOrName, named] at free
    rw [Drain.keyOrName, same]
    exact free
  obtain rfl | later := List.mem_cons.1 (waiting.complete n file listed free')
  · exact absurd rfl other
  · exact List.rel_of_pairwise_cons waiting.sorted later

/-- A drain keeps the balance, wherever it ends. -/
theorem Conserved.drained {backend : Backend} {defaultRealm : Text} (spares : backend.Spares p)
    (refuses : backend.OnlyRefuses) {blocked names : List Text} {r : Drained}
    {result : Except Failure Drained} (conserved : Conserved p l later h accepted)
    (waiting : Drain.Waiting h.files l blocked names)
    (ends : Drain.Ends backend defaultRealm p blocked r names h result h') :
    Conserved p l later h' accepted := by
  -- What is ahead holds every entry that can still be replayed, so the next one of its key is also the
  -- first one that is stored.
  induction ends with
  | nil => exact conserved
  | @skipped blocked r name rest h h₁ h' result behind still after ih =>
    have unmoved := (still.idle p).unmoved conserved.leads
    apply ih (conserved.unmoved unmoved)
    apply waiting.tail
    · intro n listed
      exact (unmoved.hasFile n listed).1
    · intro _
      exact behind
  | @replayed blocked r name rest h h₁ h' entry result free done after ih =>
    obtain ⟨part, listed⟩ := waiting.proper name List.mem_cons_self
    have lock := EntryName.ne_lock_of_isListed listed
    obtain ⟨call, ready, removed⟩ := (ends_of_replay done).removed spares conserved.leads part
    obtain ⟨c, bytes, mode, named, -, held, -⟩ := conserved.replayed part lock ready
    have here : h.files.HasFile l name := ⟨mode, bytes, held⟩
    have gone : ¬ h₁.files.HasFile l name := by
      rintro ⟨mode, content, held⟩
      rw [removed.gone] at held
      cases held
    refine ih (conserved.removed part lock ready removed ?_) (waiting.tail ?_ ?_)
    · intro n same file other
      exact conserved.first waiting free here named (same.trans named) file other
    · intro n _ file
      have other : n ≠ name := by
        rintro rfl
        exact gone file
      exact (FileSystem.hasFile_congr (removed.held n other)).1 file
    · intro file
      exact absurd file gone
  | @failed blocked r name rest h h₁ h₂ h' e result free done kind still after ih =>
    obtain ⟨part, listed⟩ := waiting.proper name List.mem_cons_self
    have first := (ends_of_replay done).unmoved spares conserved.leads part
    have unmoved := first.trans ((still.idle p).unmoved first.leads)
    refine ih (conserved.unmoved unmoved) ((waiting.block (Drain.keyOrName name)).tail ?_ ?_)
    · intro n listed
      exact (unmoved.hasFile n listed).1
    · intro _
      exact List.mem_cons_self
  | @vanished blocked r name rest h h₁ h₂ h' e result free done kind gone still after ih =>
    obtain ⟨part, listed⟩ := waiting.proper name List.mem_cons_self
    have first := (ends_of_replay done).unmoved spares conserved.leads part
    have unmoved := first.trans ((still.idle p).unmoved first.leads)
    have absent := (ends_of_replay done).not_hasFile spares refuses conserved.leads part kind gone
    refine ih (conserved.unmoved unmoved) (waiting.tail ?_ ?_)
    · intro n listed
      exact (unmoved.hasFile n listed).1
    · intro file
      exact absurd ((unmoved.hasFile name listed).1 file) absent
  | @aborted blocked r name rest h h' e free done other =>
    obtain ⟨part, -⟩ := waiting.proper name List.mem_cons_self
    exact conserved.unmoved ((ends_of_replay done).unmoved spares conserved.leads part)

theorem Conserved.waiting (conserved : Conserved p l later h accepted) :
    Drain.Waiting h.files l [] (h.files.named l EntryName.isListed) where
  sorted := FileSystem.pairwise_named
  proper name inside := by
    obtain ⟨listed, mode, bytes, held⟩ := FileSystem.mem_named_iff.1 inside
    obtain ⟨c, time, second, sequence, content, -, stamped, -, -, -, rfl, -⟩ :=
      conserved.written name _ (EntryName.ne_lock_of_isListed listed) held
    exact ⟨EntryName.isPart_compose c sequence stamped, listed⟩
  complete _ file listed _ := FileSystem.mem_named_iff.2 ⟨listed, file⟩

/-! ## A request -/

theorem Conserved.afterDrain {backend : Backend} (orderly : backend.Orderly p)
    (conserved : Conserved p l later h accepted) (defaultRealm : Text) :
    Conserved p l later ((drain backend defaultRealm (some ⟨some p⟩)).on h).2 accepted := by
  obtain ⟨e, h', idle, -, failed⟩ | ⟨found, h₁, result, h₂, h', idle, listed, -, ends, still, done⟩ :=
    drain_cases backend defaultRealm p h
  · rw [failed]
    exact conserved.unmoved (idle.unmoved conserved.leads)
  · rw [done]
    have first := conserved.unmoved (idle.unmoved conserved.leads)
    rw [first.leads.list] at listed
    cases listed
    have last := first.drained orderly.1 orderly.2 first.waiting ends
    exact last.unmoved ((still.idle p).unmoved last.leads)

theorem Conserved.propagated {r : Relay} {c : Change} {time : Moment}
    {result : Except Failure PropagateResult}
    (orderly : ∀ backend, r.backend = some backend → backend.Orderly p)
    (conserved : Conserved p l (time :: later) h accepted) (recent : time.Recent)
    (ordered : ∀ m ∈ later, time.instant ≤ m.instant) (now : h.clock = time)
    (ends : r.Ends p c h result h') :
    Conserved p l later h'
      (accepted ++ if Answer.accepted (result.map .propagated) then [c] else []) := by
  have nothing : accepted ++ ([] : List Change) = accepted := List.append_nil accepted
  cases ends with
  | failed idle =>
    change Conserved p l later h' (accepted ++ [])
    rw [nothing]
    exact conserved.weaken.unmoved (idle.unmoved conserved.leads)
  | skipped idle =>
    change Conserved p l later h' (accepted ++ [])
    rw [nothing]
    exact conserved.weaken.unmoved (idle.unmoved conserved.leads)
  | forced enqueued => exact conserved.enqueued none recent ordered now enqueued
  | conflict _ enqueued => exact conserved.enqueued none recent ordered now enqueued
  | done configured idle clear delivered idle' =>
    have spares := (orderly _ configured).1
    have first := idle.unmoved conserved.leads
    obtain ⟨called, deliveries⟩ := Backend.of_deliver_ok delivered
    have last := idle'.unmoved (called.leadsTo spares first.leads)
    have same : Call.bare ⟨c.principal.unparse, c.operation, c.password⟩ = c.call := rfl
    refine conserved.weaken.delivered clear last.leads ?_ ?_ same
    · intro name lock
      rw [last.held name lock, called.get?_below spares first.leads, first.held name lock]
    · rw [last.deliveries, deliveries, first.deliveries]
  | refused configured idle clear called delivery enqueued =>
    have first := idle.unmoved conserved.leads
    obtain ⟨-, made, deliveries⟩ := Backend.of_deliver_error called
    have unmoved := first.trans (made.unmoved (orderly _ configured).1 first.leads deliveries)
    have now' := unmoved.clock.trans now
    exact (conserved.unmoved unmoved).enqueued none recent ordered now' enqueued
  | lost configured idle clear called idle' =>
    change Conserved p l later h' (accepted ++ [])
    rw [nothing]
    have first := idle.unmoved conserved.leads
    obtain ⟨-, made, deliveries⟩ := Backend.of_deliver_error called
    have unmoved := first.trans (made.unmoved (orderly _ configured).1 first.leads deliveries)
    exact conserved.weaken.unmoved (unmoved.trans (idle'.unmoved unmoved.leads))

/-- Whatever a request ends with, it keeps the balance. -/
theorem Conserved.afterRequest {request : Request} {time : Moment} {result : Except Failure Answer}
    (orderly : ∀ backend, request.backend? = some backend → backend.Orderly p)
    (kept : ∀ name, request ≠ .delete name)
    (conserved : Conserved p l (time :: later) h accepted) (recent : time.Recent)
    (ordered : ∀ m ∈ later, time.instant ≤ m.instant)
    (now : request.moment?.getD h.clock = time) (ends : request.Ends p h result h') :
    Conserved p l later h'
      (accepted ++ if Answer.accepted result then request.change?.toList else []) := by
  cases ends with
  | idle nothing idle =>
    simp only [nothing, Bool.false_eq_true, if_false, List.append_nil]
    exact conserved.weaken.unmoved (idle.unmoved conserved.leads)
  | propagated asked present served ends =>
    rw [present] at now
    rw [asked]
    refine conserved.propagated ?_ recent ordered now ends
    intro backend configured
    exact orderly backend (served.trans configured)
  | enqueued asked enqueued =>
    rw [asked]
    exact conserved.enqueued request.moment? recent ordered now enqueued
  | @drained backend defaultRealm result _ _ served done =>
    have nothing : Answer.accepted (result.map .drained) = false := by cases result <;> rfl
    have after := conserved.weaken.afterDrain (orderly backend served) defaultRealm
    rw [done] at after
    simp only [nothing, Bool.false_eq_true, if_false, List.append_nil]
    exact after
  | deleted asked => exact absurd asked (kept _)

/-! ## A run -/

/-- The step comes in the year 1000 or later, deletes nothing, and calls no backend but an orderly
one. -/
structure Step.Orderly (step : Step) (p : Path) : Prop where
  recent : step.time.Recent
  backend : ∀ backend, step.request.backend? = some backend → backend.Orderly p
  kept : ∀ name, step.request ≠ .delete name

theorem Conserved.steps {s : Progress} {steps : List Step}
    (conserved : Conserved p l (steps.map Step.time) s.host s.accepted)
    (ordered : (steps.map Step.time).Pairwise fun m n => m.instant ≤ n.instant)
    (orderly : ∀ step ∈ steps, step.Orderly p) :
    Conserved p l [] (steps.foldl (Progress.after ⟨some p⟩) s).host
      (steps.foldl (Progress.after ⟨some p⟩) s).accepted := by
  -- All files are older than the moments to come, so whatever a step adds goes behind them.
  induction steps generalizing s with
  | nil => exact conserved
  | cons step rest ih =>
    obtain ⟨first, ordered⟩ := List.pairwise_cons.1 ordered
    have now := orderly step List.mem_cons_self
    have begun : Conserved p l (step.time :: rest.map Step.time)
        (step.begin s.host) s.accepted :=
      ⟨conserved.leads, conserved.written, conserved.balanced⟩
    have after := begun.afterRequest now.backend now.kept now.recent first rfl
      (Request.ends p step.request (step.begin s.host))
    apply ih after ordered
    intro other inside
    exact orderly other (List.mem_cons_of_mem step inside)

theorem conserved_of_empty (leads : h.files.LeadsTo p l) (empty : h.files.entries l = [])
    (later : List Moment) : Conserved p l later { h with journal := [] } [] := by
  have none (name : Text) (node : Node) : h.files.get? (l ++ [name]) ≠ some node := by
    intro held
    have inside := (FileSystem.mem_entries_iff h.files l name node).2 held
    rw [empty] at inside
    cases inside
  refine ⟨leads, fun name node _ held => absurd held (none name node), fun key => ?_⟩
  change [] = [] ++ h.files.storedOf l key
  rw [FileSystem.storedOf_eq_nil]
  · rfl
  · rintro name - ⟨mode, content, held⟩
    exact none name _ held

/-- After a run from an empty directory, the accepted changes of each key are the delivered ones,
in the order of their delivery, and then the ones in the queue, in the order of their names. -/
theorem accepted_eq_delivered_append_stored (leads : h.files.LeadsTo p l)
    (empty : h.files.entries l = []) (steps : List Step)
    (ordered : (steps.map Step.time).Pairwise fun m n => m.instant ≤ n.instant)
    (orderly : ∀ step ∈ steps, step.Orderly p) (key : Text) :
    acceptedOf (run ⟨some p⟩ h steps).accepted key =
      (run ⟨some p⟩ h steps).host.journal.deliveredOf key ++
        (run ⟨some p⟩ h steps).host.files.storedOf l key :=
  ((conserved_of_empty leads empty (steps.map Step.time)).steps ordered orderly).balanced key

/-- A refused change waits, the next one of its key waits behind it, and a drain delivers both. -/
theorem accepted_eq_delivered_append_stored_of_three :
    let p : Path := ⟨[], ["queue"]⟩
    let h := Host.withDirectory "queue" .newYear
    let settings : Settings := ⟨none, false, none, none, [], none, false, []⟩
    let who : Principal := ⟨["test"], "EXAMPLE.COM"⟩
    let steps : List Step :=
      [⟨.newYear, .propagate ⟨settings, some .refusing, ⟨none⟩, none⟩ ⟨who, .ad, .enable⟩⟩,
        ⟨.newYear, .propagate ⟨settings, some .accepting, ⟨none⟩, none⟩ ⟨who, .ad, .disable⟩⟩,
        ⟨.newYear, .drain .accepting []⟩]
    h.files.LeadsTo p ["queue"] ∧ h.files.entries ["queue"] = [] ∧
      ((steps.map Step.time).Pairwise fun m n => m.instant ≤ n.instant) ∧
      (∀ step ∈ steps, step.Orderly p) ∧
      (run ⟨some p⟩ h steps).host.journal.deliveries.length = 2 ∧
      ∀ key, acceptedOf (run ⟨some p⟩ h steps).accepted key =
        (run ⟨some p⟩ h steps).host.journal.deliveredOf key ++
          (run ⟨some p⟩ h steps).host.files.storedOf ["queue"] key := by
  intro p h settings who steps
  have leads : h.files.LeadsTo p ["queue"] := ⟨by decide, by decide⟩
  have empty : h.files.entries ["queue"] = [] := by decide
  have ordered : (steps.map Step.time).Pairwise fun m n => m.instant ≤ n.instant := by
    simp [steps, Step.time, Request.moment?]
  have orderly : ∀ step ∈ steps, step.Orderly p := by
    intro step inside
    simp only [steps, List.mem_cons, List.not_mem_nil, or_false] at inside
    obtain rfl | rfl | rfl := inside
    · exact ⟨Moment.recent_newYear, fun _ same => Option.some.inj same ▸ Backend.orderly_refusing p,
        fun _ => nofun⟩
    · exact ⟨Moment.recent_newYear, fun _ same => Option.some.inj same ▸ Backend.orderly_accepting p,
        fun _ => nofun⟩
    · exact ⟨Moment.recent_newYear, fun _ same => Option.some.inj same ▸ Backend.orderly_accepting p,
        fun _ => nofun⟩
  exact ⟨leads, empty, ordered, orderly, by decide +kernel,
    accepted_eq_delivered_append_stored leads empty steps ordered orderly⟩

end AccountRelay
