import AccountRelay.Proofs.Naming
/-!
# How the entries of a second are numbered

The number of a new entry is found by comparing names with its key and second, as texts. Names of
other entries may begin with them as well, but go on with more than a number, so only the entries with
exactly this key and second count. The new entry takes the number after their highest, and as no entry
is below it that was not numbered, a queue from which nothing is removed has no gaps.
-/

namespace AccountRelay

/-- The entries that were created, or could not be created. -/
def Journal.creations (j : Journal) : List Path :=
  j.filterMap fun
    | .creating entry => some entry
    | _ => none

theorem Host.creations_record (e : Event) (h : Host) :
    (h.record e).journal.creations = h.journal.creations ++ Journal.creations [e] :=
  List.filterMap_append

theorem Host.creations_record_of_ne {e : Event} (other : Journal.creations [e] = []) (h : Host) :
    (h.record e).journal.creations = h.journal.creations := by
  rw [creations_record, other, List.append_nil]

namespace Queue

/-- There is an entry with this key, second and sequence number. -/
def Numbered (fs : FileSystem) (l : Location) (key second : Text) (n : Nat) : Prop :=
  n < sequenceBound ∧ fs.HasFile l (EntryName.compose key second n)

/-- The number after the highest of all entries with this key and second, or zero. -/
structure NextNumber (fs : FileSystem) (l : Location) (key second : Text) (n : Nat) : Prop where
  above : ∀ k, Numbered fs l key second k → k < n
  highest : ∀ k, n = k + 1 → Numbered fs l key second k

/-- Besides the lock file, the directory holds only files, with the names of entries. -/
def Orderly (l : Location) (fs : FileSystem) : Prop :=
  ∀ name node, name ≠ QueueLock.fileName → fs.get? (l ++ [name]) = some node →
    fs.HasFile l name ∧ ∃ c : Change, c.Names name

section NextNumber

variable {fs fs' : FileSystem} {l : Location} {key second : Text} {n n' : Nat}

theorem NextNumber.le_bound (next : NextNumber fs l key second n) : n ≤ sequenceBound := by
  cases n with
  | zero => exact Nat.zero_le _
  | succ k => exact (next.highest k rfl).1

theorem NextNumber.unique (next : NextNumber fs l key second n)
    (next' : NextNumber fs l key second n') : n = n' := by
  have le {a b : Nat} (one : NextNumber fs l key second a) (other : NextNumber fs l key second b) :
      a ≤ b := by
    cases a with
    | zero => exact Nat.zero_le b
    | succ k => exact other.above k (one.highest k rfl)
  exact Nat.le_antisymm (le next next') (le next' next)

theorem NextNumber.congr (next : NextNumber fs l key second n)
    (same : ∀ k < sequenceBound, fs'.HasFile l (EntryName.compose key second k) ↔
      fs.HasFile l (EntryName.compose key second k)) : NextNumber fs' l key second n where
  above k numbered := next.above k ⟨numbered.1, (same k numbered.1).1 numbered.2⟩
  highest k last := by
    obtain ⟨bound, present⟩ := next.highest k last
    exact ⟨bound, (same k bound).2 present⟩

theorem NextNumber.succ (next : NextNumber fs l key second n) (bound : n < sequenceBound)
    (new : fs'.HasFile l (EntryName.compose key second n))
    (same : ∀ k < sequenceBound, k ≠ n → (fs'.HasFile l (EntryName.compose key second k) ↔
      fs.HasFile l (EntryName.compose key second k))) : NextNumber fs' l key second (n + 1) where
  above k numbered := by
    by_cases own : k = n
    · omega
    · have := next.above k ⟨numbered.1, (same k numbered.1 own).1 numbered.2⟩
      omega
  highest k last := by
    obtain rfl : n = k := by omega
    exact ⟨bound, new⟩

/-- Nothing is under the next number, as nothing but a file could be there. -/
theorem NextNumber.absent {c : Change} (next : NextNumber fs l c.key second n)
    (orderly : Orderly l fs) (bound : n < sequenceBound) :
    fs.get? (l ++ [EntryName.compose c.key second n]) = none := by
  cases held : fs.get? (l ++ [EntryName.compose c.key second n]) with
  | none => rfl
  | some node =>
    have file := (orderly _ node (EntryName.compose_ne_lock c second n) held).1
    exact absurd (next.above n ⟨bound, file⟩) (Nat.lt_irrefl n)

end NextNumber

theorem Orderly.lockMade {l : Location} {p : Path} {before after : FileSystem}
    (orderly : Orderly l before) (leads : before.LeadsTo p l) (made : before.LockMade p after) :
    Orderly l after := by
  intro name node lock held
  have same := made.get?_below leads lock
  rw [same] at held
  obtain ⟨present, named⟩ := orderly name node lock held
  exact ⟨(FileSystem.hasFile_congr same).2 present, named⟩

end Queue

/-! ## Comparing names -/

namespace EntryName

theorem hyphen_not_mem_of_isNumeral {t : Text} (numeral : t.isNumeral = true) :
    Symbol.char '-' ∉ t := by
  intro inside
  rw [Text.isNumeral, Bool.and_eq_true, List.all_eq_true] at numeral
  exact absurd (numeral.2 _ inside) (by decide)

theorem twoDigits_mod (n : Nat) : Text.twoDigits (n % sequenceBound) = Text.twoDigits n := by
  have tens : Text.digit (n % 100 / 10) = Text.digit (n / 10) := by
    unfold Text.digit
    congr 3
    omega
  have ones : Text.digit (n % 100) = Text.digit n := by
    unfold Text.digit
    congr 3
    omega
  rw [Text.twoDigits, Text.twoDigits, sequenceBound, tens, ones]

section Compared

variable (c : Change) (second : Text)

/-- The name of an entry counts only if it is a name for this key and second, and then it has a
number. -/
theorem sequenceAfter_of_names {c' : Change} {name : Text} (named : c'.Names name) :
    Queue.sequenceAfter (c.key ++ second ++ "-") name = .ok 0 ∨
      ∃ k < sequenceBound, name = compose c.key second k ∧
        Queue.sequenceAfter (c.key ++ second ++ "-") name = .ok (k + 1) := by
  obtain ⟨-, other, sequence, -, rfl⟩ := named
  by_cases counts : (compose c'.key other sequence).startsWith (c.key ++ second ++ "-") ∧
      Text.isNumeral ((compose c'.key other sequence).drop
        (List.length (c.key ++ second ++ Text.ofString "-")))
  · right
    obtain ⟨starts, numeral⟩ := counts
    obtain ⟨digits, whole⟩ := (Text.startsWith_iff _ _).1 starts
    rw [whole, List.drop_left] at numeral
    -- Both the digits and the two digits of the name stand behind its last hyphen.
    have own := splitLast_compose c'.key other sequence
    have counted := Text.splitLast_append (.char '-') (c.key ++ second) digits
      (hyphen_not_mem_of_isNumeral numeral)
    rw [whole, List.append_assoc] at own
    obtain ⟨before, -⟩ := Prod.mk.inj (Option.some.inj (counted.symm.trans own))
    have bound : sequence % sequenceBound < sequenceBound := Nat.mod_lt _ (by decide)
    have name : compose c'.key other sequence = compose c.key second (sequence % sequenceBound) := by
      rw [compose, compose, ← before, twoDigits_mod]
    refine ⟨_, bound, name, ?_⟩
    rw [name]
    exact sequenceAfter_compose c.key second bound
  · left
    rw [Queue.sequenceAfter]
    exact if_neg counts

theorem sequenceAfter_lock :
    Queue.sequenceAfter (c.key ++ second ++ "-") QueueLock.fileName = .ok 0 := by
  rw [Queue.sequenceAfter]
  apply if_neg
  have hyphen : Symbol.char '-' ∈ c.key ++ second ++ Text.ofString "-" :=
    List.mem_append_right _ (List.mem_singleton_self _)
  rw [QueueLock.startsWith_fileName hyphen]
  exact fun both => Bool.false_ne_true both.1

theorem sequenceAmong_attained {stem : Text} {names : List Text} {free : Nat}
    (h : Queue.sequenceAmong stem names = .ok free) :
    free = 0 ∨ ∃ name ∈ names, Queue.sequenceAfter stem name = .ok free := by
  induction names generalizing free with
  | nil =>
    left
    exact (Except.ok.inj h).symm
  | cons first rest ih =>
    rw [Queue.sequenceAmong] at h
    obtain ⟨next, own, h⟩ := bind_eq_ok_iff.1 h
    obtain ⟨most, others, h⟩ := bind_eq_ok_iff.1 h
    obtain rfl : max next most = free := Except.ok.inj h
    obtain last | last := Nat.le_total most next
    · rw [Nat.max_eq_left last]
      exact .inr ⟨first, List.mem_cons_self, own⟩
    · rw [Nat.max_eq_right last]
      obtain none | ⟨name, inside, after⟩ := ih others
      · exact .inl none
      · exact .inr ⟨name, List.mem_cons_of_mem first inside, after⟩

/-- In a directory with nothing else than entries, the number that is found is the next one. -/
theorem nextNumber_of_orderly {l : Location} {fs : FileSystem} (orderly : Queue.Orderly l fs) :
    ∃ n, Queue.sequenceAmong (c.key ++ second ++ "-") ((fs.entries l).map Prod.fst) = .ok n ∧
      Queue.NextNumber fs l c.key second n := by
  have each {name : Text} (inside : name ∈ (fs.entries l).map Prod.fst) :
      Queue.sequenceAfter (c.key ++ second ++ "-") name = .ok 0 ∨
        ∃ k, Queue.Numbered fs l c.key second k ∧
          Queue.sequenceAfter (c.key ++ second ++ "-") name = .ok (k + 1) := by
    rw [FileSystem.name_mem_entries_iff, Option.isSome_iff_exists] at inside
    obtain ⟨node, held⟩ := inside
    by_cases lock : name = QueueLock.fileName
    · rw [lock]
      exact .inl (sequenceAfter_lock c second)
    · obtain ⟨file, c', named⟩ := orderly name node lock held
      obtain other | ⟨k, bound, rfl, counted⟩ :=
        sequenceAfter_of_names c second named
      · exact .inl other
      · exact .inr ⟨k, ⟨bound, file⟩, counted⟩
  obtain ⟨digits, valueless, inside, -⟩ | ⟨-, n, found⟩ :=
    sequenceAmong_cases (c.key ++ second ++ "-") ((fs.entries l).map Prod.fst)
  · have failed : Queue.sequenceAfter (c.key ++ second ++ "-") (c.key ++ second ++ "-" ++ digits) =
        .error (.notANumber digits) := sequenceAfter_eq_error_iff.2 ⟨digits, rfl, valueless, rfl⟩
    obtain other | ⟨k, -, counted⟩ := each inside
    · cases failed.symm.trans other
    · cases failed.symm.trans counted
  refine ⟨n, found, ⟨?_, ?_⟩⟩
  · rintro k ⟨bound, mode, content, held⟩
    have inside : compose c.key second k ∈ (fs.entries l).map Prod.fst := by
      rw [FileSystem.name_mem_entries_iff, held]
      rfl
    obtain ⟨next, after, below⟩ := sequenceAfter_le found inside
    rw [sequenceAfter_compose c.key second bound] at after
    cases after
    exact below
  · rintro k rfl
    obtain none | ⟨name, inside, after⟩ := sequenceAmong_attained found
    · cases none
    · obtain other | ⟨k', numbered, counted⟩ := each inside
      · cases other.symm.trans after
      · cases counted.symm.trans after
        exact numbered

end Compared

end EntryName

/-! ## What can be stored -/

namespace Queue

/-- The change can be written to a file, and the names of its entries fit into the directory. -/
structure Storable (p : Path) (c : Change) (second : Text) : Prop where
  encodable : (content? c).isSome = true
  admitted : ∀ n < sequenceBound, p.Admits (EntryName.compose c.key second n)

theorem Storable.congr {p : Path} {c c' : Change} {second : Text} (storable : Storable p c second)
    (keys : c'.key = c.key) : Storable p c' second where
  encodable := by
    rw [isSome_content?, (EntryName.key_eq_iff.1 keys).1, ← isSome_content?]
    exact storable.encodable
  admitted n bound := by
    rw [keys]
    exact storable.admitted n bound

/-! ## Putting a change into the queue -/

/-- What putting a change into the queue ends with, if `n` is the next number. -/
def answer (p : Path) (c : Change) (second : Text) (n : Nat) : Except Failure Text :=
  match content? c with
  | none => .error (.storage (.encoding c.account))
  | some _ =>
    let name := EntryName.compose c.key second n
    if n = sequenceBound then .error (.storage (.tooMany (c.key ++ second)))
    else if p.Admits name then .ok name
    else .error (.storage (.createEntry (p.join name) .nameTooLong))

/-- The entries that are tried for it, whether or not they can be created. -/
def tried (p : Path) (c : Change) (second : Text) (n : Nat) : List Path :=
  if (content? c).isSome = true ∧ n < sequenceBound then [p.join (EntryName.compose c.key second n)]
  else []

theorem answer_of_storable {p : Path} {c : Change} {second : Text} {n : Nat}
    (storable : Storable p c second) (bound : n ≤ sequenceBound) :
    answer p c second n =
      if n < sequenceBound then .ok (EntryName.compose c.key second n)
      else .error (.storage (.tooMany (c.key ++ second))) := by
  obtain ⟨content, encoded⟩ := Option.isSome_iff_exists.1 storable.encodable
  rw [answer, encoded]
  obtain full | free := Nat.eq_or_lt_of_le bound
  · subst full
    rfl
  · simp only [if_neg (Nat.ne_of_lt free), if_pos (storable.admitted n free), if_pos free]

section Enqueue

variable {p : Path} {l : Location} {h : Host} {c : Change} {moment : Option Moment} {second : Text}
  {n : Nat}

theorem write_of_next (named : p.hasNul = false) (leads : h.files.LeadsTo p l)
    (stamped : (moment.getD h.clock).stamp? = some second)
    (found : sequenceAmong (c.key ++ second ++ "-") ((h.files.entries l).map Prod.fst) = .ok n)
    (bound : n ≤ sequenceBound)
    (new : n < sequenceBound → h.files.get? (l ++ [EntryName.compose c.key second n]) = none) :
    ((write p c moment).on h).1 = answer p c second n ∧
      ((write p c moment).on h).2.journal.creations = h.journal.creations ++ tried p c second n := by
  have searched : (h.record (.searched p)).journal.creations = h.journal.creations :=
    Host.creations_record_of_ne rfl h
  cases encoded : content? c with
  | none =>
    have failed : (write p c moment).on h = (.error (.storage (.encoding c.account)), h) := by
      simp only [write, encoded]
      rfl
    rw [failed, answer, tried, encoded]
    exact ⟨rfl, (List.append_nil _).symm⟩
  | some content =>
    have numbered : (freeSequence p c.key second).on h = (.ok n, h.record (.searched p)) := by
      rw [freeSequence_of_leadsTo named leads, found]
      rfl
    rw [write_on p encoded stamped, Act.on_bind_of_ok h _ numbered]
    obtain full | free := Nat.eq_or_lt_of_le bound
    · subst full
      rw [answer, tried, encoded]
      exact ⟨rfl, searched.trans (List.append_nil _).symm⟩
    · have created := leads.create_join (EntryName.isPart_compose c n stamped) entryMode content
      rw [new free] at created
      change (h.record (.searched p)).files.create entryMode content _ = _ at created
      have creating : ((h.record (.searched p)).record
          (.creating (p.join (EntryName.compose c.key second n)))).journal.creations =
          h.journal.creations ++ tried p c second n := by
        rw [Host.creations_record, searched, tried, encoded, if_pos ⟨rfl, free⟩]
        rfl
      have tries : sequenceBound - n = (sequenceBound - n - 1) + 1 := by omega
      rw [tries, createFrom_succ_on, answer, encoded]
      simp only [if_neg (Nat.ne_of_lt free)]
      by_cases admitted : p.Admits (EntryName.compose c.key second n)
      · rw [if_pos admitted] at created ⊢
        rw [created, Path.name_join p (EntryName.isPart_compose c n stamped)]
        exact ⟨rfl, creating⟩
      · rw [if_neg admitted] at created ⊢
        rw [created]
        exact ⟨rfl, creating⟩

theorem creations_enqueue {files : FileSystem} {m : Location}
    (done : (withLock p (write p c moment)).on h =
      (((write p c moment).on (h.lock m files)).1,
        Host.unlock m ((write p c moment).on (h.lock m files)).2)) :
    ((enqueue ⟨some p⟩ c moment).on h).2.journal.creations =
      ((write p c moment).on (h.lock m files)).2.journal.creations := by
  rw [enqueue_configured, Act.on_bind, done]
  cases ((write p c moment).on (h.lock m files)).1 with
  | error e => exact Host.creations_record_of_ne rfl _
  | ok name =>
    dsimp only
    rw [Act.on_bind_of_ok _ _ (Act.on_log _ _ _)]
    exact (Host.creations_record_of_ne rfl _).trans (Host.creations_record_of_ne rfl _)

theorem enqueue_of_orderly (lockable : h.Lockable p l) (orderly : Orderly l h.files)
    (stamped : (moment.getD h.clock).stamp? = some second) :
    ∃ n, NextNumber h.files l c.key second n ∧
      (n < sequenceBound → h.files.get? (l ++ [EntryName.compose c.key second n]) = none) ∧
      ((enqueue ⟨some p⟩ c moment).on h).1 = answer p c second n ∧
      ((enqueue ⟨some p⟩ c moment).on h).2.journal.creations =
        h.journal.creations ++ tried p c second n := by
  obtain ⟨files, made, done⟩ := lockable.withLock (write p c moment)
  obtain ⟨n, found, locked⟩ := EntryName.nextNumber_of_orderly c second
    (orderly.lockMade lockable.leads made)
  have next : NextNumber h.files l c.key second n := locked.congr fun k _ =>
    (FileSystem.hasFile_congr
      (made.get?_below lockable.leads (EntryName.compose_ne_lock c second k))).symm
  have absent := locked.absent (orderly.lockMade lockable.leads made)
  obtain ⟨answered, created⟩ := write_of_next (h := h.lock (l ++ [QueueLock.fileName]) files)
    lockable.nul (made.leadsTo lockable.leads) stamped found locked.le_bound absent
  refine ⟨n, next, next.absent orderly, ?_, ?_⟩
  · rw [enqueue_configured, Act.fst_on_bind (fun _ _ => rfl), done, answered]
  · rw [creations_enqueue done, created]
    exact congrArg (· ++ _) (Host.creations_record_of_ne rfl _)

theorem hasFile_of_enqueue {name : Text} (leads : h.files.LeadsTo p l)
    (taken : ((enqueue ⟨some p⟩ c moment).on h).1 = .ok name) :
    ((enqueue ⟨some p⟩ c moment).on h).2.files.HasFile l name := by
  obtain ⟨e, h', -, failed⟩ | ⟨other, h', enqueued, done⟩ := enqueue_cases p c moment h
  · rw [failed] at taken
    cases taken
  · rw [done] at taken ⊢
    cases taken
    obtain ⟨-, second, sequence, content, rfl, added⟩ := enqueued.written
    exact ⟨_, _, (added.get?_self leads).2⟩

/-- A change that can be stored fails only where no number is left. -/
theorem enqueue_of_next (lockable : h.Lockable p l) (orderly : Orderly l h.files)
    (storable : Storable p c second) (next : NextNumber h.files l c.key second n) {c' : Change}
    (keys : c'.key = c.key) (stamped : (moment.getD h.clock).stamp? = some second) :
    ((enqueue ⟨some p⟩ c' moment).on h).1 = if n < sequenceBound then
      .ok (EntryName.compose c.key second n) else .error (.storage (.tooMany (c.key ++ second))) := by
  obtain ⟨n', next', -, answered, -⟩ := enqueue_of_orderly (c := c') lockable orderly stamped
  rw [keys] at next'
  obtain rfl := next.unique next'
  rw [answered, answer_of_storable (storable.congr keys) next.le_bound, keys]

/-- Only an entry with its key and second moves a number on. -/
theorem nextNumber_enqueue (lockable : h.Lockable p l) (orderly : Orderly l h.files) {m : Moment}
    (stamped : m.stamp? = some second) (storable : Storable p c second)
    (next : NextNumber h.files l c.key second n) (c' : Change) (moment : Option Moment) :
    NextNumber ((enqueue ⟨some p⟩ c' moment).on h).2.files l c.key second
      (if c'.key = c.key ∧ (moment.getD h.clock).stamp? = some second then min (n + 1) sequenceBound
        else n) := by
  have leads := lockable.leads
  have answered (keys : c'.key = c.key) (same : (moment.getD h.clock).stamp? = some second) :=
    enqueue_of_next lockable orderly storable next keys same
  obtain ⟨e, h', idle, failed⟩ | ⟨name, h', enqueued, done⟩ := enqueue_cases p c' moment h
  · rw [failed] at answered ⊢
    have kept : NextNumber h'.files l c.key second n := next.congr fun k _ =>
      FileSystem.hasFile_congr ((idle.unmoved leads).held _ (EntryName.compose_ne_lock c second k))
    split
    · rename_i marked
      have ended := answered marked.1 marked.2
      split at ended
      · cases ended
      · have full : min (n + 1) sequenceBound = n := by
          have := next.le_bound
          omega
        rwa [full]
    · exact kept
  · rw [done] at answered ⊢
    obtain ⟨-, second', sequence, content, rfl, added⟩ := enqueued.written
    have old {k : Nat} (other : EntryName.compose c.key second k ≠
        EntryName.compose c'.key second' sequence) :
        h'.files.HasFile l (EntryName.compose c.key second k) ↔
          h.files.HasFile l (EntryName.compose c.key second k) :=
      FileSystem.hasFile_congr
        (added.get?_of_ne leads (EntryName.compose_ne_lock c second k) other)
    split
    · rename_i marked
      have ended := answered marked.1 marked.2
      split at ended
      · rename_i bound
        have own := Except.ok.inj ended
        have new := (added.get?_self leads).2
        have step : min (n + 1) sequenceBound = n + 1 := by omega
        rw [own] at new old
        rw [step]
        refine next.succ bound ⟨_, _, new⟩ fun k inside other => old fun same => other ?_
        exact ((EntryName.compose_eq_iff stamped stamped inside bound).1 same).2.2
      · cases ended
    · rename_i unmarked
      refine next.congr fun k inside => old fun same => unmarked ?_
      obtain ⟨keys, rfl, -⟩ :=
        (EntryName.compose_eq_iff stamped added.stamped inside added.bound).1 same
      exact ⟨keys.symm, added.stamped⟩

end Enqueue

end Queue

/-! ## Numbers in a run -/

def Step.marks (key second : Text) (step : Step) : Bool :=
  match step.request with
  | .enqueue c _ => c.key = key ∧ step.time.stamp? = some second
  | _ => false

section Run

variable {p : Path} {l : Location} {h : Host} {steps : List Step}

theorem orderly_of_run (leads : h.files.LeadsTo p l) (empty : h.files.entries l = [])
    (spares : ∀ step ∈ steps, ∀ backend, step.request.backend? = some backend → backend.Spares p) :
    Queue.Orderly l (run ⟨some p⟩ h steps).host.files := by
  intro name node lock held
  obtain ⟨c, stood, named⟩ := (standsFor_of_held leads empty spares).2 name node lock held
  exact ⟨stood.hasFile, c, named⟩

/-- Where nothing is removed, the numbers up to the number of changes are taken, as far as there are
numbers. -/
theorem nextNumber_of_enqueues (lockable : h.Lockable p l) (empty : h.files.entries l = [])
    {c : Change} {m : Moment} {second : Text} (stamped : m.stamp? = some second)
    (storable : Queue.Storable p c second)
    (enqueues : ∀ step ∈ steps, ∃ c moment, step.request = .enqueue c moment) :
    Queue.NextNumber (run ⟨some p⟩ h steps).host.files l c.key second
      (min (steps.countP (Step.marks c.key second)) sequenceBound) := by
  -- The last step moves the number on exactly if it is for this key and second.
  induction steps using List.reverseRecOn with
  | nil =>
    refine ⟨?_, nofun⟩
    rintro k ⟨-, mode, content, held⟩
    have inside := (FileSystem.mem_entries_iff h.files l _ _).2 held
    rw [empty] at inside
    cases inside
  | append_singleton steps step ih =>
    have enqueues' : ∀ other ∈ steps, ∃ c moment, other.request = .enqueue c moment :=
      fun other inside => enqueues other (List.mem_append_left _ inside)
    have spares : ∀ other ∈ steps, ∀ backend, other.request.backend? = some backend →
        backend.Spares p := by
      intro other inside backend configured
      obtain ⟨c', moment, asked⟩ := enqueues' other inside
      rw [asked] at configured
      cases configured
    have reached := (lockable.run fun other inside backend configured =>
      (spares other inside backend configured).steady).begin step
    obtain ⟨c', moment, asked⟩ := enqueues step (List.mem_append_right _ (List.mem_singleton_self step))
    have next := Queue.nextNumber_enqueue reached (orderly_of_run lockable.leads empty spares) stamped
      storable (ih enqueues') c' moment
    have now : (step.begin (run ⟨some p⟩ h steps).host).clock = step.clock := rfl
    have files : (run ⟨some p⟩ h (steps ++ [step])).host.files =
        ((Queue.enqueue ⟨some p⟩ c' moment).on (step.begin (run ⟨some p⟩ h steps).host)).2.files := by
      rw [run_concat, Progress.after, asked]
      simp only [Request.act, Act.on_map]
    have marks : step.marks c.key second =
        decide (c'.key = c.key ∧ (moment.getD step.clock).stamp? = some second) := by
      rw [Step.marks, Step.time, asked]
      rfl
    rw [now] at next
    rw [files, List.countP_append, List.countP_singleton, marks]
    by_cases marked : c'.key = c.key ∧ (moment.getD step.clock).stamp? = some second
    · rw [if_pos marked] at next
      have count : min (steps.countP (Step.marks c.key second) + 1) sequenceBound =
          min (min (steps.countP (Step.marks c.key second)) sequenceBound + 1) sequenceBound := by
        omega
      rw [decide_eq_true marked, if_pos rfl, count]
      exact next
    · rw [if_neg marked] at next
      rw [decide_eq_false marked, if_neg Bool.false_ne_true, Nat.add_zero]
      exact next

/-- After a run from an empty directory, a change that is put into the queue takes the number after
the highest of the entries with its key and second, or fails if no number is left. The entry for the
number is the only one that is tried, and nothing is there under its name. Where the run has only put
changes into the queue, the number is how often that was for this key and second. -/
theorem enqueue_takes_next (lockable : h.Lockable p l) (empty : h.files.entries l = [])
    (spares : ∀ step ∈ steps, ∀ backend, step.request.backend? = some backend → backend.Spares p)
    (c : Change) (moment : Option Moment) (clock : Moment) {second : Text}
    (stamped : (moment.getD clock).stamp? = some second) :
    let before := { (run ⟨some p⟩ h steps).host with clock := clock }
    let after := (Queue.enqueue ⟨some p⟩ c moment).on before
    ∃ n, Queue.NextNumber before.files l c.key second n ∧ after.1 = Queue.answer p c second n ∧
      after.2.journal.creations = before.journal.creations ++ Queue.tried p c second n ∧
      (n < sequenceBound → before.files.get? (l ++ [EntryName.compose c.key second n]) = none) ∧
      (∀ name, after.1 = .ok name → after.2.files.HasFile l name) ∧
      (Queue.Storable p c second →
        (∀ step ∈ steps, ∃ c moment, step.request = .enqueue c moment) →
          n = min (steps.countP (Step.marks c.key second)) sequenceBound) := by
  intro before after
  have reached := (lockable.run fun step inside backend configured =>
    (spares step inside backend configured).steady).begin ⟨clock, .enqueue c moment⟩
  obtain ⟨n, next, new, answered, created⟩ := Queue.enqueue_of_orderly (c := c) reached
    (orderly_of_run lockable.leads empty spares) stamped
  refine ⟨n, next, answered, created, new, fun name => Queue.hasFile_of_enqueue reached.leads,
    fun storable enqueues => ?_⟩
  exact next.unique (nextNumber_of_enqueues lockable empty stamped storable enqueues)

/-- Two changes of the account are before, and one of an account whose entries have names that begin
with the key and the second. -/
theorem enqueue_takes_next_third :
    let p : Path := ⟨[], ["queue"]⟩
    let h := Host.withDirectory "queue" .newYear
    let c : Change := ⟨⟨["test"], []⟩, .ad, .enable⟩
    let steps : List Step := [⟨.newYear, .enqueue c none⟩,
      ⟨.newYear, .enqueue ⟨⟨["test-ad-enable-20240101T000000Z-07"], []⟩, .ad, .enable⟩ none⟩,
      ⟨.newYear, .enqueue ⟨⟨["test"], []⟩, .ad, .disable⟩ none⟩]
    let before := { (run ⟨some p⟩ h steps).host with clock := .newYear }
    h.Lockable p ["queue"] ∧ h.files.entries ["queue"] = [] ∧
      (∀ step ∈ steps, ∀ backend, step.request.backend? = some backend → backend.Spares p) ∧
      (Option.getD none Moment.newYear).stamp? = some "20240101T000000Z" ∧
      Queue.Storable p c "20240101T000000Z" ∧
      ((Queue.enqueue ⟨some p⟩ c none).on before).1 = .ok "test-ad-enable-20240101T000000Z-02" := by
  intro p h c steps before
  have lockable : h.Lockable p ["queue"] :=
    ⟨⟨by decide, by decide⟩, by decide, by decide, by decide, by decide⟩
  have empty : h.files.entries ["queue"] = [] := by decide
  have enqueues : ∀ step ∈ steps, ∃ c moment, step.request = .enqueue c moment := by
    intro step inside
    simp only [steps, List.mem_cons, List.not_mem_nil, or_false] at inside
    obtain rfl | rfl | rfl := inside
    all_goals exact ⟨_, _, rfl⟩
  have spares : ∀ step ∈ steps, ∀ backend, step.request.backend? = some backend →
      backend.Spares p := by
    intro step inside backend configured
    obtain ⟨c', moment, asked⟩ := enqueues step inside
    rw [asked] at configured
    cases configured
  have stamped : (Option.getD none Moment.newYear).stamp? = some "20240101T000000Z" := by
    decide +kernel
  have storable : Queue.Storable p c "20240101T000000Z" :=
    ⟨by decide +kernel, by decide +kernel⟩
  obtain ⟨n, -, answered, -, -, -, count⟩ :=
    enqueue_takes_next lockable empty spares c none .newYear stamped
  have two : min (steps.countP (Step.marks c.key "20240101T000000Z")) sequenceBound = 2 := by
    decide +kernel
  rw [count storable enqueues, two, Queue.answer_of_storable storable (by decide)] at answered
  exact ⟨lockable, empty, spares, stamped, storable, answered⟩

end Run

end AccountRelay
