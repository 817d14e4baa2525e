import AccountRelay.Proofs.Queue
/-!
# When a change is not taken

Putting a change into a queue can fail because the queue is not configured, or because of the
operating system, the encoding of the change or the number of its entries. One thing more is in its
way: the search for the next sequence number reads the end of every name with the key and the second
of the change as a number. If a name ends in digits that make up none, the search fails on it, and
no change with this key is taken within this second.
-/

namespace AccountRelay

/-- A failure that the callers of a queue are told to expect. -/
def Failure.Expected (e : Failure) : Prop := e.kind = .config ∨ e.kind = .system

instance (e : Failure) : Decidable e.Expected := inferInstanceAs (Decidable (_ ∨ _))

namespace Queue

/-- The change can be encoded, and behind its key and second a name in the directory has these digits,
which make up no number. -/
structure Jams (fs : FileSystem) (l : Location) (c : Change) (second digits : Text) : Prop where
  encodable : (content? c).isSome = true
  held : (fs.get? (l ++ [c.key ++ second ++ "-" ++ digits])).isSome = true
  valueless : digits.Valueless

/-- The queue is there, its lock can be taken, and the digits are in the way of the change. -/
def Jammed (q : Queue) (c : Change) (second : Text) (h : Host) (digits : Text) : Prop :=
  ∃ p l, q.configured = some p ∧ h.Lockable p l ∧ Jams h.files l c second digits

/-- Where no digits are in the way, all failures are expected ones. Where some are, the attempt fails
over such digits, and not as expected. -/
structure Trips {α : Type} (blocks : Text → Prop) (result : Except Failure α) : Prop where
  clear : (∀ digits, ¬ blocks digits) → ∀ e, result = .error e → e.Expected
  jammed : (∃ digits, blocks digits) →
    ∃ digits, blocks digits ∧ result = .error (.fault (.notANumber digits))

theorem Trips.of_expected {α : Type} {blocks : Text → Prop} {result : Except Failure α}
    (free : ∀ digits, ¬ blocks digits) (expected : ∀ e, result = .error e → e.Expected) :
    Trips blocks result :=
  ⟨fun _ => expected, fun ⟨digits, here⟩ => absurd here (free digits)⟩

theorem Trips.of_jammed {α : Type} {blocks : Text → Prop} {digits : Text} (here : blocks digits) :
    Trips blocks (.error (.fault (.notANumber digits)) : Except Failure α) :=
  ⟨fun free => absurd here (free digits), fun _ => ⟨digits, here, rfl⟩⟩

theorem Trips.congr {α : Type} {blocks blocks' : Text → Prop} {result : Except Failure α}
    (same : ∀ digits, blocks digits ↔ blocks' digits) (trips : Trips blocks result) :
    Trips blocks' result := by
  have predicates : blocks = blocks' := funext fun digits => propext (same digits)
  rwa [← predicates]

theorem Trips.map {α β : Type} {blocks : Text → Prop} {result : Except Failure α}
    (trips : Trips blocks result) (f : α → β) : Trips blocks (result.map f) := by
  cases result with
  | error e =>
    refine ⟨?_, ?_⟩
    · rintro free _ ⟨⟩
      exact trips.clear free e rfl
    · intro there
      obtain ⟨digits, here, failed⟩ := trips.jammed there
      cases failed
      exact ⟨digits, here, rfl⟩
  | ok a =>
    refine ⟨fun _ => nofun, ?_⟩
    intro there
    obtain ⟨digits, -, failed⟩ := trips.jammed there
    cases failed

/-! ## Under the lock -/

section Lock

variable {p : Path} {l : Location} {c : Change} {moment : Option Moment} {second : Text}

/-- If no file can be made for an entry, the operating system is to blame, or all numbers are taken. -/
theorem expected_of_createFrom (directory : Path) (key second : Text) (content : Bytes)
    (sequence tries : Nat) (h : Host) {e : Failure}
    (failed : ((createFrom directory key second content sequence tries).on h).1 = .error e) :
    e.Expected := by
  induction tries generalizing sequence h with
  | zero =>
    cases failed
    exact .inr rfl
  | succ tries ih =>
    rw [createFrom_succ_on] at failed
    simp only at failed
    split at failed
    · cases failed
    · exact ih _ _ failed
    · cases failed
      exact .inr rfl

theorem write_trips (h : Host) (named : p.hasNul = false) (leads : h.files.LeadsTo p l)
    (stamped : (moment.getD h.clock).stamp? = some second) :
    Trips (Jams h.files l c second) ((write p c moment).on h).1 := by
  cases encoded : content? c with
  | none =>
    have failed : ((write p c moment).on h).1 = .error (.storage (.encoding c.account)) := by
      simp only [write, encoded]
      rfl
    refine .of_expected ?_ ?_
    · rintro digits ⟨encodable, -, -⟩
      rw [encoded] at encodable
      cases encodable
    · rw [failed]
      rintro e ⟨⟩
      exact .inr rfl
  | some content =>
    rw [write_on p encoded stamped]
    have searched := freeSequence_of_leadsTo named leads c.key second
    obtain ⟨digits, valueless, inside, failed⟩ | ⟨clear, free, found⟩ :=
      EntryName.sequenceAmong_cases (c.key ++ second ++ "-") ((h.files.entries l).map Prod.fst)
    · rw [failed] at searched
      rw [Act.on_bind_of_error h _ searched]
      rw [FileSystem.name_mem_entries_iff] at inside
      exact .of_jammed ⟨by rw [encoded]; rfl, inside, valueless⟩
    · rw [found] at searched
      rw [Act.on_bind_of_ok h _ searched]
      refine .of_expected ?_ fun e => expected_of_createFrom _ _ _ _ _ _ _
      rintro digits ⟨-, held, valueless⟩
      rw [← FileSystem.name_mem_entries_iff] at held
      exact clear digits valueless held

/-- A name that gets in the way starts with the key, so it counts as one to queue up behind. -/
theorem writeBehind_trips (h : Host) (named : p.hasNul = false) (leads : h.files.LeadsTo p l)
    (stamped : (moment.getD h.clock).stamp? = some second) :
    Trips (Jams h.files l c second) ((writeBehind p c moment).on h).1 := by
  unfold writeBehind scan
  rw [Act.on_bind, Act.on_bind_of_ok h _ (search_of_leadsTo named leads)]
  simp only [Act.on_pure]
  split
  · rw [bind_pure_comp, Act.on_map]
    exact (write_trips (h.record (.searched p)) named leads stamped).map some
  · rename_i none
    refine .of_expected ?_ nofun
    rintro digits ⟨-, held, -⟩
    rw [← FileSystem.name_mem_entries_iff] at held
    obtain ⟨entry, inside, named⟩ := List.mem_map.1 held
    refine none (List.any_eq_true.2 ⟨entry, inside, ?_⟩)
    rw [named, Text.startsWith_iff]
    exact ⟨second ++ "-" ++ digits, by simp only [List.append_assoc]⟩

end Lock

/-! ## Operations -/

section Operations

variable {q : Queue} {p : Path} {l : Location} {h : Host} {c : Change} {second : Text}

theorem jams_of_lockMade {before after : FileSystem} (made : before.LockMade p after)
    (leads : before.LeadsTo p l) (digits : Text) :
    Jams after l c second digits ↔ Jams before l c second digits := by
  have other : c.key ++ second ++ Text.ofString "-" ++ digits ≠ QueueLock.fileName := by
    intro same
    have hyphen : Symbol.char '-' ∈ c.key ++ second ++ Text.ofString "-" ++ digits :=
      List.mem_append_left _ (List.mem_append_right _ List.mem_cons_self)
    rw [same] at hyphen
    exact absurd hyphen (by decide)
  have held := made.get?_below leads other
  constructor
  · rintro ⟨encodable, there, valueless⟩
    exact ⟨encodable, held ▸ there, valueless⟩
  · rintro ⟨encodable, there, valueless⟩
    exact ⟨encodable, held.symm ▸ there, valueless⟩

theorem withLock_trips {α : Type} {act : Act α} (configured : q.configured = some p)
    (named : p.hasNul = false) (under : ∀ l h', h'.clock = h.clock → h'.files.LeadsTo p l →
      Trips (Jams h'.files l c second) (act.on h').1) :
    Trips (q.Jammed c second h) ((withLock p act).on h).1 := by
  obtain ⟨free, e, failed, system⟩ | ⟨l, files, lockable, made, same⟩ :=
    withLock_of_named named act h
  · refine .of_expected ?_ ?_
    · rintro digits ⟨p', l, configured', lockable, -⟩
      cases configured.symm.trans configured'
      exact free l lockable
    · rw [failed]
      rintro e ⟨⟩
      exact .inr system
  · rw [same]
    refine (under l (h.lock _ files) rfl (made.leadsTo lockable.leads)).congr ?_
    intro digits
    refine (jams_of_lockMade made lockable.leads digits).trans ⟨?_, ?_⟩
    · intro jams
      exact ⟨p, l, configured, lockable, jams⟩
    · rintro ⟨p', l', configured', lockable', jams⟩
      cases configured.symm.trans configured'
      cases lockable.leads.located.symm.trans lockable'.leads.located
      exact jams

/-- At a moment that the calendar has, a queue whose path can name a directory takes a change, or
fails as expected, unless digits that make up no number stand behind its key and second. -/
theorem enqueue_trips (q : Queue) (c : Change) (moment : Option Moment) (h : Host) {second : Text}
    (named : ∀ p, q.configured = some p → p.hasNul = false)
    (stamped : (moment.getD h.clock).stamp? = some second) :
    Trips (q.Jammed c second h) ((q.enqueue c moment).on h).1 ∧
      Trips (q.Jammed c second h) ((q.enqueueBehind c moment).on h).1 := by
  obtain ⟨none | p⟩ := q
  · have free (digits : Text) : ¬ Jammed ⟨none⟩ c second h digits := by
      rintro ⟨p, -, configured, -⟩
      cases configured
    have expected {α : Type} (e : Failure)
        (failed : (.error (.config .queueMissing) : Except Failure α) = .error e) : e.Expected := by
      cases failed
      exact .inl rfl
    exact ⟨.of_expected free expected, .of_expected free expected⟩
  · have named := named p rfl
    rw [enqueue_configured, enqueueBehind_configured]
    constructor
    · rw [Act.fst_on_bind fun _ _ => rfl]
      exact withLock_trips rfl named fun l h' clock leads =>
        write_trips h' named leads (clock ▸ stamped)
    · rw [Act.fst_on_bind]
      · exact withLock_trips rfl named fun l h' clock leads =>
          writeBehind_trips h' named leads (clock ▸ stamped)
      · intro name h'
        cases name <;> rfl

end Operations

/-- The sequence number of an old file is written as a superscript. -/
theorem enqueue_trips_over_superscript :
    let second : Text := "20240101T000000Z"
    let files := (Host.withDirectory "queue" .newYear).files.set
      ["queue", "test-ad-enable-20240101T000000Z-²"] (.file 0o600 [])
    let h := { Host.withDirectory "queue" .newYear with files := files }
    let q : Queue := ⟨some ⟨[], ["queue"]⟩⟩
    let c : Change := ⟨⟨["test"], []⟩, .ad, .enable⟩
    (∀ p, q.configured = some p → p.hasNul = false) ∧
      (Option.getD none h.clock).stamp? = some second ∧
      Trips (q.Jammed c second h) ((q.enqueue c none).on h).1 ∧
      Trips (q.Jammed c second h) ((q.enqueueBehind c none).on h).1 := by
  intro second files h q c
  have named : ∀ p, q.configured = some p → p.hasNul = false := by
    rintro p ⟨⟩
    decide
  have stamped : (Option.getD none h.clock).stamp? = some second := by decide +kernel
  exact ⟨named, stamped, enqueue_trips q c none h named stamped⟩

/-- Neither attempt on this change returns, nor fails as expected. -/
theorem enqueue_unexpected_at_superscript :
    let files := (Host.withDirectory "queue" .newYear).files.set
      ["queue", "test-ad-enable-20240101T000000Z-²"] (.file 0o600 [])
    let h := { Host.withDirectory "queue" .newYear with files := files }
    let directory : Path := ⟨[], ["queue"]⟩
    let c : Change := ⟨⟨["test"], []⟩, .ad, .enable⟩
    directory.hasNul = false ∧ h.clock.stamp?.isSome = true ∧
      ((enqueue ⟨some directory⟩ c none).on h).1 = .error (.fault (.notANumber "²")) ∧
      ((enqueueBehind ⟨some directory⟩ c none).on h).1 = .error (.fault (.notANumber "²")) ∧
      ¬ (Failure.fault (.notANumber "²")).Expected := by
  decide +kernel

end Queue

end AccountRelay
