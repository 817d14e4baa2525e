import AccountRelay.Proofs.Content
import AccountRelay.Proofs.Queue
/-!
# An entry gives its change back

What was put into a queue is read back from it under the name that it got there: the account, the
domain, the operation and the password, and the key of the name is that of the change. The exact
condition is that the change is readable. Only newlines are kept out of the fields, and a reader
also ends lines at carriage returns.
-/

namespace AccountRelay

namespace Queue

theorem Added.read {p : Path} {c : Change} {time : Moment} {second : Text} {sequence : Nat}
    {content : Bytes} {before after : FileSystem}
    (added : Added p c time second sequence content before after) :
    (p.join (EntryName.compose c.key second sequence)).hasNul = false ∧
      after.read (p.join (EntryName.compose c.key second sequence)) = .ok content := by
  have part := EntryName.isPart_compose c sequence added.stamped
  have tame := EntryName.tame_compose c sequence added.stamped
  refine ⟨?_, ?_⟩
  · rw [Path.hasNul_join p part, added.named]
    simpa using tame.nul_not_mem
  · obtain ⟨mid, found, free, made, listed, among, low, created⟩ := added.made
    obtain ⟨m, located, new, rfl⟩ := FileSystem.of_create created
    have other : mid.get? m ≠ some .directory := by simp [new]
    have located' := @FileSystem.locate_of_directories mid (mid.set m _) _ m rfl
      (FileSystem.get?_set_directory other (.file entryMode content)) located
    simp only [FileSystem.read, located', bind, Except.bind,
      FileSystem.get?_set_self mid _ (FileSystem.ne_nil_of_get?_ne other)]
    rfl

theorem read_configured (p : Path) (name : Text) :
    Queue.read ⟨some p⟩ name = Entry.read (p.join name) := rfl

/-- A readable change that was put into the queue is read back from it, and no other one is. -/
theorem read_enqueued (q : Queue) (c : Change) (moment : Option Moment) (h h' : Host) (name : Text)
    (enqueued : (q.enqueue c moment).on h = (.ok name, h')) :
    (c.Readable → ∃ e, (q.read name).on h' = (.ok e, h') ∧ e.account = c.account ∧
      e.domain = c.domain ∧ e.operation = c.operation ∧ e.password = c.password ∧
      e.key? = .ok c.key) ∧
      (¬ c.Readable → ∃ f, (q.read name).on h' = (.error f, h')) := by
  obtain ⟨_ | p⟩ := q
  · cases enqueued
  · obtain ⟨e, h', idle, failed⟩ | ⟨name, h', ⟨⟨-, second, sequence, content, rfl, added⟩, -⟩, done⟩ :=
      enqueue_cases p c moment h
    · rw [enqueued] at failed
      cases failed
    · rw [enqueued] at done
      cases done
      obtain ⟨named, read⟩ := added.read
      have opened : (Queue.read ⟨some p⟩ (EntryName.compose c.key second sequence)).on h' =
          (Entry.ofBytes (p.join (EntryName.compose c.key second sequence)) content, h') := by
        rw [read_configured, Entry.read_on, named, read]
        rfl
      rw [opened]
      obtain ⟨readable, holds⟩ | ⟨unreadable, f, failed⟩ := Entry.ofBytes_content
        (p.join (EntryName.compose c.key second sequence)) added.encoded
      · constructor
        · intro _
          refine ⟨_, by rw [holds], rfl, rfl, rfl, rfl, ?_⟩
          have part := EntryName.isPart_compose c sequence added.stamped
          rw [Entry.key?, Entry.name, Path.name_join p part]
          exact EntryName.key?_compose c sequence (EntryName.hyphen_not_mem_stamp? added.stamped)
        · intro broken
          exact absurd readable broken
      · constructor
        · intro readable
          exact absurd readable unreadable
        · intro _
          exact ⟨f, by rw [failed]⟩

/-- The password may end in a carriage return, and the user hold hyphens. -/
theorem read_enqueued_hyphens :
    let h := Host.withDirectory "queue" .newYear
    let q : Queue := ⟨some ⟨[], ["queue"]⟩⟩
    let c : Change := ⟨⟨["host", "a-ad-enable-"], "EXAMPLE.COM"⟩, .ad,
      .setPassword ⟨"one two\r", by decide, by decide, by decide⟩⟩
    c.Readable ∧
      (q.enqueue c none).on h =
        (.ok "host.a-ad-enable--ad-password-20240101T000000Z-00", ((q.enqueue c none).on h).2) ∧
      ∃ e, (q.read "host.a-ad-enable--ad-password-20240101T000000Z-00").on
          ((q.enqueue c none).on h).2 = (.ok e, ((q.enqueue c none).on h).2) ∧
        e.account = c.account ∧ e.domain = c.domain ∧ e.operation = c.operation ∧
        e.password = c.password ∧ e.key? = .ok c.key := by
  intro h q c
  have readable : c.Readable :=
    ⟨by decide +kernel, by decide +kernel, fun t given => by cases given; decide +kernel⟩
  have enqueued : (q.enqueue c none).on h =
      (.ok "host.a-ad-enable--ad-password-20240101T000000Z-00", ((q.enqueue c none).on h).2) :=
    Act.on_eq_of_fst (by decide +kernel)
  exact ⟨readable, enqueued, (read_enqueued q c none h _ _ enqueued).1 readable⟩

/-- A carriage return inside a password is accepted, and its entry cannot be read. -/
theorem read_enqueued_fails_inside_password :
    let h := Host.withDirectory "queue" .newYear
    let q : Queue := ⟨some ⟨[], ["queue"]⟩⟩
    let c : Change := ⟨⟨["test"], []⟩, .ad, .setPassword ⟨"one\rtwo", by decide, by decide, by decide⟩⟩
    ((q.enqueue c none).on h).1 = .ok "test-ad-password-20240101T000000Z-00" ∧
      ((q.read "test-ad-password-20240101T000000Z-00").on ((q.enqueue c none).on h).2).1 =
        .error (.parse (.unterminatedLine ⟨[], ["queue", "test-ad-password-20240101T000000Z-00"]⟩)) := by
  decide +kernel

end Queue

end AccountRelay
