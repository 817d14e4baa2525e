import AccountRelay.Proofs.Queue
/-!
# An entry is there whole or not at all

A change is encoded, its moment is stamped and the directory is searched before a file is made for
it, and the file is made at once with all its content. So there is no state in between: either a
new file holds the whole change under a name that nothing had, or there is no new file. Whatever
else is there stays as it is. Only the lock file is made, where the queue has none yet.
-/

namespace AccountRelay

namespace Queue

/-- What the location holds is the lock file of the queue, empty and new. -/
structure LockNew (q : Queue) (before after : FileSystem) (m : Location) : Prop where
  place : ∃ p l, q.configured = some p ∧ before.LeadsTo p l ∧ m = l ++ [QueueLock.fileName]
  absent : before.get? m = none
  held : after.get? m = some (.file 0o644 [])

/-- Outside of some locations nothing has changed, but that the lock file may be new. -/
structure KeepsBut (q : Queue) (changed : List Location) (before after : FileSystem) : Prop where
  home : after.home = before.home
  rest : ∀ m ∉ changed, after.get? m = before.get? m ∨ q.LockNew before after m

/-- What an attempt to put a change into the queue leaves, by its result. -/
inductive Leaves (q : Queue) (c : Change) (before after : FileSystem) :
    Except Failure (Option Text) → Prop where
  | added {p : Path} {l : Location} {name : Text} {content : Bytes}
    (configured : q.configured = some p) (leads : before.LeadsTo p l)
    (located : before.locate (p.join name) = .ok (l ++ [name]))
    (encoded : Text.encode? (c.lines.flatMap fun line => line ++ [.char '\n']) = some content)
    (absent : before.get? (l ++ [name]) = none)
    (held : after.get? (l ++ [name]) = some (.file 0o600 content))
    (kept : q.KeepsBut [l ++ [name]] before after) : Leaves q c before after (.ok (some name))
  | spared (kept : q.KeepsBut [] before after) : Leaves q c before after (.ok none)
  | failed {e : Failure} (kept : q.KeepsBut [] before after) : Leaves q c before after (.error e)

section Leaves

variable {q : Queue} {p : Path} {c : Change} {before mid after : FileSystem}

theorem KeepsBut.refl (q : Queue) (changed : List Location) (fs : FileSystem) :
    q.KeepsBut changed fs fs := ⟨rfl, fun _ _ => .inl rfl⟩

theorem keepsBut_of_lockMade (configured : q.configured = some p)
    (made : before.LockMade p after) (changed : List Location) : q.KeepsBut changed before after := by
  obtain rfl | ⟨l, leads, absent, rfl⟩ := made.eq_or_eq_set
  · exact .refl q changed after
  · refine ⟨rfl, ?_⟩
    intro m _
    by_cases lock : m = l ++ [QueueLock.fileName]
    · subst lock
      exact .inr ⟨⟨p, l, configured, leads, rfl⟩, absent,
        FileSystem.get?_set_self before _ (FileSystem.below_ne_nil l _)⟩
    · exact .inl (FileSystem.get?_set_of_ne before _ lock)

theorem KeepsBut.set {changed : List Location} (kept : q.KeepsBut changed before mid) {m : Location}
    (inside : m ∈ changed) (node : Node) : q.KeepsBut changed before (mid.set m node) := by
  refine ⟨kept.home, ?_⟩
  intro k outside
  have same : (mid.set m node).get? k = mid.get? k := by
    apply FileSystem.get?_set_of_ne
    rintro rfl
    exact outside inside
  obtain unchanged | new := kept.rest k outside
  · exact .inl (same.trans unchanged)
  · exact .inr ⟨new.place, new.absent, same.trans new.held⟩

theorem Added.leaves {time : Moment} {second : Text} {sequence : Nat} {content : Bytes}
    (configured : q.configured = some p)
    (added : Added p c time second sequence content before after) :
    q.Leaves c before after (.ok (some (EntryName.compose c.key second sequence))) := by
  obtain ⟨l, leads⟩ := added.exists_leadsTo
  obtain ⟨absent, held⟩ := added.get?_self leads
  have located := leads.locate_join (EntryName.isPart_compose c sequence added.stamped)
  rw [if_pos (added.admitted leads)] at located
  refine .added configured leads located added.encoded absent held ?_
  obtain ⟨mid, -, -, made, -, -, -, -, -, rfl⟩ := added.set leads
  exact (keepsBut_of_lockMade configured made _).set (List.mem_singleton_self _) _

end Leaves

/-- Whether or not an entry is wanted only behind another one, there is afterwards a new file with the
whole change in it, or everything is as it was. -/
theorem enqueue_leaves (q : Queue) (c : Change) (moment : Option Moment) (h : Host) :
    q.Leaves c h.files ((q.enqueue c moment).on h).2.files
        (((q.enqueue c moment).on h).1.map some) ∧
      q.Leaves c h.files ((q.enqueueBehind c moment).on h).2.files
        ((q.enqueueBehind c moment).on h).1 := by
  obtain ⟨none | p⟩ := q
  · exact ⟨.failed (.refl _ _ _), .failed (.refl _ _ _)⟩
  · constructor
    · obtain ⟨e, h', idle, failed⟩ | ⟨name, h', enqueued, done⟩ := enqueue_cases p c moment h
      · rw [failed]
        exact .failed (keepsBut_of_lockMade rfl idle.files _)
      · rw [done]
        obtain ⟨-, second, sequence, content, rfl, added⟩ := enqueued.written
        exact added.leaves rfl
    · obtain ⟨e, h', idle, failed⟩ | ⟨h', idle, -, done⟩ | ⟨name, h', enqueued, -, done⟩ :=
        enqueueBehind_cases p c moment h
      · rw [failed]
        exact .failed (keepsBut_of_lockMade rfl idle.files _)
      · rw [done]
        exact .spared (keepsBut_of_lockMade rfl idle.files _)
      · rw [done]
        obtain ⟨-, second, sequence, content, rfl, added⟩ := enqueued.written
        exact added.leaves rfl

end Queue

end AccountRelay
