import Mathlib.Data.List.Sort
import AccountRelay.Proofs.Queue
/-!
# The files of a directory in the order of their names

Two names in a directory differ, so a listing in ascending order is determined by which names it
holds. A new file whose name comes after all others is appended, and the first file that is removed
leaves the rest.
-/

namespace AccountRelay

namespace FileSystem

def HasFile (fs : FileSystem) (l : Location) (name : Text) : Prop :=
  ∃ mode content, fs.get? (l ++ [name]) = some (.file mode content)

instance (fs : FileSystem) (l : Location) (name : Text) : Decidable (fs.HasFile l name) :=
  match held : fs.get? (l ++ [name]) with
  | some (.file mode content) => .isTrue ⟨mode, content, held⟩
  | some .directory => .isFalse fun ⟨_, _, file⟩ => by rw [held] at file; cases file
  | none => .isFalse fun ⟨_, _, file⟩ => by rw [held] at file; cases file

/-- The names of the wanted files in the directory at the location, in ascending order. -/
def named (fs : FileSystem) (l : Location) (wanted : Text → Bool) : List Text :=
  Text.sort ((fs.entries l).filterMap fun (name, node) =>
    match node with
    | .file _ _ => if wanted name then some name else none
    | .directory => none)

theorem listed_eq_named (fs : FileSystem) (l : Location) :
    Queue.listed (fs.entries l) = fs.named l EntryName.isListed := rfl

variable {fs fs' : FileSystem} {l : Location} {wanted : Text → Bool} {name : Text}

theorem mem_named_iff : name ∈ fs.named l wanted ↔ wanted name = true ∧ fs.HasFile l name := by
  rw [named, (Text.sort_perm _).mem_iff, List.mem_filterMap]
  constructor
  · rintro ⟨⟨other, node⟩, inside, found⟩
    rw [mem_entries_iff] at inside
    cases node with
    | directory => cases found
    | file mode content =>
      by_cases kept : wanted other = true
      · simp only [kept, if_true, Option.some.injEq] at found
        subst found
        exact ⟨kept, mode, content, inside⟩
      · simp only [kept] at found
        cases found
  · rintro ⟨kept, mode, content, held⟩
    exact ⟨(name, .file mode content), (mem_entries_iff fs l name _).2 held, by simp [kept]⟩

theorem nodup_named : (fs.named l wanted).Nodup := by
  rw [named, (Text.sort_perm _).nodup_iff]
  refine List.Nodup.sublist ?_ (nodup_entries fs l)
  induction fs.entries l with
  | nil => exact List.Sublist.slnil
  | cons first rest ih =>
    obtain ⟨name, node⟩ := first
    rw [List.filterMap_cons]
    split
    · exact ih.cons name
    · rename_i kept found
      obtain rfl : name = kept := by
        cases node with
        | directory => cases found
        | file mode content =>
          by_cases wants : wanted name = true
          · simpa [wants] using found
          · simp [wants] at found
      exact ih.cons_cons name

theorem pairwise_named : (fs.named l wanted).Pairwise Text.Before := by
  have sorted : (fs.named l wanted).Pairwise fun s t => Text.le s t = true :=
    Text.pairwise_sort _
  refine (sorted.and nodup_named).imp ?_
  intro s t both
  obtain rfl | before | before := Text.eq_or_before_or_before s t
  · exact absurd rfl both.2
  · exact before
  · exact absurd before ((Text.le_iff_not_before s t).1 both.1)

theorem named_eq {names : List Text} (sorted : names.Pairwise Text.Before)
    (same : ∀ n, n ∈ names ↔ wanted n = true ∧ fs.HasFile l n) : fs.named l wanted = names := by
  apply pairwise_named.eq_of_mem_iff sorted
  intro n
  rw [mem_named_iff, same]

theorem named_congr (same : ∀ n, wanted n = true → (fs'.HasFile l n ↔ fs.HasFile l n)) :
    fs'.named l wanted = fs.named l wanted := by
  apply named_eq pairwise_named
  intro n
  rw [mem_named_iff]
  apply and_congr_right
  intro kept
  exact (same n kept).symm

theorem named_append (kept : wanted name = true) (new : fs'.HasFile l name)
    (last : ∀ n, wanted n = true → fs.HasFile l n → Text.Before n name)
    (others : ∀ n, wanted n = true → n ≠ name → (fs'.HasFile l n ↔ fs.HasFile l n)) :
    fs'.named l wanted = fs.named l wanted ++ [name] := by
  apply named_eq
  · rw [List.pairwise_append]
    refine ⟨pairwise_named, List.pairwise_singleton _ _, ?_⟩
    intro n inside m here
    obtain rfl := List.mem_singleton.1 here
    rw [mem_named_iff] at inside
    exact last n inside.1 inside.2
  · intro n
    rw [List.mem_append, List.mem_singleton, mem_named_iff]
    by_cases same : n = name
    · subst same
      simp [kept, new]
    · simp only [same, or_false]
      apply and_congr_right
      intro wants
      exact (others n wants same).symm

theorem named_cons (kept : wanted name = true) (old : fs.HasFile l name)
    (gone : ¬ fs'.HasFile l name)
    (first : ∀ n, wanted n = true → fs.HasFile l n → n ≠ name → Text.Before name n)
    (others : ∀ n, wanted n = true → n ≠ name → (fs'.HasFile l n ↔ fs.HasFile l n)) :
    fs.named l wanted = name :: fs'.named l wanted := by
  apply named_eq
  · rw [List.pairwise_cons]
    refine ⟨?_, pairwise_named⟩
    intro n inside
    rw [mem_named_iff] at inside
    have other : n ≠ name := by
      rintro rfl
      exact gone inside.2
    exact first n inside.1 ((others n inside.1 other).1 inside.2) other
  · intro n
    rw [List.mem_cons, mem_named_iff]
    by_cases same : n = name
    · subst same
      simp [kept, old]
    · simp only [same, false_or]
      apply and_congr_right
      intro wants
      exact others n wants same

/-! ## The entries of a queue -/

theorem hasFile_congr {before after : FileSystem} {l : Location} {name : Text}
    (same : after.get? (l ++ [name]) = before.get? (l ++ [name])) :
    after.HasFile l name ↔ before.HasFile l name := by
  rw [HasFile, HasFile, same]

/-- The lock file is no entry, so making it changes no listing. -/
theorem LockMade.named {p : Path} {before after : FileSystem} (made : LockMade p before after)
    (leads : before.LeadsTo p l) (lock : wanted QueueLock.fileName = false) :
    after.named l wanted = before.named l wanted := by
  apply named_congr
  intro n wants
  apply hasFile_congr
  apply made.get?_of_ne leads
  intro same
  rw [below_injective same, lock] at wants
  cases wants

end FileSystem

theorem EntryName.ne_lock_of_isListed {name : Text} (listed : isListed name = true) :
    name ≠ QueueLock.fileName := by
  rintro rfl
  exact absurd listed (by decide)

namespace Queue

theorem entries_configured (p : Path) :
    entries ⟨some p⟩ = withLock p (listed <$> Act.search p) := by
  rw [← bind_pure_comp]
  rfl

theorem keeps_entries (p : Path) : (entries ⟨some p⟩).Keeps (Host.Idle p) := by
  rw [entries_configured]
  exact keeps_withLock ((keeps_search p).map _)

theorem entries_cases (p : Path) (h : Host) :
    (∃ e h', h.Idle p h' ∧ (entries ⟨some p⟩).on h = (.error e, h')) ∨
      ∃ found h', h.Idle p h' ∧ h'.files.list p = .ok found ∧
        (entries ⟨some p⟩).on h = (.ok (listed found), h') := by
  have idle := keeps_entries p h
  rw [entries_configured] at idle ⊢
  obtain ⟨e, h', idle', failed⟩ | ⟨l, files, -, -, -, done⟩ :=
    withLock_cases p (listed <$> Act.search p) h
  · exact .inl ⟨e, h', idle', failed⟩
  · rw [done] at idle ⊢
    rw [Act.on_map, Act.search_on] at idle ⊢
    by_cases nul : p.hasNul = true
    · rw [if_pos nul] at idle ⊢
      exact .inl ⟨_, _, idle, rfl⟩
    · rw [if_neg nul] at idle ⊢
      change (∃ e h', _ ∧ (Except.map listed (Except.mapError _ (files.list p)), _) = _) ∨
        ∃ found h', _ ∧ _ ∧ (Except.map listed (Except.mapError _ (files.list p)), _) = _
      cases found : files.list p with
      | error e => exact .inl ⟨_, _, idle, rfl⟩
      | ok found' => exact .inr ⟨found', _, idle, found, rfl⟩

theorem entries_of_lockable {p : Path} {l : Location} {h : Host} (lockable : h.Lockable p l) :
    ∃ h', h.Idle p h' ∧
      (entries ⟨some p⟩).on h = (.ok (h.files.named l EntryName.isListed), h') := by
  have idle := keeps_entries p h
  obtain ⟨files, made, done⟩ := lockable.withLock (listed <$> Act.search p)
  have leads : (h.lock (l ++ [QueueLock.fileName]) files).files.LeadsTo p l :=
    made.leadsTo lockable.leads
  rw [← entries_configured, Act.on_map, search_of_leadsTo lockable.nul leads] at done
  refine ⟨_, idle, ?_⟩
  rw [done]
  change (Except.ok (listed (files.entries l)), _) = _
  rw [FileSystem.listed_eq_named, made.named lockable.leads rfl]

theorem lockable_of_entries {p : Path} {l : Location} {h h' : Host} {names : List Text}
    (leads : h.files.LeadsTo p l) (done : (entries ⟨some p⟩).on h = (.ok names, h')) :
    h.Lockable p l := by
  rw [entries_configured] at done
  obtain ⟨e, h', -, failed⟩ | ⟨m, files, nul, opened, free, -⟩ :=
    withLock_cases p (listed <$> Act.search p) h
  · rw [failed] at done
    cases done
  · exact Host.lockable_of_opened leads nul opened free

theorem lock_of_entries {p : Path} {l : Location} {h h' : Host} {names : List Text}
    (leads : h.files.LeadsTo p l) (done : (entries ⟨some p⟩).on h = (.ok names, h')) :
    h'.files.get? (l ++ [QueueLock.fileName]) =
      some ((h.files.get? (l ++ [QueueLock.fileName])).getD (.file QueueLock.fileMode [])) := by
  rw [entries_configured] at done
  obtain ⟨e, h', -, failed⟩ | ⟨m, files, -, opened, -, listed⟩ :=
    withLock_cases p (listed <$> Act.search p) h
  · rw [failed] at done
    cases done
  · have same : h'.files = files := by
      rw [done] at listed
      rw [(Prod.mk.inj listed).2, Act.on_map, Act.search_on]
      rfl
    rw [same]
    obtain ⟨located, held⟩ := FileSystem.of_openOrCreate opened
    rw [leads.locate_join QueueLock.isPart_fileName] at located
    split at located
    · cases located
      obtain ⟨free, rfl⟩ | ⟨⟨mode, content, file⟩, rfl⟩ := held
      · rw [free, FileSystem.get?_set_self h.files _ (FileSystem.below_ne_nil l _)]
        rfl
      · rw [file]
        rfl
    · cases located

end Queue

end AccountRelay
