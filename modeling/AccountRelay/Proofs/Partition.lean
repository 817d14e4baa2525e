import AccountRelay.Proofs.Overtaking
/-!
# What a drain tells about the files of a directory

A drain that returns tells all listed files apart: those that were replayed are gone, those that have
failed or were skipped are left. Within a key they come in this order, and at most one has failed. The
directory has lost the replayed files, has the lock file, and is otherwise as it was.
-/

namespace AccountRelay

theorem Replay.Ends.held_of_ne {backend : Backend} {defaultRealm : Text} {p : Path} {l : Location}
    {name other : Text} {h h' : Host} {result : Except Failure Entry} (spares : backend.Spares p)
    (leads : h.files.LeadsTo p l) (part : name.IsPart) (different : other ≠ name)
    (ends : Replay.Ends .never backend defaultRealm (p.join name) h result h') :
    h'.files.get? (l ++ [other]) = h.files.get? (l ++ [other]) := by
  cases result with
  | ok entry =>
    obtain ⟨call, -, removed⟩ := ends.removed spares leads part
    exact removed.held other different
  | error e =>
    cases ends with
    | nul => rfl
    | unread => rfl
    | malformed => rfl
    | nameless => rfl
    | refused ready still called =>
      rw [← still.files] at leads ⊢
      exact (Backend.of_deliver_error called).2.1.get?_below spares leads other
    | kept ready still called failed =>
      rw [(ready.unlink spares leads part still (Backend.of_deliver_ok called).1).1] at failed
      cases failed

namespace Drain

variable {backend : Backend} {defaultRealm : Text} {fs before after : FileSystem} {p : Path}
  {l : Location} {name m n : Text} {names rest blocked : List Text} {r r' : Drained}
  {calls : List Call} {h h' : Host} {result : Except Failure Drained}

theorem Ends.held_of_not_mem (spares : backend.Spares p)
    (ends : Ends backend defaultRealm p blocked r names h result h') (ahead : Ahead fs p l names h)
    (out : n ∉ names) : h'.files.get? (l ++ [n]) = h.files.get? (l ++ [n]) := by
  induction ends with
  | nil => rfl
  | skipped behind still after ih =>
    rw [ih (ahead.unmoved ((still.idle p).unmoved ahead.leads)) (List.not_mem_of_not_mem_cons out),
      still.files]
  | replayed free done after ih =>
    obtain ⟨part, -, -⟩ := ahead.proper _ List.mem_cons_self
    have ends := ends_of_replay done
    obtain ⟨call, -, removed⟩ := ends.removed spares ahead.leads part
    rw [ih (ahead.removed removed) (List.not_mem_of_not_mem_cons out)]
    exact ends.held_of_ne spares ahead.leads part (List.ne_of_not_mem_cons out)
  | failed free done kind still after ih =>
    obtain ⟨part, -, -⟩ := ahead.proper _ List.mem_cons_self
    have tail := ahead.unmoved (ahead.unmoved_of_failed spares done still)
    rw [ih tail (List.not_mem_of_not_mem_cons out), still.files]
    exact (ends_of_replay done).held_of_ne spares ahead.leads part (List.ne_of_not_mem_cons out)
  | vanished free done kind gone still after ih =>
    obtain ⟨part, -, -⟩ := ahead.proper _ List.mem_cons_self
    have tail := ahead.unmoved (ahead.unmoved_of_failed spares done still)
    rw [ih tail (List.not_mem_of_not_mem_cons out), still.files]
    exact (ends_of_replay done).held_of_ne spares ahead.leads part (List.ne_of_not_mem_cons out)
  | aborted free done other =>
    obtain ⟨part, -, -⟩ := ahead.proper _ List.mem_cons_self
    exact (ends_of_replay done).held_of_ne spares ahead.leads part (List.ne_of_not_mem_cons out)

/-! ## The lists -/

/-- What a chain has added to the lists comes from the names, in their order. -/
structure Adds (names : List Text) (r r' : Drained) : Prop where
  replayed : r'.replayed.Sublist (r.replayed ++ names)
  failed : r'.failed.Sublist (r.failed ++ names)
  skipped : r'.skipped.Sublist (r.skipped ++ names)

theorem Ends.adds (ends : Ends backend defaultRealm p blocked r names h result h')
    (returned : result = .ok r') : Adds names r r' := by
  have longer (first : List Text) (name : Text) (rest : List Text) :
      (first ++ rest).Sublist (first ++ name :: rest) :=
    (List.sublist_cons_self name rest).append_left first
  induction ends with
  | nil =>
    cases returned
    simp [Adds.mk]
  | @skipped blocked r name rest h h₁ h' result behind still after ih =>
    obtain ⟨replayed, failed, skipped⟩ := ih returned
    rw [List.append_assoc] at skipped
    exact ⟨replayed.trans (longer _ _ _), failed.trans (longer _ _ _), skipped⟩
  | @replayed blocked r name rest h h₁ h' entry result free done after ih =>
    obtain ⟨replayed, failed, skipped⟩ := ih returned
    rw [List.append_assoc] at replayed
    exact ⟨replayed, failed.trans (longer _ _ _), skipped.trans (longer _ _ _)⟩
  | @failed blocked r name rest h h₁ h₂ h' e result free done kind still after ih =>
    obtain ⟨replayed, failed, skipped⟩ := ih returned
    rw [List.append_assoc] at failed
    exact ⟨replayed.trans (longer _ _ _), failed, skipped.trans (longer _ _ _)⟩
  | vanished free done kind gone still after ih =>
    obtain ⟨replayed, failed, skipped⟩ := ih returned
    exact ⟨replayed.trans (longer _ _ _), failed.trans (longer _ _ _),
      skipped.trans (longer _ _ _)⟩
  | aborted free done other => cases returned

theorem Settles.not_held_of_gone
    (settles : Settles defaultRealm before after p l blocked r names result calls)
    (sorted : names.Pairwise Text.Before) (returned : result = .ok r') (inside : n ∈ names)
    (gone : ¬ after.HasFile l n) : ¬ Held after l blocked names n := by
  induction settles with
  | nil => cases inside
  | skipped behind left tail ih =>
    obtain rfl | inside := List.mem_cons.1 inside
    · exact absurd left gone
    · rw [held_cons_of_blocked behind]
      exact ih sorted.of_cons returned inside
  | replayed free passes absent tail ih =>
    obtain rfl | inside := List.mem_cons.1 inside
    · rw [held_self sorted]
      exact free
    · rw [held_cons_of_gone absent]
      exact ih sorted.of_cons returned inside
  | failed free passes left tail ih =>
    obtain rfl | later := List.mem_cons.1 inside
    · exact absurd left gone
    · rw [held_cons_of_left (List.rel_of_pairwise_cons sorted later) left]
      exact ih sorted.of_cons returned later
  | stopped free stops => cases returned

/-! ## The files of one key -/

theorem before_of_not_behind (free : ¬ Behind after l names n) (other : m ∈ names)
    (different : n ≠ m) (key : keyOrName n = keyOrName m) (left : after.HasFile l m) :
    Text.Before n m := by
  obtain same | before | before := Text.eq_or_before_or_before n m
  · exact absurd same different
  · exact before
  · exact absurd ⟨m, other, before, key.symm, left⟩ free

theorem exists_first (sorted : names.Pairwise Text.Before) (inside : n ∈ names)
    (left : after.HasFile l n) :
    ∃ first ∈ names, keyOrName first = keyOrName n ∧ after.HasFile l first ∧
      ¬ Behind after l names first := by
  have all := sorted.filter fun m => keyOrName m = keyOrName n ∧ after.HasFile l m
  have mem (m : Text) : m ∈ names.filter (fun m => keyOrName m = keyOrName n ∧ after.HasFile l m) ↔
      m ∈ names ∧ keyOrName m = keyOrName n ∧ after.HasFile l m := by
    rw [List.mem_filter, decide_eq_true_eq]
  cases kept : names.filter (fun m => keyOrName m = keyOrName n ∧ after.HasFile l m) with
  | nil =>
    have here := (mem n).2 ⟨inside, rfl, left⟩
    rw [kept] at here
    cases here
  | cons first rest =>
    rw [kept] at all mem
    obtain ⟨listed, key, file⟩ := (mem first).1 List.mem_cons_self
    refine ⟨first, listed, key, file, ?_⟩
    intro ⟨earlier, listed', before, key', file'⟩
    obtain rfl | later := List.mem_cons.1 ((mem earlier).2 ⟨listed', key'.trans key, file'⟩)
    · exact Text.Before.irrefl _ before
    · exact before.asymm (List.rel_of_pairwise_cons all later)

section Report

variable {first last : Host}

theorem Report.disjoint (report : Report defaultRealm first last p l names (.ok r)) :
    r.replayed.Disjoint r.failed ∧ r.replayed.Disjoint r.skipped ∧ r.failed.Disjoint r.skipped := by
  have replayed := report.replayed r rfl
  have failed := report.failed r rfl
  have skipped := report.skipped r rfl
  refine ⟨?_, ?_, ?_⟩
  · intro n inside inside'
    exact ((replayed n).1 inside).2 ((failed n).1 inside').2.1
  · intro n inside inside'
    exact ((replayed n).1 inside).2 ((skipped n).1 inside').2.1
  · intro n inside inside'
    exact ((failed n).1 inside).2.2 ((skipped n).1 inside').2.2

theorem Report.complete (report : Report defaultRealm first last p l names (.ok r)) (n : Text) :
    n ∈ r.replayed ∨ n ∈ r.failed ∨ n ∈ r.skipped ↔ n ∈ names := by
  rw [report.replayed r rfl, report.failed r rfl, report.skipped r rfl]
  by_cases left : last.files.HasFile l n
  · by_cases behind : Behind last.files l names n
    · simp [left, behind]
    · simp [left, behind]
  · simp [left]

theorem Report.filter_gone (report : Report defaultRealm first last p l names (.ok r))
    (adds : Adds names ⟨[], [], []⟩ r) (sorted : names.Pairwise Text.Before) :
    names.filter (fun n => ¬ last.files.HasFile l n) = r.replayed := by
  apply (sorted.filter _).eq_of_mem_iff (sorted.sublist adds.replayed)
  intro n
  rw [List.mem_filter, decide_eq_true_eq, report.replayed r rfl]

theorem Report.grouped (report : Report defaultRealm first last p l names (.ok r))
    (adds : Adds names ⟨[], [], []⟩ r) (sorted : names.Pairwise Text.Before)
    (free : ∀ n ∈ names, ¬ last.files.HasFile l n → ¬ Behind last.files l names n) (key : Text) :
    names.filter (keyOrName · = key) = r.replayed.filter (keyOrName · = key) ++
      r.failed.filter (keyOrName · = key) ++ r.skipped.filter (keyOrName · = key) := by
  have replayed := report.replayed r rfl
  have failed := report.failed r rfl
  have skipped := report.skipped r rfl
  apply (sorted.filter _).eq_of_mem_iff
  · rw [List.pairwise_append, List.pairwise_append]
    refine ⟨⟨(sorted.sublist adds.replayed).filter _, (sorted.sublist adds.failed).filter _, ?_⟩,
      (sorted.sublist adds.skipped).filter _, ?_⟩
    · intro n inside m inside'
      simp only [List.mem_filter, decide_eq_true_eq, replayed, failed] at inside inside'
      obtain ⟨⟨listed, gone⟩, here⟩ := inside
      obtain ⟨⟨listed', left, -⟩, there⟩ := inside'
      apply before_of_not_behind (free n listed gone) listed' _ (here.trans there.symm) left
      intro same
      exact gone (same ▸ left)
    · intro n inside m inside'
      simp only [List.mem_append, List.mem_filter, decide_eq_true_eq, replayed, failed, skipped]
        at inside inside'
      obtain ⟨⟨listed', left, behind⟩, there⟩ := inside'
      obtain ⟨⟨listed, gone⟩, here⟩ | ⟨⟨listed, -, ahead⟩, here⟩ := inside
      · apply before_of_not_behind (free n listed gone) listed' _ (here.trans there.symm) left
        intro same
        exact gone (same ▸ left)
      · apply before_of_not_behind ahead listed' _ (here.trans there.symm) left
        intro same
        exact ahead (same ▸ behind)
  · intro n
    simp only [List.mem_append, List.mem_filter, decide_eq_true_eq]
    rw [← or_and_right, ← or_and_right, or_assoc, report.complete]

theorem Report.single (report : Report defaultRealm first last p l names (.ok r))
    (adds : Adds names ⟨[], [], []⟩ r) (sorted : names.Pairwise Text.Before) (key : Text) :
    (r.failed.filter (keyOrName · = key)).length ≤ 1 := by
  have failed := report.failed r rfl
  have all := (sorted.sublist adds.failed).filter (keyOrName · = key)
  cases kept : r.failed.filter (keyOrName · = key) with
  | nil => simp
  | cons n rest =>
    cases rest with
    | nil => simp
    | cons m rest =>
      have mem (m : Text) : m ∈ r.failed.filter (keyOrName · = key) ↔
          m ∈ r.failed ∧ keyOrName m = key := by
        rw [List.mem_filter, decide_eq_true_eq]
      rw [kept] at mem all
      obtain ⟨inside, here⟩ := (mem n).1 (by simp)
      obtain ⟨inside', there⟩ := (mem m).1 (by simp)
      obtain ⟨listed, left, -⟩ := (failed n).1 inside
      obtain ⟨-, -, free⟩ := (failed m).1 inside'
      have order := List.rel_of_pairwise_cons all List.mem_cons_self
      exact absurd ⟨n, listed, order, here.trans there.symm, left⟩ free

theorem Report.exists_failed (report : Report defaultRealm first last p l names (.ok r))
    (sorted : names.Pairwise Text.Before) (inside : n ∈ names) (left : last.files.HasFile l n) :
    ∃ m ∈ r.failed, keyOrName m = keyOrName n := by
  obtain ⟨m, listed, key, file, free⟩ := exists_first sorted inside left
  exact ⟨m, (report.failed r rfl m).2 ⟨listed, file, free⟩, key⟩

theorem Report.held (report : Report defaultRealm first last p l names (.ok r))
    (present : ∀ n ∈ names, first.files.HasFile l n) (lock : n ≠ QueueLock.fileName) :
    last.files.get? (l ++ [n]) =
      if n ∈ r.replayed then none else first.files.get? (l ++ [n]) := by
  have replayed := report.replayed r rfl n
  obtain same | ⟨inside, -, gone⟩ := report.kept n lock
  · rw [if_neg, same]
    intro inside
    obtain ⟨listed, absent⟩ := replayed.1 inside
    exact absent ((FileSystem.hasFile_congr same).2 (present n listed))
  · rw [if_pos, gone]
    apply replayed.2
    refine ⟨inside, ?_⟩
    intro ⟨mode, content, file⟩
    rw [gone] at file
    cases file

theorem Report.ok (report : Report defaultRealm first last p l names (.ok r))
    (sorted : names.Pairwise Text.Before) :
    r.ok = true ↔ ∀ n ∈ names, ¬ last.files.HasFile l n := by
  rw [Drained.ok, List.isEmpty_iff]
  constructor
  · intro none n inside left
    obtain ⟨m, failed, -⟩ := report.exists_failed sorted inside left
    rw [none] at failed
    cases failed
  · intro gone
    rw [List.eq_nil_iff_forall_not_mem]
    intro n failed
    obtain ⟨listed, left, -⟩ := (report.failed r rfl n).1 failed
    exact gone n listed left

end Report

/-- How what a drain returns tells the files of a directory apart. -/
structure Partition (defaultRealm : Text) (before after : Host) (p : Path) (l : Location)
    (r : Drained) : Prop where
  ascending : r.replayed.Pairwise Text.Before ∧ r.failed.Pairwise Text.Before ∧
    r.skipped.Pairwise Text.Before
  disjoint : r.replayed.Disjoint r.failed ∧ r.replayed.Disjoint r.skipped ∧
    r.failed.Disjoint r.skipped
  complete : ∀ name, name ∈ r.replayed ∨ name ∈ r.failed ∨ name ∈ r.skipped ↔
    EntryName.isListed name = true ∧ before.files.HasFile l name
  grouped : ∀ key, (before.files.named l EntryName.isListed).filter (keyOrName · = key) =
    r.replayed.filter (keyOrName · = key) ++ r.failed.filter (keyOrName · = key) ++
      r.skipped.filter (keyOrName · = key)
  single : ∀ key, (r.failed.filter (keyOrName · = key)).length ≤ 1
  behind : ∀ name ∈ r.skipped, ∃ first ∈ r.failed, keyOrName first = keyOrName name
  called : after.journal.calls = before.journal.calls ++
    ((before.files.named l EntryName.isListed).filter fun name => name ∉ r.skipped).filterMap
      (call? defaultRealm before.files p l)
  delivered : after.journal.deliveries = before.journal.deliveries ++
    r.replayed.filterMap (call? defaultRealm before.files p l)
  held : ∀ name, name ≠ QueueLock.fileName → after.files.get? (l ++ [name]) =
    if name ∈ r.replayed then none else before.files.get? (l ++ [name])
  lock : after.files.get? (l ++ [QueueLock.fileName]) =
    some ((before.files.get? (l ++ [QueueLock.fileName])).getD (.file QueueLock.fileMode []))
  ok : r.ok = true ↔ ∀ name, EntryName.isListed name = true → before.files.HasFile l name →
    ¬ after.files.HasFile l name

end Drain

/-- A drain that returns tells all listed files apart, has called the backend for those that it does
not skip, and has removed the replayed ones from the directory. -/
theorem drain_partition {backend : Backend} {defaultRealm : Text} {h h' : Host} {p : Path}
    {l : Location} {r : Drained} (leads : h.files.LeadsTo p l) (proper : h.files.Proper l)
    (orderly : backend.Orderly p)
    (returned : (drain backend defaultRealm (some ⟨some p⟩)).on h = (.ok r, h')) :
    Drain.Partition defaultRealm h h' p l r := by
  obtain ⟨-, e, h', -, done⟩ | ⟨-, h₁, result, h₂, h', idle, listed, ahead, ran, still, done⟩ :=
    drain_chain backend defaultRealm leads proper
  · rw [returned] at done
    cases done
  rw [returned] at done
  cases done
  have ends := Drain.ends_of_run ran
  have report := ends.report orderly leads idle ahead still
  have adds := ends.adds rfl
  have sorted := ahead.sorted
  have free (n : Text) (inside : n ∈ h.files.named l EntryName.isListed)
      (gone : ¬ h'.files.HasFile l n) :
      ¬ Drain.Behind h'.files l (h.files.named l EntryName.isListed) n := by
    obtain ⟨calls, -, settles⟩ := ends.settles orderly.1 orderly.2 ahead
    rw [← still.files] at settles
    rw [← Drain.held_nil]
    exact settles.not_held_of_gone sorted rfl inside gone
  refine
    { ascending := ⟨sorted.sublist adds.replayed, sorted.sublist adds.failed,
        sorted.sublist adds.skipped⟩
      disjoint := report.disjoint
      complete := ?complete
      grouped := report.grouped adds sorted free
      single := report.single adds sorted
      behind := ?behind
      called := report.called r rfl
      delivered := ?delivered
      held := fun n => report.held ahead.present
      lock := ?lock
      ok := ?ok }
  case complete =>
    intro n
    rw [report.complete, FileSystem.mem_named_iff]
  case behind =>
    intro n inside
    obtain ⟨listed, left, -⟩ := (report.skipped r rfl n).1 inside
    exact report.exists_failed sorted listed left
  case delivered =>
    obtain ⟨accepted, delivered, leaves⟩ := ends.leaves orderly.1 ahead
    rw [still.deliveries, delivered, idle.deliveries, leaves.accepted_eq, ← still.files,
      report.filter_gone adds sorted]
  case lock =>
    have out : QueueLock.fileName ∉ h.files.named l EntryName.isListed := fun inside =>
      (ahead.proper _ inside).2.2 rfl
    rw [still.files, ends.held_of_not_mem orderly.1 ahead out]
    exact Queue.lock_of_entries leads listed
  case ok =>
    rw [report.ok sorted]
    simp only [FileSystem.mem_named_iff, and_imp]

/-- Of three entries one is refused, one stands behind it and one is replayed. A file with no key
fails, and a file with a dot and a directory are not looked at. -/
theorem drain_partition_of_six :
    let p : Path := ⟨[], ["queue"]⟩
    let entries := Host.withEntries "queue" .newYear
      [⟨⟨["a"], []⟩, .ad, .enable⟩, ⟨⟨["a"], []⟩, .ad, .disable⟩, ⟨⟨["b"], []⟩, .ad, .disable⟩]
    let files := ((entries.files.set ["queue", "note"] (.file 0o600 [])).set ["queue", ".note"]
      (.file 0o600 [])).set ["queue", "old"] .directory
    let h : Host := ⟨files, [], .newYear, []⟩
    let backend := Backend.failingOn .enable (.reported .delivery "not now" none)
    let r : Drained := ⟨["b-ad-enable-20240101T000000Z-00"],
      ["a-ad-enable-20240101T000000Z-00", "note"], ["a-ad-enable-20240101T000000Z-01"]⟩
    let h' := ((drain backend [] (some ⟨some p⟩)).on h).2
    h.files.LeadsTo p ["queue"] ∧ h.files.Proper ["queue"] ∧ backend.Orderly p ∧
      (drain backend [] (some ⟨some p⟩)).on h = (.ok r, h') ∧
      Drain.Partition [] h h' p ["queue"] r := by
  intro p entries files h backend r h'
  have leads : h.files.LeadsTo p ["queue"] := ⟨by decide +kernel, by decide +kernel⟩
  have all : ∀ entry ∈ h.files.entries ["queue"], entry.1.IsPart ∧ Symbol.char '\x00' ∉ entry.1 := by
    decide +kernel
  have proper : h.files.Proper ["queue"] := fun name ⟨_, _, held⟩ =>
    all _ ((FileSystem.mem_entries_iff h.files ["queue"] name _).2 held)
  have orderly : backend.Orderly p := Backend.orderly_failingOn .enable rfl p
  have returned : (drain backend [] (some ⟨some p⟩)).on h = (.ok r, h') :=
    Act.on_eq_of_fst (by decide +kernel)
  exact ⟨leads, proper, orderly, returned, drain_partition leads proper orderly returned⟩

end AccountRelay
