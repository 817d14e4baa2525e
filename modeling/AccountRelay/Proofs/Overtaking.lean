import AccountRelay.Proofs.Drain
/-!
# Which entries a drain lets pass

An entry that is left holds back the later entries of its key, and the drain ends at a failure that it
cannot account for. There is one exception. A failure of the operating system, with the error that
something was not found, is taken for the disappearance of the entry wherever it comes from. If the
backend reports it, the entry is still there, and later entries of its key are delivered before it.
-/

namespace AccountRelay

namespace Drain

/-! ## Going on from a name -/

/-- The blocked keys are those of the names that have failed. -/
def Blocks (blocked : List Text) (r : Drained) : Prop :=
  ∀ key, key ∈ blocked ↔ ∃ name ∈ r.failed, keyOrName name = key

theorem Blocks.failed {blocked : List Text} {r : Drained} (blocks : Blocks blocked r) (name : Text) :
    Blocks (keyOrName name :: blocked) { r with failed := r.failed ++ [name] } := by
  intro key
  rw [List.mem_cons, blocks key]
  constructor
  · rintro (rfl | ⟨other, inside, same⟩)
    · exact ⟨name, by simp, rfl⟩
    · exact ⟨other, by simp [inside], same⟩
  · rintro ⟨other, inside, same⟩
    obtain inside | inside := List.mem_append.1 inside
    · exact .inr ⟨other, inside, same⟩
    · obtain rfl := List.mem_singleton.1 inside
      exact .inl same.symm

section Run

variable (backend : Backend) (defaultRealm : Text) (p : Path) {blocked : List Text} {r : Drained}

theorem run_cons (blocks : Blocks blocked r) (name : Text) (h : Host) :
    (∃ blocked₁ r₁ h₁, Blocks blocked₁ r₁ ∧
      ∀ rest, (run backend defaultRealm ⟨some p⟩ blocked r (name :: rest)).on h =
        (run backend defaultRealm ⟨some p⟩ blocked₁ r₁ rest).on h₁) ∨
      ∃ e h₁, ∀ rest,
        (run backend defaultRealm ⟨some p⟩ blocked r (name :: rest)).on h = (.error e, h₁) := by
  by_cases behind : keyOrName name ∈ blocked
  · exact .inl ⟨blocked, { r with skipped := r.skipped ++ [name] }, _, blocks,
      fun rest => run_of_blocked behind rest h⟩
  · cases done : (replay backend defaultRealm (p.join name)).on h with
    | mk result h₁ =>
      have step := run_of_free (r := r) behind done
      cases result with
      | ok entry => exact .inl ⟨blocked, { r with replayed := r.replayed ++ [name] }, h₁, blocks, step⟩
      | error e =>
        obtain ⟨-, same⟩ | ⟨-, -, same⟩ | ⟨-, same⟩ := outcome_cases e
        · simp only [same] at step
          exact .inl ⟨_, _, _, blocks.failed name, step⟩
        · simp only [same] at step
          exact .inl ⟨blocked, r, _, blocks, step⟩
        · simp only [same] at step
          exact .inr ⟨e, h₁, step⟩

/-- A drain goes through the first names as it would go through them alone, and then on from there. -/
theorem run_append (blocks : Blocks blocked r) (prior : List Text) (h : Host) :
    (∃ blocked₁ r₁ g, Blocks blocked₁ r₁ ∧
      (run backend defaultRealm ⟨some p⟩ blocked r prior).on h = (.ok r₁, g) ∧
      ∀ rest, (run backend defaultRealm ⟨some p⟩ blocked r (prior ++ rest)).on h =
        (run backend defaultRealm ⟨some p⟩ blocked₁ r₁ rest).on g) ∨
      ∃ e g, ∀ rest,
        (run backend defaultRealm ⟨some p⟩ blocked r (prior ++ rest)).on h = (.error e, g) := by
  induction prior generalizing blocked r h with
  | nil => exact .inl ⟨blocked, r, h, blocks, rfl, fun _ => rfl⟩
  | cons name prior ih =>
    obtain ⟨blocked₁, r₁, h₁, blocks₁, step⟩ | ⟨e, h₁, ended⟩ :=
      run_cons backend defaultRealm p blocks name h
    · obtain ⟨blocked₂, r₂, g, blocks₂, done, more⟩ | ⟨e, g, ended⟩ := ih blocks₁ h₁
      · refine .inl ⟨blocked₂, r₂, g, blocks₂, (step prior).trans done, ?_⟩
        intro rest
        exact (step (prior ++ rest)).trans (more rest)
      · refine .inr ⟨e, g, ?_⟩
        intro rest
        exact (step (prior ++ rest)).trans (ended rest)
    · exact .inr ⟨e, h₁, fun rest => ended (prior ++ rest)⟩

end Run

/-! ## What a chain of replays leaves -/

/-- What comes of the names whatever the backend fails with, in terms of the files before and after,
and the calls that are accepted. -/
inductive Leaves (defaultRealm : Text) (before after : FileSystem) (p : Path) (l : Location) :
    List Text → List Text → List Call → Prop where
  | nil {blocked : List Text} : Leaves defaultRealm before after p l blocked [] []
  | skipped {blocked rest : List Text} {name : Text} {accepted : List Call}
    (behind : keyOrName name ∈ blocked) (left : after.HasFile l name)
    (tail : Leaves defaultRealm before after p l blocked rest accepted) :
    Leaves defaultRealm before after p l blocked (name :: rest) accepted
  | replayed {blocked rest : List Text} {name : Text} {call : Call} {accepted : List Call}
    (free : keyOrName name ∉ blocked) (asks : call? defaultRealm before p l name = some call)
    (gone : ¬ after.HasFile l name)
    (tail : Leaves defaultRealm before after p l blocked rest accepted) :
    Leaves defaultRealm before after p l blocked (name :: rest) (call :: accepted)
  | failed {blocked rest : List Text} {name : Text} {accepted : List Call}
    (free : keyOrName name ∉ blocked) (left : after.HasFile l name)
    (tail : Leaves defaultRealm before after p l (keyOrName name :: blocked) rest accepted) :
    Leaves defaultRealm before after p l blocked (name :: rest) accepted
  | passed {blocked rest : List Text} {name : Text} {accepted : List Call}
    (free : keyOrName name ∉ blocked) (left : after.HasFile l name)
    (tail : Leaves defaultRealm before after p l blocked rest accepted) :
    Leaves defaultRealm before after p l blocked (name :: rest) accepted
  | aborted {blocked rest : List Text} {name : Text} (free : keyOrName name ∉ blocked)
    (left : ∀ n ∈ name :: rest, after.HasFile l n) :
    Leaves defaultRealm before after p l blocked (name :: rest) []

variable {backend : Backend} {defaultRealm : Text} {fs before after : FileSystem} {p : Path}
  {l : Location} {name earlier later : Text} {names prior rest blocked : List Text}
  {accepted : List Call} {r : Drained} {h h' : Host} {result : Except Failure Drained}

theorem Ends.leaves (spares : backend.Spares p)
    (ends : Ends backend defaultRealm p blocked r names h result h') (ahead : Ahead fs p l names h) :
    ∃ accepted, h'.journal.deliveries = h.journal.deliveries ++ accepted ∧
      Leaves defaultRealm fs h'.files p l blocked names accepted := by
  induction ends with
  | nil => exact ⟨[], (List.append_nil _).symm, .nil⟩
  | @skipped blocked r name rest h h₁ h' result behind still after ih =>
    have unmoved := (still.idle p).unmoved ahead.leads
    have tail := ahead.unmoved unmoved
    obtain ⟨accepted, delivered, leaves⟩ := ih tail
    rw [still.deliveries] at delivered
    exact ⟨accepted, delivered, .skipped behind (ahead.left unmoved (after.kept spares tail)) leaves⟩
  | @replayed blocked r name rest h h₁ h' entry result free done after ih =>
    obtain ⟨part, -, lock⟩ := ahead.proper name List.mem_cons_self
    obtain ⟨call, ready, removed⟩ := (ends_of_replay done).removed spares ahead.leads part
    have asks := call?_of_ready ahead.leads part ready
    rw [call?_congr (ahead.same name List.mem_cons_self)] at asks
    have tail := ahead.removed removed
    have gone := (after.kept spares tail).not_hasFile lock removed.gone
    obtain ⟨accepted, delivered, leaves⟩ := ih tail
    refine ⟨call :: accepted, ?_, .replayed free asks gone leaves⟩
    rw [delivered, removed.deliveries, List.append_assoc]
    rfl
  | @failed blocked r name rest h h₁ h₂ h' e result free done kind still after ih =>
    have unmoved := ahead.unmoved_of_failed spares done still
    have tail := ahead.unmoved unmoved
    obtain ⟨accepted, delivered, leaves⟩ := ih tail
    rw [unmoved.deliveries] at delivered
    exact ⟨accepted, delivered, .failed free (ahead.left unmoved (after.kept spares tail)) leaves⟩
  | @vanished blocked r name rest h h₁ h₂ h' e result free done kind gone still after ih =>
    have unmoved := ahead.unmoved_of_failed spares done still
    have tail := ahead.unmoved unmoved
    obtain ⟨accepted, delivered, leaves⟩ := ih tail
    rw [unmoved.deliveries] at delivered
    exact ⟨accepted, delivered, .passed free (ahead.left unmoved (after.kept spares tail)) leaves⟩
  | @aborted blocked r name rest h h' e free done other =>
    have unmoved := ahead.unmoved_of_failed spares done (.refl h')
    refine ⟨[], ?_, .aborted free ?_⟩
    · rw [unmoved.deliveries, List.append_nil]
    · intro n inside
      obtain ⟨-, -, lock⟩ := ahead.proper n inside
      exact (FileSystem.hasFile_congr (unmoved.held n lock)).2 (ahead.hasFile_of_mem inside)

theorem Leaves.left_of_blocked (leaves : Leaves defaultRealm before after p l blocked names accepted)
    (inside : name ∈ names) (behind : keyOrName name ∈ blocked) : after.HasFile l name := by
  induction leaves with
  | nil => cases inside
  | skipped _ left tail ih =>
    obtain rfl | inside := List.mem_cons.1 inside
    · exact left
    · exact ih inside behind
  | replayed free asks gone tail ih =>
    obtain rfl | inside := List.mem_cons.1 inside
    · exact absurd behind free
    · exact ih inside behind
  | failed free left tail ih =>
    obtain rfl | inside := List.mem_cons.1 inside
    · exact left
    · exact ih inside (List.mem_cons_of_mem _ behind)
  | passed free left tail ih =>
    obtain rfl | inside := List.mem_cons.1 inside
    · exact left
    · exact ih inside behind
  | aborted free left => exact left _ inside

theorem filter_gone_eq_nil (left : ∀ n ∈ names, after.HasFile l n) :
    names.filter (fun n => ¬ after.HasFile l n) = [] := by
  rw [List.filter_eq_nil_iff]
  intro n inside
  simpa using left n inside

theorem Leaves.accepted_eq (leaves : Leaves defaultRealm before after p l blocked names accepted) :
    accepted = (names.filter fun n => ¬ after.HasFile l n).filterMap
      (call? defaultRealm before p l) := by
  induction leaves with
  | nil => rfl
  | skipped behind left tail ih => rw [ih, List.filter_cons_of_neg (by simpa using left)]
  | replayed free asks gone tail ih =>
    rw [ih, List.filter_cons_of_pos (by simpa using gone), List.filterMap_cons_some asks]
  | failed free left tail ih => rw [ih, List.filter_cons_of_neg (by simpa using left)]
  | passed free left tail ih => rw [ih, List.filter_cons_of_neg (by simpa using left)]
  | aborted free left =>
    rw [filter_gone_eq_nil left]
    rfl

/-! ## Between two names -/

theorem Ahead.drop (ahead : Ahead fs p l (prior ++ rest) h) : Ahead fs p l rest h where
  leads := ahead.leads
  sorted := (List.pairwise_append.1 ahead.sorted).2.1
  proper n inside := ahead.proper n (List.mem_append_right prior inside)
  present n inside := ahead.present n (List.mem_append_right prior inside)
  same n inside := ahead.same n (List.mem_append_right prior inside)

theorem Ends.ahead (spares : backend.Spares p)
    (ends : Ends backend defaultRealm p blocked r prior h result h')
    (ahead : Ahead fs p l (prior ++ rest) h) : Ahead fs p l rest h' := by
  induction ends with
  | nil => exact ahead
  | skipped behind still after ih => exact ih (ahead.unmoved ((still.idle p).unmoved ahead.leads))
  | @replayed blocked r name prior h h₁ h' entry result free done after ih =>
    obtain ⟨part, -, -⟩ := ahead.proper name List.mem_cons_self
    obtain ⟨call, -, removed⟩ := (ends_of_replay done).removed spares ahead.leads part
    exact ih (ahead.removed removed)
  | failed free done kind still after ih =>
    exact ih (ahead.unmoved (ahead.unmoved_of_failed spares done still))
  | vanished free done kind gone still after ih =>
    exact ih (ahead.unmoved (ahead.unmoved_of_failed spares done still))
  | aborted free done other =>
    exact (ahead.unmoved (ahead.unmoved_of_failed spares done (.refl _))).drop

/-- The backend fails on the call of the file as though something had vanished. -/
def Denies (backend : Backend) (defaultRealm : Text) (file : Path) (h : Host) : Prop :=
  ∃ entry call before e h', Replay.Ready defaultRealm file h entry call ∧ h.Still before ∧
    (backend.deliver call).on before = (.error e, h') ∧
    (replay backend defaultRealm file).on h = (.error e, h') ∧ e.kind = .system ∧ vanishes e = true

/-- A drain through the names has come to the name, which is that of no blocked key, on a host where
the backend denies its file. -/
def Denied (backend : Backend) (defaultRealm : Text) (p : Path) (names : List Text) (h : Host)
    (name : Text) : Prop :=
  ∃ prior rest r g, names = prior ++ name :: rest ∧
    (run backend defaultRealm ⟨some p⟩ [] ⟨[], [], []⟩ prior).on h = (.ok r, g) ∧
    (∀ other ∈ r.failed, keyOrName other ≠ keyOrName name) ∧
    Denies backend defaultRealm (p.join name) g

/-- If the first file is left, so are the later ones of its key, unless it is denied. -/
theorem Ends.left_or_denies (spares : backend.Spares p)
    (ends : Ends backend defaultRealm p blocked r (earlier :: rest) h result h')
    (ahead : Ahead fs p l (earlier :: rest) h) (inside : later ∈ rest)
    (key : keyOrName earlier = keyOrName later) (left : h'.files.HasFile l earlier) :
    h'.files.HasFile l later ∨
      keyOrName earlier ∉ blocked ∧ Denies backend defaultRealm (p.join earlier) h := by
  obtain ⟨part, -, lock⟩ := ahead.proper earlier List.mem_cons_self
  cases ends with
  | skipped behind still after =>
    have tail := ahead.unmoved ((still.idle p).unmoved ahead.leads)
    obtain ⟨accepted, -, leaves⟩ := after.leaves spares tail
    exact .inl (leaves.left_of_blocked inside (key ▸ behind))
  | replayed free done after =>
    obtain ⟨call, -, removed⟩ := (ends_of_replay done).removed spares ahead.leads part
    have kept := after.kept spares (ahead.removed removed)
    exact absurd left (kept.not_hasFile lock removed.gone)
  | failed free done kind still after =>
    have tail := ahead.unmoved (ahead.unmoved_of_failed spares done still)
    obtain ⟨accepted, -, leaves⟩ := after.leaves spares tail
    exact .inl (leaves.left_of_blocked inside (key ▸ List.mem_cons_self))
  | vanished free done kind gone still after =>
    obtain ⟨entry, call, begun, ready, begins, called⟩ :=
      (ends_of_replay done).refused_of_vanishes spares ahead.leads part ahead.hasFile kind gone
    exact .inr ⟨free, entry, call, begun, _, _, ready, begins, called, done, kind, gone⟩
  | aborted free done other =>
    have tail := ahead.unmoved (ahead.unmoved_of_failed spares done (.refl h'))
    exact .inl (tail.hasFile_of_mem inside)

theorem left_or_denied (spares : backend.Spares p) (ahead : Ahead fs p l names h)
    (first : earlier ∈ names) (second : later ∈ names) (order : Text.Before earlier later)
    (key : keyOrName earlier = keyOrName later)
    (done : (run backend defaultRealm ⟨some p⟩ [] ⟨[], [], []⟩ names).on h = (result, h'))
    (left : h'.files.HasFile l earlier) :
    h'.files.HasFile l later ∨ Denied backend defaultRealm p names h earlier := by
  obtain ⟨prior, rest, rfl⟩ := List.append_of_mem first
  have inside : later ∈ rest := by
    have sorted := List.pairwise_append.1 ahead.sorted
    obtain inside | inside := List.mem_append.1 second
    · exact absurd order (sorted.2.2 later inside earlier List.mem_cons_self).asymm
    · obtain rfl | inside := List.mem_cons.1 inside
      · exact absurd order (Text.Before.irrefl _)
      · exact inside
  have none : Blocks [] ⟨[], [], []⟩ := by simp [Blocks]
  -- The drain comes to the earlier entry, or ends before it, and then all that is ahead is left.
  obtain ⟨blocked, r, g, blocks, through, more⟩ | ⟨e, g, ended⟩ :=
    run_append backend defaultRealm p none prior h
  · have there := (ends_of_run through).ahead spares ahead
    have ends := ends_of_run ((more (earlier :: rest)).symm.trans done)
    obtain kept | ⟨free, denies⟩ := ends.left_or_denies spares there inside key left
    · exact .inl kept
    · refine .inr ⟨prior, rest, r, g, rfl, through, ?_, denies⟩
      intro other failed same
      exact free ((blocks _).2 ⟨other, failed, same⟩)
  · have alone := ended []
    rw [List.append_nil] at alone
    rw [ended] at done
    cases done
    have there := (ends_of_run alone).ahead spares ahead
    exact .inl (there.hasFile_of_mem (List.mem_cons_of_mem earlier inside))

/-- What a drain delivers, and which of the entries with the names it leaves, by what it leaves. -/
structure Passing (backend : Backend) (defaultRealm : Text) (before after : Host) (p : Path)
    (l : Location) (names : List Text) : Prop where
  delivered : after.journal.deliveries = before.journal.deliveries ++
    (names.filter fun n => ¬ after.files.HasFile l n).filterMap (call? defaultRealm before.files p l)
  held : ∀ earlier ∈ names, ∀ later ∈ names, Text.Before earlier later →
    keyOrName earlier = keyOrName later → after.files.HasFile l earlier →
      after.files.HasFile l later ∨
        Denied backend defaultRealm p names ((Queue.entries ⟨some p⟩).on before).2 earlier

end Drain

/-- However a drain ends, it has delivered the entries that are gone and no others, and none of them
before an entry of its key that is left, unless the backend has denied the latter. -/
theorem drain_passing {backend : Backend} {h : Host} {p : Path} {l : Location}
    (leads : h.files.LeadsTo p l) (proper : h.files.Proper l) (spares : backend.Spares p)
    (defaultRealm : Text) :
    Drain.Passing backend defaultRealm h ((drain backend defaultRealm (some ⟨some p⟩)).on h).2 p l
      (h.files.named l EntryName.isListed) := by
  obtain ⟨-, e, h', idle, done⟩ | ⟨-, h₁, result, h₂, h', idle, listed, ahead, ran, still, done⟩ :=
    drain_chain backend defaultRealm leads proper
  · rw [done]
    have left (n : Text) (inside : n ∈ h.files.named l EntryName.isListed) :
        h'.files.HasFile l n := by
      obtain ⟨wanted, file⟩ := FileSystem.mem_named_iff.1 inside
      have other := EntryName.ne_lock_of_isListed wanted
      exact (FileSystem.hasFile_congr ((idle.unmoved leads).held n other)).2 file
    refine ⟨?_, ?_⟩
    · rw [Drain.filter_gone_eq_nil left, idle.deliveries]
      exact (List.append_nil _).symm
    · intro _ _ later inside _ _ _
      exact .inl (left later inside)
  · rw [done]
    refine ⟨?_, ?_⟩
    · obtain ⟨accepted, delivered, leaves⟩ := (Drain.ends_of_run ran).leaves spares ahead
      rw [still.deliveries, delivered, idle.deliveries, leaves.accepted_eq, still.files]
    · intro earlier first later second order key left
      rw [still.files] at left ⊢
      rw [listed]
      exact Drain.left_or_denied spares ahead first second order key ran left

/-- A failure without a class of its own ends the drain, and nothing of its key is delivered. -/
theorem drain_passing_of_runtime :
    let p : Path := ⟨[], ["queue"]⟩
    let h := Host.withEntries "queue" .newYear [⟨⟨["a"], []⟩, .ad, .enable⟩, ⟨⟨["a"], []⟩, .ad, .disable⟩]
    let backend := Backend.failingOn .enable (.reported .runtime "broken" none)
    h.files.LeadsTo p ["queue"] ∧ h.files.Proper ["queue"] ∧ backend.Spares p ∧
      ((drain backend [] (some ⟨some p⟩)).on h).1 = .error (.reported .runtime "broken" none) ∧
      Drain.Passing backend [] h ((drain backend [] (some ⟨some p⟩)).on h).2 p ["queue"]
        (h.files.named ["queue"] EntryName.isListed) := by
  intro p h backend
  have leads : h.files.LeadsTo p ["queue"] := ⟨by decide +kernel, by decide +kernel⟩
  have all : ∀ entry ∈ h.files.entries ["queue"], entry.1.IsPart ∧ Symbol.char '\x00' ∉ entry.1 := by
    decide +kernel
  have proper : h.files.Proper ["queue"] := fun name ⟨_, _, held⟩ =>
    all _ ((FileSystem.mem_entries_iff h.files ["queue"] name _).2 held)
  have spares := Backend.spares_failingOn .enable (.reported .runtime "broken" none) p
  exact ⟨leads, proper, spares, by decide +kernel, drain_passing leads proper spares []⟩

/-- An entry is left that the backend was called for, and a later one of its key is delivered, because
the backend could not find something. -/
theorem drain_overtakes_denied :
    let p : Path := ⟨[], ["queue"]⟩
    let h := Host.withEntries "queue" .newYear [⟨⟨["a"], []⟩, .ad, .enable⟩, ⟨⟨["a"], []⟩, .ad, .disable⟩]
    let backend := Backend.failingOn .enable
      (.reported .system "cannot reach AD" (some OsError.notFound.failure))
    let earlier : Text := "a-ad-enable-20240101T000000Z-00"
    let later : Text := "a-ad-enable-20240101T000000Z-01"
    let after := ((drain backend [] (some ⟨some p⟩)).on h).2
    backend.Spares p ∧ EntryName.key? earlier = .ok "a-ad-enable-" ∧
      EntryName.key? later = .ok "a-ad-enable-" ∧ Text.Before earlier later ∧
      ((drain backend [] (some ⟨some p⟩)).on h).1 = .ok ⟨[later], [], []⟩ ∧
      after.files.HasFile ["queue"] earlier ∧
      after.journal.calls = [⟨"a", .enable, none⟩, ⟨"a", .disable, none⟩] ∧
      after.journal.deliveries = [⟨"a", .disable, none⟩] := by
  intro p h backend earlier later after
  exact ⟨Backend.spares_failingOn _ _ p, by decide +kernel, by decide +kernel, by decide +kernel,
    by decide +kernel, by decide +kernel, by decide +kernel, by decide +kernel⟩

end AccountRelay
