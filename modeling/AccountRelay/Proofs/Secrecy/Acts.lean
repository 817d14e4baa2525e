import AccountRelay.Proofs.Lock
import AccountRelay.Proofs.Secrecy.Files
import AccountRelay.Replay
/-!
# Acts on hosts that differ in passwords

Two hosts are alike if they differ in passwords only: in those of their files, and in those of the
calls in their journals. Two acts are alike if, begun on hosts that are alike, both end well or both
fail, with results or failures that are alike, and leave hosts that are alike. What is built in the
same way from acts that are alike is alike.
-/

namespace AccountRelay

/-! ## Hosts -/

/-- The class and the text are the same. -/
structure Failure.Alike (e e' : Failure) : Prop where
  kind : e.kind = e'.kind
  text : e.text = e'.text
  /-- Whether a missing file is behind it, which makes a drain go on. -/
  vanishes : Drain.vanishes e = Drain.vanishes e'

/-- The calls are the same but for their passwords. -/
structure Call.Alike (call call' : Call) : Prop where
  account : call.account = call'.account
  operation : call.operation = call'.operation
  password : call.password.isSome = call'.password.isSome

inductive Event.Alike : Event → Event → Prop where
  | refl (e : Event) : Alike e e
  | called {call call' : Call} (same : call.Alike call') : Alike (.called call) (.called call')
  | delivered {call call' : Call} (same : call.Alike call') :
    Alike (.delivered call) (.delivered call')

structure Host.Alike (h h' : Host) : Prop where
  files : h.files.Alike h'.files
  locked : h.locked = h'.locked
  clock : h.clock = h'.clock
  journal : List.Forall₂ Event.Alike h.journal h'.journal

theorem Failure.Alike.refl (e : Failure) : e.Alike e := ⟨rfl, rfl, rfl⟩

instance : Std.Refl Failure.Alike := ⟨Failure.Alike.refl⟩

theorem Failure.Alike.report {e e' : Failure} (alike : e.Alike e') : e.report = e'.report := by
  rw [Failure.report, Failure.report, alike.kind, alike.text]

theorem Failure.Alike.outcome {e e' : Failure} (alike : e.Alike e') :
    (Drain.outcome (α := Entry) (.error e) = .failed e ∧
        Drain.outcome (α := Entry) (.error e') = .failed e') ∨
      (Drain.outcome (α := Entry) (.error e) = .vanished ∧
        Drain.outcome (α := Entry) (.error e') = .vanished) ∨
      (Drain.outcome (α := Entry) (.error e) = .aborted e ∧
        Drain.outcome (α := Entry) (.error e') = .aborted e') := by
  unfold Drain.outcome
  simp only [← alike.kind, ← alike.vanishes]
  cases e.kind <;> simp

namespace Host

variable {h h' : Host}

theorem Alike.refl (h : Host) : h.Alike h :=
  ⟨.refl h.files, rfl, rfl, List.forall₂_same.2 fun e _ => .refl e⟩

theorem Alike.record (alike : h.Alike h') {e e' : Event} (same : e.Alike e') :
    (h.record e).Alike (h'.record e') :=
  ⟨alike.files, alike.locked, alike.clock, List.rel_append alike.journal (.cons same .nil)⟩

theorem Alike.files_of (alike : h.Alike h') {files files' : FileSystem} (same : files.Alike files') :
    Alike { h with files := files } { h' with files := files' } :=
  ⟨same, alike.locked, alike.clock, alike.journal⟩

theorem Alike.withFiles (alike : h.Alike h') {files files' : FileSystem}
    (same : files.Alike files') : (h.withFiles files).Alike (h'.withFiles files') := by
  refine ⟨same, ?_, alike.clock, alike.journal⟩
  change h.locked.filter _ = h'.locked.filter _
  rw [alike.locked]
  refine List.filter_congr fun l _ => ?_
  obtain ⟨none, none'⟩ | ⟨directory, directory'⟩ | ⟨mode, bytes, bytes', -, file, file'⟩ := same.held l
  · rw [none, none']
  · rw [directory, directory']
  · rw [file, file']

theorem Alike.lock (alike : h.Alike h') (l : Location) {files files' : FileSystem}
    (same : files.Alike files') : (h.lock l files).Alike (h'.lock l files') :=
  ⟨same, congrArg (· ++ [l]) alike.locked, alike.clock, (alike.record (.refl _)).journal⟩

theorem Alike.unlock (alike : h.Alike h') (l : Location) :
    (Host.unlock l h).Alike (Host.unlock l h') :=
  ⟨alike.files, congrArg (List.filter _) alike.locked, alike.clock, (alike.record (.refl _)).journal⟩

end Host

namespace Journal

variable {j j' : Journal}

theorem messages_of_alike (alike : List.Forall₂ Event.Alike j j') : messages j = messages j' := by
  refine List.forall₂_eq_eq_eq ▸ (List.rel_filterMap (R := Event.Alike) (P := Eq) ?_ alike)
  intro e e' same
  cases same with
  | refl e => cases e <;> first | exact .none | exact .some rfl
  | called same => exact .none
  | delivered same => exact .none

theorem calls_of_alike (alike : List.Forall₂ Event.Alike j j') :
    List.Forall₂ Call.Alike (calls j) (calls j') := by
  refine List.rel_filterMap (R := Event.Alike) (P := Call.Alike) ?_ alike
  intro e e' same
  cases same with
  | refl e => cases e <;> first | exact .none | exact .some ⟨rfl, rfl, rfl⟩
  | called same => exact .some same
  | delivered same => exact .none

end Journal

/-! ## Acts -/

/-- On hosts that are alike, the acts end alike and leave hosts that are alike. -/
def Act.Alike {α β : Type} (R : α → β → Prop) (act : Act α) (act' : Act β) : Prop :=
  ∀ h h', h.Alike h' → Agree Failure.Alike R (act.on h).1 (act'.on h').1 ∧
    (act.on h).2.Alike (act'.on h').2

namespace Act

variable {α α' β β' : Type} {R : α → α' → Prop} {S : β → β' → Prop}

theorem alike_ofResult {r : Except Failure α} {r' : Except Failure α'}
    (agree : Agree Failure.Alike R r r') : (ofResult r).Alike R (ofResult r') := by
  intro h h' alike
  rw [on_ofResult, on_ofResult]
  exact ⟨agree, alike⟩

theorem alike_pure {a : α} {a' : α'} (same : R a a') : (pure a : Act α).Alike R (pure a') :=
  alike_ofResult (.ok same)

theorem alike_throw {e e' : Failure} (same : e.Alike e') :
    (throw e : Act α).Alike R (throw e' : Act α') :=
  alike_ofResult (.error same)

theorem alike_orFault (r : Except Fault α) : (orFault r).Alike Eq (orFault r) :=
  alike_ofResult (.refl _)

theorem alike_ask {question : Host → α} {question' : Host → α'}
    (same : ∀ h h', h.Alike h' → R (question h) (question' h')) :
    (ask question).Alike R (ask question') :=
  fun h h' alike => ⟨.ok (same h h' alike), alike⟩

theorem alike_change {step step' : Host → Host}
    (same : ∀ h h', h.Alike h' → (step h).Alike (step' h')) :
    (change step).Alike Eq (change step') :=
  fun h h' alike => ⟨.ok rfl, same h h' alike⟩

theorem alike_record {e e' : Event} (same : e.Alike e') : (record e).Alike Eq (record e') :=
  alike_change fun _ _ alike => alike.record same

theorem alike_log (level : Level) (message : Text) :
    (log level message).Alike Eq (log level message) :=
  alike_record (.refl _)

theorem Alike.bind {act : Act α} {act' : Act α'} {next : α → Act β} {next' : α' → Act β'}
    (first : act.Alike R act') (rest : ∀ a a', R a a' → (next a).Alike S (next' a')) :
    (act >>= next).Alike S (act' >>= next') := by
  intro h h' alike
  obtain ⟨ended, left⟩ := first h h' alike
  rw [on_bind, on_bind]
  cases done : act.on h with
  | mk result k =>
    cases done' : act'.on h' with
    | mk result' k' =>
      rw [done, done'] at ended left
      cases ended with
      | error same => exact ⟨.error same, left⟩
      | ok same => exact rest _ _ same k k' left

theorem Alike.bind_same {γ : Type} {act act' : Act γ} {next : γ → Act β} {next' : γ → Act β'}
    (first : act.Alike Eq act') (rest : ∀ a, (next a).Alike S (next' a)) :
    (act >>= next).Alike S (act' >>= next') := by
  refine first.bind fun a a' same => ?_
  cases same
  exact rest a

theorem Alike.then {act act' : Act Unit} {next : Act β} {next' : Act β'}
    (first : act.Alike Eq act') (rest : next.Alike S next') :
    (act >>= fun _ => next).Alike S (act' >>= fun _ => next') :=
  first.bind_same fun _ => rest

theorem Alike.map {act : Act α} {act' : Act α'} (alike : act.Alike R act') {f : α → β} {f' : α' → β'}
    (same : ∀ a a', R a a' → S (f a) (f' a')) : (f <$> act).Alike S (f' <$> act') := by
  rw [← bind_pure_comp, ← bind_pure_comp]
  exact alike.bind fun a a' related => alike_pure (same a a' related)

theorem Alike.attempt {act : Act α} {act' : Act α'} (alike : act.Alike R act') :
    act.attempt.Alike (Agree Failure.Alike R) act'.attempt := by
  intro h h' same
  obtain ⟨ended, left⟩ := alike h h' same
  exact ⟨.ok ended, left⟩

theorem Alike.ensuring {act : Act α} {act' : Act α'} (alike : act.Alike R act') {last : Host → Host}
    (same : ∀ h h', h.Alike h' → (last h).Alike (last h')) :
    (act.ensuring last).Alike R (act'.ensuring last) := by
  intro h h' begun
  obtain ⟨ended, left⟩ := alike h h' begun
  exact ⟨ended, same _ _ left⟩

/-! ## Files -/

theorem alike_inspect {path : Path} {problem : Path → OsError → StorageProblem}
    {query : FileSystem → Path → Except OsError α} {query' : FileSystem → Path → Except OsError α'}
    (same : ∀ fs fs' : FileSystem, fs.Alike fs' → Agree Eq R (query fs path) (query' fs' path)) :
    (inspect path problem query).Alike R (inspect path problem query') := by
  intro h h' alike
  rw [inspect_on, inspect_on]
  refine ⟨?_, alike⟩
  by_cases nul : path.hasNul = true
  · rw [if_pos nul, if_pos nul]
    exact .error (.refl _)
  · rw [if_neg nul, if_neg nul]
    exact ((same h.files h'.files alike.files).mapError _).of_eq

theorem alike_search (directory : Path) :
    (search directory).Alike (List.Forall₂ Node.AlikeAt) (search directory) :=
  (alike_record (.refl _)).then (alike_inspect fun _ _ same => same.list directory)

theorem alike_unlink (path : Path) (shown : Text) :
    (unlink path shown).Alike Eq (unlink path shown) :=
  (alike_inspect fun _ _ same => same.unlink path).bind fun _ _ same =>
    alike_change fun _ _ alike => alike.withFiles same

end Act

/-! ## The lock -/

theorem alike_lockFile (path : Path) :
    (QueueLock.lockFile path).Alike Eq (QueueLock.lockFile path) := by
  intro h h' alike
  rw [QueueLock.lockFile_on, QueueLock.lockFile_on]
  by_cases nul : path.hasNul = true
  · rw [if_pos nul, if_pos nul]
    exact ⟨.error (.refl _), alike⟩
  · rw [if_neg nul, if_neg nul]
    have agree := alike.files.openOrCreate QueueLock.fileMode path
    generalize h.files.openOrCreate QueueLock.fileMode path = opened at agree
    generalize h'.files.openOrCreate QueueLock.fileMode path = opened' at agree
    cases agree with
    | error reason =>
      cases reason
      exact ⟨.error (.refl _), alike⟩
    | @ok made made' same =>
      obtain ⟨l, files⟩ := made
      obtain ⟨l', files'⟩ := made'
      obtain ⟨rfl, same⟩ := same
      have locked : l ∈ h'.locked ↔ l ∈ h.locked := by rw [alike.locked]
      by_cases held : l ∈ h.locked
      · simp only [if_pos held, if_pos (locked.2 held)]
        exact ⟨.error (.refl _), alike.files_of same⟩
      · simp only [if_neg held, if_neg (held ∘ locked.1)]
        exact ⟨.ok rfl, alike.lock l same⟩

theorem alike_withLock {α α' : Type} {R : α → α' → Prop} (directory : Path) {act : Act α}
    {act' : Act α'} (under : act.Alike R act') :
    (withLock directory act).Alike R (withLock directory act') := by
  refine (alike_lockFile _).bind_same fun l => ?_
  exact under.ensuring fun _ _ alike => alike.unlock l

end AccountRelay
