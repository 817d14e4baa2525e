import AccountRelay.Proofs.Run
import AccountRelay.Proofs.Secrecy.Operations
/-!
# Passwords do not leak

Two runs that differ only in the passwords they are given differ only where passwords belong: in the
last line of queue files and in the calls of the backend. All steps end in the same way, the same files
are there under the same names, and the same messages are logged.

This holds of passwords without carriage returns. A queue file with one is not read as it was written,
so a drain reports it.
-/

namespace AccountRelay

/-! ## Steps -/

def Request.Blind : Request → Prop
  | changePassword relay _ _ => relay.Blind
  | changeStatus relay _ _ => relay.Blind
  | propagate relay _ => relay.Blind
  | drain backend _ => backend.Blind
  | enqueue _ _ => True
  | enqueueBehind _ _ => True
  | delete _ => True

/-- The requests are the same, or differ in the password that they give. -/
inductive Request.Alike : Request → Request → Prop where
  | same {request : Request} (blind : request.Blind) : Alike request request
  | password {relay : Relay} (blind : relay.Blind) (who : Who) {t t' : Text} (plain : t.Plain)
    (plain' : t'.Plain) :
    Alike (.changePassword relay who (some t)) (.changePassword relay who (some t'))

structure Step.Alike (step step' : Step) : Prop where
  clock : step.clock = step'.clock
  request : step.request.Alike step'.request

theorem Relay.Blind.withQueue {r : Relay} (blind : r.Blind) (q : Queue) :
    Relay.Blind { r with queue := q } :=
  ⟨blind.backend, blind.instanceExists⟩

theorem Request.Alike.act {request request' : Request} (alike : request.Alike request') (q : Queue) :
    (request.act q).Alike Eq (request'.act q) := by
  have answered {α : Type} {act act' : Act α} (alike : act.Alike Eq act') (answer : α → Answer) :
      (answer <$> act).Alike Eq (answer <$> act') :=
    alike.map fun _ _ same => congrArg answer same
  cases alike with
  | password blind who plain plain' =>
    exact answered (Relay.alike_changePassword (blind.withQueue q) who plain plain') _
  | same blind =>
    cases request with
    | changePassword relay who password =>
      refine answered ?_ _
      cases password with
      | none => exact (Act.alike_log _ _).then (Act.alike_pure rfl)
      | some t =>
        exact (Act.alike_ofResult (.refl _)).bind_same fun c =>
          Relay.alike_propagate (blind.withQueue q) (.refl c)
    | changeStatus relay who enabled =>
      exact answered (Relay.alike_changeStatus (blind.withQueue q) who enabled) _
    | propagate relay c => exact answered (Relay.alike_propagate (blind.withQueue q) (.refl c)) _
    | enqueue c moment => exact answered (Queue.alike_enqueue (.refl c) q moment) _
    | enqueueBehind c moment => exact answered (Queue.alike_enqueueBehind (.refl c) q moment) _
    | drain backend defaultRealm => exact answered (alike_drain blind defaultRealm (some q)) _
    | delete name =>
      exact answered ((q.alike_path name).bind_same fun file => Entry.alike_remove file) _

theorem Host.Alike.begin {h h' : Host} {step step' : Step} (alike : h.Alike h')
    (same : step.Alike step') : (step.begin h).Alike (step'.begin h') :=
  ⟨alike.files, alike.locked, same.clock, alike.journal⟩

/-! ## Runs -/

def answers (q : Queue) (h : Host) : List Step → List (Except Failure Answer)
  | [] => []
  | step :: rest =>
    ((step.request.act q).on (step.begin h)).1 ::
      answers q ((step.request.act q).on (step.begin h)).2 rest

section Runs

variable {q : Queue} {steps steps' : List Step}

theorem answers_alike (alike : List.Forall₂ Step.Alike steps steps') {h h' : Host}
    (begun : h.Alike h') :
    List.Forall₂ (Agree Failure.Alike Eq) (answers q h steps) (answers q h' steps') := by
  induction alike generalizing h h' with
  | nil => exact .nil
  | cons first _ ih =>
    obtain ⟨ended, left⟩ := first.request.act q _ _ (begun.begin first)
    exact .cons ended (ih left)

theorem host_alike (alike : List.Forall₂ Step.Alike steps steps') {s s' : Progress}
    (begun : s.host.Alike s'.host) :
    (steps.foldl (Progress.after q) s).host.Alike (steps'.foldl (Progress.after q) s').host := by
  induction alike generalizing s s' with
  | nil => exact begun
  | cons first _ ih => exact ih (first.request.act q _ _ (begun.begin first)).2

/-- Whoever sees the one run but for its passwords cannot tell it from the other. -/
structure RunsAlike (q : Queue) (h : Host) (steps steps' : List Step) : Prop where
  /-- The steps have the same results, or fail with the same class and text. -/
  answers : List.Forall₂ (Agree Failure.Alike Eq) (answers q { h with journal := [] } steps)
    (AccountRelay.answers q { h with journal := [] } steps')
  /-- The same files are there. -/
  locations : (run q h steps).host.files.nodes.map Prod.fst =
    (run q h steps').host.files.nodes.map Prod.fst
  /-- They differ in the passwords of queued changes. -/
  files : (run q h steps).host.files.Alike (run q h steps').host.files
  messages : (run q h steps).host.journal.messages = (run q h steps').host.journal.messages
  /-- The backend is called for the same accounts and operations, in the same order. -/
  calls : List.Forall₂ Call.Alike (run q h steps).host.journal.calls
    (run q h steps').host.journal.calls

/-- Runs that differ only in the passwords they are given cannot be told apart without looking at
passwords. -/
theorem runs_alike (q : Queue) (h : Host) (alike : List.Forall₂ Step.Alike steps steps') :
    RunsAlike q h steps steps' := by
  let begun : Progress := ⟨{ h with journal := [] }, []⟩
  have ended : (run q h steps).host.Alike (run q h steps').host :=
    @host_alike q steps steps' alike begun begun (.refl _)
  exact ⟨answers_alike alike (.refl _), Node.fst_of_alikeAt ended.files.nodes, ended.files,
    Journal.messages_of_alike ended.journal, Journal.calls_of_alike ended.journal⟩

/-- The first password waits and is delivered, and the second one is left waiting. -/
theorem runs_alike_of_two :
    let p : Path := ⟨[], ["queue"]⟩
    let h := Host.withDirectory "queue" .newYear
    let settings : Settings := ⟨none, false, none, none, [], none, false, []⟩
    let relay : Relay := ⟨settings, some .refusing, ⟨none⟩, none⟩
    let steps (first second : Text) : List Step :=
      [⟨.newYear, .changePassword relay (.name "test") (some first)⟩,
        ⟨.newYear, .drain .accepting "EXAMPLE.COM"⟩,
        ⟨.newYear, .changePassword relay (.name "test") (some second)⟩]
    List.Forall₂ Step.Alike (steps "apple" "pear") (steps "plum" "quince") ∧
      (run ⟨some p⟩ h (steps "apple" "pear")).host.journal.calls.filterMap Call.password =
        ["apple", "apple", "pear"] ∧
      (run ⟨some p⟩ h (steps "plum" "quince")).host.journal.calls.filterMap Call.password =
        ["plum", "plum", "quince"] ∧
      RunsAlike ⟨some p⟩ h (steps "apple" "pear") (steps "plum" "quince") := by
  intro p h settings relay steps
  have accepting : Backend.accepting.Blind := Backend.blind_of_answer fun _ _ => none
  have blind : relay.Blind := by
    refine ⟨?_, nofun⟩
    rintro backend ⟨⟩
    exact Backend.blind_of_answer fun _ _ => some (.reported .delivery "not now" none)
  have alike : List.Forall₂ Step.Alike (steps "apple" "pear") (steps "plum" "quince") :=
    .cons ⟨rfl, .password blind _ ⟨by decide, by decide, by decide, by decide⟩
        ⟨by decide, by decide, by decide, by decide⟩⟩ <|
      .cons ⟨rfl, .same accepting⟩ <|
      .cons ⟨rfl, .password blind _ ⟨by decide, by decide, by decide, by decide⟩
        ⟨by decide, by decide, by decide, by decide⟩⟩ .nil
  exact ⟨alike, by decide +kernel, by decide +kernel, runs_alike _ h alike⟩

/-- A carriage return in a waiting password tells, because its file is not read as it was written. -/
example :
    let p : Path := ⟨[], ["queue"]⟩
    let settings : Settings := ⟨none, false, none, none, [], none, false, []⟩
    let relay : Relay := ⟨settings, some .refusing, ⟨none⟩, none⟩
    let ended (t : Text) := answers ⟨some p⟩ (Host.withDirectory "queue" .newYear)
      [⟨.newYear, .changePassword relay (.name "test") (some t)⟩,
        ⟨.newYear, .drain .accepting "EXAMPLE.COM"⟩]
    ended "secret" ≠ ended "sec\rret" := by
  decide +kernel

end Runs

end AccountRelay
