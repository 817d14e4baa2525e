import AccountRelay.Proofs.Change
import AccountRelay.Proofs.Secrecy.Acts
/-!
# Operations on changes that differ in passwords

Whatever is done with two changes that differ in passwords, on hosts that do, is done alike: no name,
message, check or decision depends on a password. Only a collaborator could make a difference. It is
blind if it makes none.
-/

namespace AccountRelay

/-! ## The queue -/

namespace Queue

theorem listed_of_alike {found found' : List (Text × Node)}
    (alike : List.Forall₂ Node.AlikeAt found found') : listed found = listed found' := by
  refine congrArg Text.sort (List.forall₂_eq_eq_eq ▸
    (List.rel_filterMap (R := Node.AlikeAt) (P := Eq) ?_ alike))
  rintro ⟨name, node⟩ ⟨name', node'⟩ ⟨rfl, same⟩
  cases same with
  | directory => exact .none
  | file mode content =>
    simp only
    split
    · exact .some rfl
    · exact .none

theorem alike_directory (q : Queue) : q.directory.Alike Eq q.directory := by
  obtain ⟨_ | directory⟩ := q
  · exact Act.alike_throw (.refl _)
  · exact Act.alike_pure rfl

theorem alike_path (q : Queue) (name : Text) : (q.path name).Alike Eq (q.path name) :=
  q.alike_directory.bind_same fun _ => Act.alike_pure rfl

theorem alike_scan (directory : Path) (key : Text) :
    (scan directory key).Alike Eq (scan directory key) := by
  refine (Act.alike_search directory).bind fun found found' same => Act.alike_pure ?_
  have names := congrArg (List.any · fun name => name.startsWith key) (Node.fst_of_alikeAt same)
  rwa [List.any_map, List.any_map] at names

theorem alike_freeSequence (directory : Path) (key second : Text) :
    (freeSequence directory key second).Alike Eq (freeSequence directory key second) := by
  refine (Act.alike_search directory).bind fun found found' same => ?_
  rw [Node.fst_of_alikeAt same]
  exact Act.alike_orFault _

theorem alike_createFrom (directory : Path) (key second : Text) {content content' : Bytes}
    (alike : ContentAlike content content') (sequence tries : Nat) :
    (createFrom directory key second content sequence tries).Alike Eq
      (createFrom directory key second content' sequence tries) := by
  induction tries generalizing sequence with
  | zero => exact Act.alike_throw (.refl _)
  | succ tries ih =>
    rw [createFrom, createFrom]
    refine (Act.alike_record (.refl _)).then ?_
    refine (Act.alike_ask (R := FileSystem.Alike) fun _ _ same => same.files).bind
      fun fs fs' same => ?_
    have made := same.create entryMode alike (directory.join (EntryName.compose key second sequence))
    generalize fs.create _ _ _ = created at made ⊢
    generalize fs'.create _ _ _ = created' at made ⊢
    cases made with
    | ok same =>
      exact (Act.alike_change fun _ _ alike => alike.files_of same).then (Act.alike_pure rfl)
    | @error e e' reason =>
      cases reason
      cases e with
      | alreadyExists => exact ih (sequence + 1)
      | _ => exact Act.alike_throw (.refl _)

section Change

variable {c c' : Change} (alike : c.Alike c')

include alike

theorem alike_write (directory : Path) (moment : Option Moment) :
    (write directory c moment).Alike Eq (write directory c' moment) := by
  unfold write
  rw [← alike.key, ← alike.account]
  have written := alike.content?
  generalize content? c = given at written ⊢
  generalize content? c' = given' at written ⊢
  cases written with
  | none => exact Act.alike_throw (.refl _)
  | some content =>
    refine (Act.alike_ask fun _ _ same => same.clock).bind_same fun now => ?_
    cases (moment.getD now).stamp? with
    | none => exact Act.alike_throw (.refl _)
    | some second =>
      refine (alike_freeSequence directory c.key second).bind_same fun sequence => ?_
      exact alike_createFrom directory c.key second content sequence _

theorem alike_enqueue (q : Queue) (moment : Option Moment) :
    (q.enqueue c moment).Alike Eq (q.enqueue c' moment) := by
  unfold enqueue
  rw [← alike.account, ← alike.operation]
  refine q.alike_directory.bind_same fun directory => ?_
  refine (alike_withLock directory (alike_write alike directory moment)).bind_same fun name => ?_
  exact (Act.alike_log _ _).then (Act.alike_pure rfl)

theorem alike_enqueueBehind (q : Queue) (moment : Option Moment) :
    (q.enqueueBehind c moment).Alike Eq (q.enqueueBehind c' moment) := by
  unfold enqueueBehind
  rw [← alike.account, ← alike.operation, ← alike.key]
  refine q.alike_directory.bind_same fun directory => ?_
  refine (alike_withLock directory ?_).bind_same fun name => ?_
  · refine (alike_scan directory c.key).bind_same fun pending => ?_
    cases pending with
    | false => exact Act.alike_pure rfl
    | true =>
      exact (alike_write alike directory moment).bind_same fun _ => Act.alike_pure rfl
  · cases name with
    | none => exact Act.alike_pure rfl
    | some name => exact (Act.alike_log _ _).then (Act.alike_pure rfl)

end Change

theorem alike_entries (q : Queue) : q.entries.Alike Eq q.entries := by
  refine q.alike_directory.bind_same fun directory => ?_
  exact alike_withLock directory ((Act.alike_search directory).bind fun _ _ same =>
    Act.alike_pure (listed_of_alike same))

end Queue

namespace Entry

theorem alike_read (file : Path) : (read file).Alike Entry.Alike (read file) :=
  (Act.alike_inspect fun _ _ same => same.read file).bind fun _ _ content =>
    Act.alike_ofResult (content.ofBytes file).of_eq

theorem alike_remove (file : Path) : (remove file).Alike Eq (remove file) :=
  Act.alike_unlink file _

end Entry

/-! ## Collaborators -/

structure Reply.Alike (r r' : Reply) : Prop where
  files : r.files.Alike r'.files
  failure : Option.Rel Failure.Alike r.failure r'.failure

/-- Whatever the password of the call, and whatever passwords are in files, the backend accepts the
change, or fails with the same class and text, and does the same to the files. -/
def Backend.Blind (backend : Backend) : Prop :=
  ∀ call call' h h', Call.Alike call call' → Host.Alike h h' →
    (backend call h).Alike (backend call' h')

/-- A backend that leaves the files alone and goes by account and operation is blind. -/
theorem Backend.blind_of_answer (answer : Text → Operation → Option Failure) :
    Backend.Blind fun call h => ⟨h.files, answer call.account call.operation⟩ := by
  intro call call' h h' alike begun
  refine ⟨begun.files, ?_⟩
  simp only [alike.account, alike.operation]
  cases answer call'.account call'.operation with
  | none => exact .none
  | some e => exact .some (.refl e)

/-- Whatever passwords are in files, the instance exists or not, or asking fails in the same way. -/
def InstanceCheck.Blind (check : InstanceCheck) : Prop :=
  ∀ principal inst h h', Host.Alike h h' →
    Agree Failure.Alike Eq (check principal inst h) (check principal inst h')

section Backend

variable {backend : Backend} (blind : backend.Blind)

include blind

theorem Backend.alike_deliver {call call' : Call} (alike : call.Alike call') :
    (backend.deliver call).Alike Eq (backend.deliver call') := by
  refine (Act.alike_record (.called alike)).then ?_
  refine (Act.alike_ask (blind call call' · · alike)).bind fun reply reply' same => ?_
  refine (Act.alike_change fun _ _ begun => begun.withFiles same.files).then ?_
  have ended := same.failure
  generalize reply.failure = failure at ended ⊢
  generalize reply'.failure = failure' at ended ⊢
  cases ended with
  | none => exact Act.alike_record (.delivered alike)
  | some reason => exact Act.alike_throw reason

theorem alike_replay (defaultRealm : Text) (file : Path) :
    (replay backend defaultRealm file).Alike Entry.Alike (replay backend defaultRealm file) := by
  refine (Entry.alike_read file).bind fun entry entry' same => ?_
  rw [← same.account, ← same.operation, ← same.path]
  cases Principal.parse entry.account defaultRealm with
  | error f => exact Act.alike_throw (.refl _)
  | ok principal =>
    refine (Act.alike_log _ _).then ?_
    have call : Call.Alike ⟨principal.unparse, entry.operation, entry.password⟩
        ⟨principal.unparse, entry.operation, entry'.password⟩ := ⟨rfl, rfl, same.password⟩
    refine (Backend.alike_deliver blind call).then ?_
    refine (Entry.alike_remove entry.path).then ?_
    exact (Act.alike_log _ _).then (Act.alike_pure same)

theorem Drain.alike_run (defaultRealm : Text) (q : Queue) (blocked : List Text) (r : Drained)
    (names : List Text) :
    (run backend defaultRealm q blocked r names).Alike Eq
      (run backend defaultRealm q blocked r names) := by
  induction names generalizing blocked r with
  | nil => exact Act.alike_pure rfl
  | cons name rest ih =>
    rw [run]
    split
    · exact (Act.alike_log _ _).then (ih _ _)
    · have replayed := (q.alike_path name).bind_same fun file => alike_replay blind defaultRealm file
      refine replayed.attempt.bind fun result result' ended => ?_
      cases ended with
      | ok same => exact ih _ _
      | error reason =>
        -- Both failures are told, both are taken for a vanished entry, or both end the drain.
        obtain ⟨same, same'⟩ | ⟨same, same'⟩ | ⟨same, same'⟩ := reason.outcome
        · rw [same, same']
          simp only [← reason.report]
          exact (Act.alike_log _ _).then (ih _ _)
        · rw [same, same']
          exact (Act.alike_log _ _).then (ih _ _)
        · rw [same, same']
          exact Act.alike_throw reason

theorem alike_drain (defaultRealm : Text) (queue : Option Queue) :
    (drain backend defaultRealm queue).Alike Eq (drain backend defaultRealm queue) := by
  cases queue with
  | none => exact Act.alike_throw (.refl _)
  | some q =>
    refine q.alike_entries.bind_same fun names => ?_
    refine (Drain.alike_run blind defaultRealm q [] _ names).bind_same fun r => ?_
    exact (Act.alike_log _ _).then (Act.alike_pure rfl)

end Backend

/-! ## Propagations -/

/-- The text can be a password, and is read as one line whatever lines end with. -/
structure Text.Plain (t : Text) : Prop where
  nonempty : t ≠ []
  encodable : t.encode?.isSome = true
  newline : .char '\n' ∉ t
  carriageReturn : .char '\r' ∉ t

theorem Change.compose_of_plain (who : Who) {t : Text} (plain : t.Plain) :
    compose who Operation.password.word (some t) = match who.principal? with
      | .error f => .error (.parse (.principal who.display f))
      | .ok principal => .ok ⟨principal, .ad,
          .setPassword ⟨t, plain.nonempty, plain.newline, plain.encodable⟩⟩ := by
  have checked : Action.check .password (some t) =
      .ok (.setPassword ⟨t, plain.nonempty, plain.newline, plain.encodable⟩) :=
    Action.check_operation_password (.setPassword ⟨t, _, _, _⟩)
  rw [compose_eq]
  cases who.principal? with
  | error f => rfl
  | ok principal => simp only [Operation.ofWord?_word, checked]

theorem Change.compose_alike (who : Who) {t t' : Text} (plain : t.Plain) (plain' : t'.Plain) :
    Agree Failure.Alike Change.Alike (compose who Operation.password.word (some t))
      (compose who Operation.password.word (some t')) := by
  rw [compose_of_plain who plain, compose_of_plain who plain']
  cases who.principal? with
  | error f => exact .error (.refl _)
  | ok principal => exact .ok (.password principal .ad plain.carriageReturn plain'.carriageReturn)

namespace Relay

variable {r : Relay} {c c' : Change}

section Permits

variable (blind : ∀ check, r.instanceExists = some check → check.Blind) (alike : c.Alike c')

include blind alike

theorem alike_hasBaseInstance (base : Text) :
    (r.hasBaseInstance c base).Alike Eq (r.hasBaseInstance c' base) := by
  unfold hasBaseInstance
  rw [← alike.principal, ← alike.operation]
  split
  · exact Act.alike_pure rfl
  · rename_i check given
    split
    · refine (Act.alike_record (.refl _)).then ?_
      refine (Act.alike_ask (blind check given c.principal base)).bind fun known known' same => ?_
      exact Act.alike_ofResult same
    · exact Act.alike_pure rfl

theorem alike_permits : (r.permits c).Alike Eq (r.permits c') := by
  unfold permits
  rw [← alike.principal]
  split
  · split
    · exact Act.alike_pure rfl
    · exact (Act.alike_log _ _).then (Act.alike_pure rfl)
  · refine (alike_hasBaseInstance blind alike _).bind_same fun known => ?_
    cases known with
    | false => exact Act.alike_pure rfl
    | true => exact (Act.alike_log _ _).then (Act.alike_pure rfl)

end Permits

theorem alike_deliverOrQueue {backend : Backend} (blind : backend.Blind) (alike : c.Alike c') :
    (r.deliverOrQueue backend c).Alike Eq (r.deliverOrQueue backend c') := by
  unfold deliverOrQueue
  rw [← alike.principal, ← alike.operation]
  have call : Call.Alike ⟨c.principal.unparse, c.operation, c.password⟩
      ⟨c.principal.unparse, c.operation, c'.password⟩ := ⟨rfl, rfl, alike.password_isSome⟩
  refine (Backend.alike_deliver blind call).attempt.bind fun result result' ended => ?_
  cases ended with
  | ok same => exact (Act.alike_log _ _).then (Act.alike_pure rfl)
  | error reason =>
    simp only [← reason.kind, ← reason.text]
    split
    · refine (Act.alike_log _ _).then ?_
      exact (Queue.alike_enqueue alike r.queue none).bind_same fun _ => Act.alike_pure rfl
    · exact Act.alike_throw reason

structure Blind (r : Relay) : Prop where
  backend : ∀ backend, r.backend = some backend → backend.Blind
  instanceExists : ∀ check, r.instanceExists = some check → check.Blind

variable (blind : r.Blind)

include blind

theorem alike_propagate (alike : c.Alike c') : (r.propagate c).Alike Eq (r.propagate c') := by
  unfold propagate
  refine (alike_permits blind.instanceExists alike).bind_same fun permits => ?_
  cases permits with
  | false => exact Act.alike_pure rfl
  | true =>
    simp only [Bool.not_true, Bool.false_eq_true, if_false]
    split
    · exact (Queue.alike_enqueue alike r.queue none).bind_same fun _ => Act.alike_pure rfl
    · split
      · exact (Act.alike_log _ _).then (Act.alike_pure rfl)
      · rename_i backend configured
        refine (Queue.alike_enqueueBehind alike r.queue none).bind_same fun name => ?_
        cases name with
        | none => exact alike_deliverOrQueue (blind.backend backend configured) alike
        | some name => exact Act.alike_pure rfl

theorem alike_changePassword (who : Who) {t t' : Text} (plain : t.Plain) (plain' : t'.Plain) :
    (r.changePassword who (some t)).Alike Eq (r.changePassword who (some t')) :=
  (Act.alike_ofResult (Change.compose_alike who plain plain')).bind fun _ _ alike =>
    alike_propagate blind alike

theorem alike_changeStatus (who : Who) (enabled : Bool) :
    (r.changeStatus who enabled).Alike Eq (r.changeStatus who enabled) :=
  (Act.alike_ofResult (.refl _)).bind_same fun c => alike_propagate blind (.refl c)

end Relay

end AccountRelay
