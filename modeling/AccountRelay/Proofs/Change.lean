import AccountRelay.Propagate
/-!
# Which changes can be made

A change is made of a principal, the word for an operation, and a password, of which an empty one
counts as none. They are looked at in this order, and the first that will not do is what the refusal
names. All refusals are of one kind. They come before anything is asked of the host, so an operation
that is refused its change leaves the host as it was.
-/

namespace AccountRelay

/-- What is given as a password will not do for the operation, for the reason named. -/
inductive Operation.Refuses : Operation → Option Text → Fault → Prop where
  | missing {given : Option Text} (empty : given.getD [] = []) :
    Refuses .password given .passwordMissing
  | newline {t : Text} (inside : .char '\n' ∈ t) : Refuses .password (some t) .passwordNewline
  | encoding {t : Text} (nonempty : t ≠ []) (oneLine : .char '\n' ∉ t) (stray : t.encode? = none) :
    Refuses .password (some t) .passwordEncoding
  | unexpected {o : Operation} {t : Text} (other : o ≠ .password) (nonempty : t ≠ []) :
    Refuses o (some t) (.passwordUnexpected o)

/-! ## Actions -/

namespace Action

variable {o : Operation} {given : Option Text} {action : Action} {f : Fault}

theorem isSome_password_iff (action : Action) :
    action.password.isSome = true ↔ action.operation = .password := by
  cases action with
  | setPassword p => exact ⟨fun _ => rfl, fun _ => rfl⟩
  | enable => exact ⟨nofun, nofun⟩
  | disable => exact ⟨nofun, nofun⟩

theorem valid_of_password {t : Text} (held : action.password = some t) :
    t ≠ [] ∧ .char '\n' ∉ t ∧ t.encode?.isSome = true := by
  cases action with
  | setPassword p =>
    cases held
    exact ⟨p.nonempty, p.oneLine, p.encodable⟩
  | enable => cases held
  | disable => cases held

theorem check_operation_password (action : Action) :
    check action.operation action.password = .ok action := by
  cases action with
  | setPassword p =>
    change check .password (some p.text) = _
    rw [check, dif_neg p.nonempty, dif_neg p.oneLine, dif_pos p.encodable]
  | enable => rfl
  | disable => rfl

theorem check_filter (o : Operation) (given : Option Text) :
    check o (given.filter (· ≠ [])) = check o given := by
  cases given with
  | none => rfl
  | some t =>
    cases t with
    | nil => cases o <;> rfl
    | cons c rest => rfl

theorem check_of_refuses (refuses : o.Refuses given f) : check o given = .error f := by
  cases refuses with
  | missing empty =>
    cases given with
    | none => rfl
    | some t =>
      obtain rfl : t = [] := empty
      rfl
  | newline inside => rw [check, dif_neg (List.ne_nil_of_mem inside), dif_pos inside]
  | encoding nonempty oneLine stray =>
    rw [check, dif_neg nonempty, dif_neg oneLine, dif_neg (by simp [stray])]
  | unexpected other nonempty =>
    cases o with
    | password => exact absurd rfl other
    | enable => exact if_neg nonempty
    | disable => exact if_neg nonempty

/-- What is given with an operation makes an action, or is refused. -/
theorem made_or_refuses (o : Operation) (given : Option Text) :
    (∃ action : Action, action.operation = o ∧ action.password = given.filter (· ≠ [])) ∨
      ∃ f, o.Refuses given f := by
  by_cases empty : given.getD [] = []
  · have none : given.filter (· ≠ []) = none := by
      cases given with
      | none => rfl
      | some t =>
        obtain rfl : t = [] := empty
        rfl
    rw [none]
    cases o with
    | password => exact .inr ⟨_, .missing empty⟩
    | enable => exact .inl ⟨enable, rfl, rfl⟩
    | disable => exact .inl ⟨disable, rfl, rfl⟩
  · obtain ⟨t, rfl⟩ : ∃ t, given = some t := by
      cases given with
      | none => exact absurd rfl empty
      | some t => exact ⟨t, rfl⟩
    have nonempty : t ≠ [] := empty
    cases o with
    | password =>
      by_cases oneLine : .char '\n' ∈ t
      · exact .inr ⟨_, .newline oneLine⟩
      · cases bytes : t.encode? with
        | none => exact .inr ⟨_, .encoding nonempty oneLine bytes⟩
        | some b =>
          have encodable : t.encode?.isSome = true := by rw [bytes]; rfl
          refine .inl ⟨setPassword ⟨t, nonempty, oneLine, encodable⟩, rfl, ?_⟩
          rw [Option.filter_some, if_pos (decide_eq_true nonempty)]
          rfl
    | enable => exact .inr ⟨_, .unexpected nofun nonempty⟩
    | disable => exact .inr ⟨_, .unexpected nofun nonempty⟩

theorem check_eq_ok_iff :
    check o given = .ok action ↔ action.operation = o ∧ action.password = given.filter (· ≠ []) := by
  constructor
  · intro checked
    obtain ⟨made, rfl, password⟩ | ⟨f, refuses⟩ := made_or_refuses o given
    · rw [← check_filter, ← password, check_operation_password] at checked
      cases checked
      exact ⟨rfl, password⟩
    · cases checked.symm.trans (check_of_refuses refuses)
  · rintro ⟨rfl, password⟩
    rw [← check_filter, ← password, check_operation_password]

theorem check_eq_error_iff : check o given = .error f ↔ o.Refuses given f := by
  constructor
  · intro failed
    obtain ⟨action, made⟩ | ⟨g, refuses⟩ := made_or_refuses o given
    · cases failed.symm.trans (check_eq_ok_iff.2 made)
    · cases failed.symm.trans (check_of_refuses refuses)
      exact refuses
  · exact check_of_refuses

end Action

/-! ## Changes -/

namespace Change

variable {who : Who} {operation : Text} {password : Option Text}

theorem ofWord?_eq_none_iff {t : Text} :
    Operation.ofWord? t = none ↔ ∀ o : Operation, t ≠ o.word := by
  constructor
  · rintro unknown o rfl
    rw [Operation.ofWord?_word] at unknown
    cases unknown
  · intro unknown
    cases known : Operation.ofWord? t with
    | none => rfl
    | some o => exact absurd (Operation.word_of_ofWord? known) (unknown o)

theorem check_of_read {given : Value} (principal : Principal) (operation : Text)
    (read : Checked.optionalText "password" given.nullIfEmpty = .ok password) :
    check (.ok principal) none (some (.text operation)) given = match Operation.ofWord? operation with
      | none => .fail [.field "operation"] .notOperation
      | some o => match Action.check o password with
        | .error f => .fail [] (.fault f)
        | .ok action => .ok ⟨principal, .ad, action⟩ := by
  rw [check, read]
  cases known : Operation.ofWord? operation with
  | none =>
    have unknown : checkOperation (some (.text operation)) =
        .fail [.field "operation"] .notOperation := by
      simp only [checkOperation, known]
    rw [unknown]
    rfl
  | some o =>
    have chosen : checkOperation (some (.text operation)) = .ok o := by
      simp only [checkOperation, known]
    rw [chosen]
    rfl

theorem compose_eq (who : Who) (operation : Text) (password : Option Text) :
    compose who operation password = match who.principal? with
      | .error f => .error (.parse (.principal who.display f))
      | .ok principal => match Operation.ofWord? operation with
        | none => .error (.parse (.change operation who.display [.notOperation]))
        | some o => match Action.check o password with
          | .error f => .error (.parse (.change operation who.display [.fault f]))
          | .ok action => .ok ⟨principal, .ad, action⟩ := by
  unfold compose
  cases who.principal? with
  | error f => rfl
  | ok principal =>
    -- Validation takes an empty password for none, and the check of the action does so too.
    have checked (given : Value)
        (read : Checked.optionalText "password" given.nullIfEmpty = .ok (password.filter (· ≠ []))) :=
      check_of_read principal operation read
    simp only [Action.check_filter] at checked
    cases password with
    | none =>
      simp only [checked .null rfl]
      cases Operation.ofWord? operation with
      | none => rfl
      | some o =>
        simp only
        cases Action.check o none <;> rfl
    | some t =>
      simp only [checked (.text t) (by cases t <;> rfl)]
      cases Operation.ofWord? operation with
      | none => rfl
      | some o =>
        simp only
        cases Action.check o (some t) <;> rfl

/-- The change is what is asked for. Only one with a password is asked for with one, and the password
is such that it can be kept on a line. -/
structure MadeOf (c : Change) (who : Who) (operation : Text) (password : Option Text) : Prop where
  principal : who.principal? = .ok c.principal
  operation : operation = c.operation.word
  password : c.password = password.filter (· ≠ [])
  present : c.password.isSome = true ↔ c.operation = .password
  valid : ∀ t, c.password = some t → t ≠ [] ∧ .char '\n' ∉ t ∧ t.encode?.isSome = true

/-- No change can be made of what is given, and this is what is wrong with it. -/
inductive Refused (who : Who) (operation : Text) (password : Option Text) : ParseProblem → Prop where
  | principal {f : Fault} (unread : who.principal? = .error f) :
    Refused who operation password (.principal who.display f)
  | operation {p : Principal} (read : who.principal? = .ok p)
    (unknown : ∀ o : Operation, operation ≠ o.word) :
    Refused who operation password (.change operation who.display [.notOperation])
  | password {p : Principal} {o : Operation} {f : Fault} (read : who.principal? = .ok p)
    (known : operation = o.word) (refuses : o.Refuses password f) :
    Refused who operation password (.change operation who.display [.fault f])

theorem compose_eq_ok_iff {c : Change} :
    compose who operation password = .ok c ↔ c.MadeOf who operation password := by
  constructor
  · intro composed
    rw [compose_eq] at composed
    split at composed
    · cases composed
    · rename_i principal read
      split at composed
      · cases composed
      · rename_i o known
        split at composed
        · cases composed
        · rename_i action checked
          cases composed
          obtain ⟨rfl, given⟩ := Action.check_eq_ok_iff.1 checked
          exact ⟨read, Operation.word_of_ofWord? known, given, action.isSome_password_iff,
            fun t => Action.valid_of_password⟩
  · rintro ⟨read, rfl, given, -, -⟩
    have checked : Action.check c.operation password = .ok c.action :=
      Action.check_eq_ok_iff.2 ⟨rfl, given⟩
    rw [compose_eq, read]
    simp only [Operation.ofWord?_word, checked]

theorem compose_eq_error_iff {e : Failure} :
    compose who operation password = .error e ↔
      ∃ p, e = .parse p ∧ Refused who operation password p := by
  constructor
  · intro failed
    rw [compose_eq] at failed
    split at failed
    · rename_i f unread
      cases failed
      exact ⟨_, rfl, .principal unread⟩
    · rename_i principal read
      split at failed
      · rename_i unknown
        cases failed
        exact ⟨_, rfl, .operation read (ofWord?_eq_none_iff.1 unknown)⟩
      · rename_i o known
        split at failed
        · rename_i f checked
          cases failed
          exact ⟨_, rfl, .password read (Operation.word_of_ofWord? known)
            (Action.check_eq_error_iff.1 checked)⟩
        · cases failed
  · rintro ⟨p, rfl, refused⟩
    rw [compose_eq]
    cases refused with
    | principal unread => rw [unread]
    | operation read unknown => simp only [read, ofWord?_eq_none_iff.2 unknown]
    | password read known refuses =>
      subst known
      simp only [read, Operation.ofWord?_word, Action.check_of_refuses refuses]

end Change

namespace Relay

/-- What is given makes the change that is asked for, or is refused as unreadable. A new password or
a new status whose change is refused has no effect on the host. -/
theorem made_or_refused (r : Relay) (who : Who) (operation : Text) (password : Option Text) :
    (∀ c, Change.compose who operation password = .ok c ↔ c.MadeOf who operation password) ∧
      (∀ e, Change.compose who operation password = .error e ↔
        ∃ p, e = .parse p ∧ Change.Refused who operation password p) ∧
      (∀ t p h, Change.Refused who Operation.password.word (some t) p →
        (r.changePassword who (some t)).on h = (.error (.parse p), h)) ∧
      ∀ (enabled : Bool) p h,
        Change.Refused who (if enabled then Operation.enable else Operation.disable).word none p →
        (r.changeStatus who enabled).on h = (.error (.parse p), h) := by
  refine ⟨fun c => Change.compose_eq_ok_iff, fun e => Change.compose_eq_error_iff, ?_, ?_⟩
  · intro t p h refused
    have failed := Change.compose_eq_error_iff.2 ⟨p, rfl, refused⟩
    rw [changePassword, failed]
    rfl
  · intro enabled p h refused
    have failed := Change.compose_eq_error_iff.2 ⟨p, rfl, refused⟩
    rw [changeStatus, failed]
    rfl

/-- The password cannot be written either, but its newline is what it is refused for. The second name
ends in a backslash, and so neither the word for an operation nor the password is looked at. -/
theorem made_or_refused_of_newline :
    let r : Relay := ⟨⟨none, false, none, none, [], none, false, []⟩, some fun _ h => ⟨h.files, none⟩,
      ⟨some ⟨[], ["queue"]⟩⟩, none⟩
    let t : Text := [.char 'a', .byte 5, .char '\n']
    let newline : ParseProblem := .change "password" "a/b@R" [.fault .passwordNewline]
    let backslash : ParseProblem := .principal "test\\" (.trailingEscape "test\\")
    Change.Refused (.name "a/b@R") "password" (some t) newline ∧
      Change.Refused (.name "test\\") "disable" none backslash ∧
      (∀ e, Change.compose (.name "test\\") "rename" (some t) = .error e ↔
        ∃ p, e = .parse p ∧ Change.Refused (.name "test\\") "rename" (some t) p) ∧
      ∀ h, (r.changePassword (.name "a/b@R") (some t)).on h = (.error (.parse newline), h) ∧
        (r.changeStatus (.name "test\\") false).on h = (.error (.parse backslash), h) := by
  intro r t newline backslash
  have refused : Change.Refused (.name "a/b@R") Operation.password.word (some t) newline :=
    .password (p := ⟨["a", "b"], "R"⟩) (o := .password) rfl rfl (.newline (by decide))
  have unread : Change.Refused (.name "test\\") Operation.disable.word none backslash :=
    .principal rfl
  obtain ⟨-, -, passwords, -⟩ := r.made_or_refused (.name "a/b@R") "password" (some t)
  obtain ⟨-, failures, -, states⟩ := r.made_or_refused (.name "test\\") "rename" (some t)
  exact ⟨refused, unread, failures,
    fun h => ⟨passwords t newline h refused, states false backslash h unread⟩⟩

end Relay

end AccountRelay
