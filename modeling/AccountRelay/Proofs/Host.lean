import Mathlib.Order.Defs.Unbundled
import AccountRelay.Host
/-!
# What acts keep

A relation between hosts that is reflexive and transitive is kept by an act when its parts keep it,
whichever of them fails. The lock of a directory is the exception: while it is held the host is not
as it was, so an act under the lock is described by what the lock leaves to it.
-/

namespace AccountRelay

section MapError

variable {ε ε' α : Type} (f : ε → ε')

@[simp] theorem mapError_ok (a : α) : (Except.ok a : Except ε α).mapError f = .ok a := rfl

@[simp] theorem mapError_error (e : ε) :
    (Except.error e : Except ε α).mapError f = .error (f e) := rfl

theorem bind_eq_ok_iff {β : Type} {x : Except ε α} {next : α → Except ε β} {b : β} :
    (x >>= next) = .ok b ↔ ∃ a, x = .ok a ∧ next a = .ok b := by
  cases x with
  | error e => exact ⟨nofun, nofun⟩
  | ok a =>
    constructor
    · intro done
      exact ⟨a, rfl, done⟩
    · rintro ⟨_, ⟨⟩, done⟩
      exact done

end MapError

namespace Journal

theorem calls_append (j k : Journal) : calls (j ++ k) = calls j ++ calls k := List.filterMap_append

theorem deliveries_append (j k : Journal) : deliveries (j ++ k) = deliveries j ++ deliveries k :=
  List.filterMap_append

end Journal

namespace Act

@[simp] theorem on_map {α β : Type} (f : α → β) (act : Act α) (h : Host) :
    (f <$> act).on h = ((act.on h).1.map f, (act.on h).2) := by
  rw [← bind_pure_comp, on_bind]
  rcases act.on h with ⟨_ | a, h'⟩ <;> rfl

theorem on_eq_of_fst {α : Type} {act : Act α} {h : Host} {result : Except Failure α}
    (ended : (act.on h).1 = result) : act.on h = (result, (act.on h).2) := by
  subst ended
  rfl

theorem fst_on_bind {α : Type} {act : Act α} {next : α → Act α}
    (same : ∀ a h, ((next a).on h).1 = .ok a) (h : Host) :
    ((act >>= next).on h).1 = (act.on h).1 := by
  rw [on_bind]
  rcases act.on h with ⟨_ | a, h'⟩
  · rfl
  · exact same a h'

/-! ## What the primitives do -/

section Primitives

variable {α : Type} (h : Host)

theorem on_log (level : Level) (message : Text) :
    (log level message).on h = (.ok (), h.record (.logged level message)) := rfl

theorem inspect_on (path : Path) (problem : Path → OsError → StorageProblem)
    (query : FileSystem → Path → Except OsError α) :
    (inspect path problem query).on h =
      (if path.hasNul then .error (.fault .nulInPath)
        else (query h.files path).mapError fun e => .storage (problem path e), h) := by
  unfold inspect requireName
  by_cases nul : path.hasNul = true
  · simp [nul]
  · simp only [nul]
    cases answer : query h.files path with
    | error e => simp [on_bind, answer]
    | ok a => simp [on_bind, answer]

theorem search_on (directory : Path) :
    (search directory).on h =
      (if directory.hasNul then .error (.fault .nulInPath)
        else (h.files.list directory).mapError fun e => .storage (.openDirectory directory e),
        h.record (.searched directory)) := by
  unfold search
  rw [on_bind_of_ok h _ (on_record h _), inspect_on]
  rfl

theorem readFile_on (path : Path) :
    (readFile path).on h =
      (if path.hasNul then .error (.fault .nulInPath)
        else (h.files.read path).mapError fun e => .storage (.readEntry path e), h) :=
  inspect_on h path .readEntry FileSystem.read

theorem unlink_on (path : Path) (shown : Text) (refusal : FileSystem.Refusal) :
    (unlink path shown refusal).on h =
      if path.hasNul then (.error (.fault .nulInPath), h)
      else match h.files.unlink path refusal with
        | .ok files => (.ok (), h.withFiles files)
        | .error e => (.error (.storage (.unlinkEntry shown e)), h) := by
  unfold unlink
  rw [on_bind, inspect_on]
  by_cases nul : path.hasNul = true
  · simp [nul]
  · simp only [nul]
    cases h.files.unlink path refusal with
    | error e => rfl
    | ok files => rfl

end Primitives

/-! ## Relations that acts keep -/

/-- However the act ends, the host after it stands in the relation to the host before it. -/
def Keeps {α : Type} (R : Host → Host → Prop) (act : Act α) : Prop := ∀ h, R h (act.on h).2

section Keeps

variable {α β : Type} {R : Host → Host → Prop}

theorem Keeps.of_on {act : Act α} (kept : Keeps R act) {h h' : Host} {result : Except Failure α}
    (done : act.on h = (result, h')) : R h h' := by
  have here := kept h
  rwa [done] at here

theorem Keeps.map {act : Act α} (kept : Keeps R act) (f : α → β) : Keeps R (f <$> act) := by
  intro h
  rw [on_map]
  exact kept h

variable [Std.Refl R]

theorem keeps_pure (a : α) : Keeps R (pure a : Act α) := fun h => Std.Refl.refl h

theorem keeps_ask (question : Host → α) : Keeps R (ask question) := fun h => Std.Refl.refl h

theorem keeps_ofResult (r : Except Failure α) : Keeps R (ofResult r) := by
  intro h
  rw [on_ofResult]
  exact Std.Refl.refl h

variable [IsTrans Host R]

omit [Std.Refl R] in
theorem Keeps.bind {act : Act α} {next : α → Act β} (first : Keeps R act)
    (rest : ∀ a, Keeps R (next a)) : Keeps R (act >>= next) := by
  intro h
  rw [on_bind]
  have kept := first h
  cases done : act.on h with
  | mk result h' =>
    rw [done] at kept
    cases result with
    | error e => exact kept
    | ok a => exact IsTrans.trans _ _ _ kept (rest a h')

end Keeps

end Act

end AccountRelay
