import Mathlib.Data.List.Induction
import AccountRelay.Proofs.Visibility
/-!
# Which changes are taken to be in conflict

A conflict is found by the beginning of a name: a change is taken to be pending when a name in the
directory starts with its key. Keys end at hyphens, and so do the parts of a name, so such a name has
the key, or its user goes on where the user of the key ends, with the rest of the key. No other change
is taken for a pending one, and every pending change is found.
-/

namespace AccountRelay

/-! ## Names that start with a key -/

namespace Text

/-- A beginning that ends with a mark lies before a mark of the text, or goes on behind it. -/
theorem marked_prefix_cases {mark : Symbol} {s t rest : Text}
    (h : s ++ [mark] <+: t ++ mark :: rest) :
    s ++ [mark] <+: t ++ [mark] ∨ ∃ more, s = t ++ mark :: more ∧ more ++ [mark] <+: rest := by
  induction t generalizing s with
  | nil =>
    cases s with
    | nil => exact .inl (List.prefix_refl _)
    | cons c s =>
      obtain ⟨rfl, later⟩ := List.cons_prefix_cons.1 h
      exact .inr ⟨s, rfl, later⟩
  | cons d t ih =>
    cases s with
    | nil =>
      obtain ⟨rfl, -⟩ := List.cons_prefix_cons.1 h
      exact .inl (List.cons_prefix_cons.2 ⟨rfl, List.nil_prefix⟩)
    | cons c s =>
      obtain ⟨rfl, later⟩ := List.cons_prefix_cons.1 h
      obtain within | ⟨more, rfl, beyond⟩ := ih later
      · exact .inl (List.cons_prefix_cons.2 ⟨rfl, within⟩)
      · exact .inr ⟨more, rfl, beyond⟩

theorem marked_prefix_cases_of_clear {mark : Symbol} {s t rest : Text} (clear : mark ∉ t)
    (h : s ++ [mark] <+: t ++ mark :: rest) :
    s = t ∨ ∃ more, s = t ++ mark :: more ∧ more ++ [mark] <+: rest := by
  obtain within | beyond := marked_prefix_cases h
  · obtain same | shorter := List.prefix_concat_iff.1 within
    · exact .inl (List.append_cancel_right same)
    · exact absurd (shorter.subset (List.mem_append_right s (List.mem_singleton_self mark))) clear
  · exact .inr beyond

end Text

theorem stemOf_eq (user : Text) (changeClass : ChangeClass) :
    stemOf user .ad changeClass = (user ++ "-ad") ++ .char '-' :: changeClass.word := by
  rw [stemOf]
  simp only [List.append_assoc]
  rfl

theorem ChangeClass.hyphen_not_mem_word (k : ChangeClass) : Symbol.char '-' ∉ k.word := by
  cases k <;> decide

theorem ChangeClass.word_injective {k k' : ChangeClass} (h : k.word = k'.word) : k = k' := by
  cases k <;> cases k' <;> first | rfl | exact absurd h (by decide)

theorem splitLast_stemOf (user : Text) (changeClass : ChangeClass) :
    Text.splitLast (.char '-') (stemOf user .ad changeClass) =
      some (user ++ "-ad", changeClass.word) := by
  rw [stemOf_eq]
  exact Text.splitLast_append _ _ _ changeClass.hyphen_not_mem_word

theorem keyOf_eq_iff {user user' : Text} {k k' : ChangeClass} :
    keyOf user .ad k = keyOf user' .ad k' ↔ user = user' ∧ k = k' := by
  constructor
  · intro same
    have stems : stemOf user .ad k = stemOf user' .ad k' := List.append_cancel_right same
    have parts := congrArg (Text.splitLast (.char '-')) stems
    rw [splitLast_stemOf, splitLast_stemOf] at parts
    obtain ⟨users, classes⟩ := Prod.mk.inj (Option.some.inj parts)
    exact ⟨List.append_cancel_right users, ChangeClass.word_injective classes⟩
  · rintro ⟨rfl, rfl⟩
    rfl

/-- No stamp is the word of a class. -/
theorem ChangeClass.word_ne_stamp (k : ChangeClass) {m : Moment} {second : Text}
    (stamped : m.stamp? = some second) : k.word ≠ second := by
  obtain ⟨date, time, -, rfl⟩ := Moment.stamp?_eq_some stamped
  intro same
  have low {c : Symbol} (inside : c ∈ k.word) : c.rank ≤ 90 := by
    rw [same] at inside
    exact (rank_of_mem_stamp inside).2
  cases k with
  | password => exact absurd (@low (.char 'p') (by decide)) (by decide)
  | enable => exact absurd (@low (.char 'e') (by decide)) (by decide)

/-- The user and the class are those of the change, or its user, with a hyphen behind it, starts with
their key. -/
def Change.TakesUp (c : Change) (user : Text) (k : ChangeClass) : Prop :=
  (c.principal.user = user ∧ c.changeClass = k) ∨
    (c.principal.user ++ "-").startsWith (keyOf user .ad k) = true

namespace EntryName

theorem compose_eq_marked (c : Change) (second : Text) (sequence : Nat) :
    compose c.key second sequence = c.principal.user ++ .char '-' :: (Text.ofString "ad" ++ .char '-' ::
      (c.changeClass.word ++ .char '-' :: (second ++ .char '-' :: Text.twoDigits sequence))) := by
  rw [compose_eq, Change.key, keyOf_eq_stemOf_append, stemOf_eq]
  simp only [List.append_assoc, List.cons_append, List.nil_append]
  rfl

theorem startsWith_keyOf {c : Change} {user : Text} {k : ChangeClass} (alike : c.TakesUp user k)
    (second : Text) (sequence : Nat) :
    (compose c.key second sequence).startsWith (keyOf user .ad k) = true := by
  obtain ⟨rfl, rfl⟩ | beyond := alike
  · exact startsWith_compose _ _ _
  · rw [Text.startsWith, List.isPrefixOf_iff_prefix] at beyond ⊢
    have longer := List.prefix_append (c.principal.user ++ Text.ofString "-")
      (Text.ofString "ad" ++ .char '-' :: (c.changeClass.word ++ .char '-' ::
        (second ++ .char '-' :: Text.twoDigits sequence)))
    rw [List.append_assoc] at longer
    rw [compose_eq_marked]
    exact beyond.trans longer

/-- The name of an entry starts with the keys that its change takes up, and with no other one. -/
theorem startsWith_keyOf_iff (c : Change) {m : Moment} {second : Text} (sequence : Nat)
    (stamped : m.stamp? = some second) (user : Text) (k : ChangeClass) :
    (compose c.key second sequence).startsWith (keyOf user .ad k) = true ↔
      c.TakesUp user k := by
  constructor
  · intro starts
    rw [Text.startsWith, List.isPrefixOf_iff_prefix, keyOf_eq_stemOf_append, compose_eq_marked]
      at starts
    -- The last hyphen of the key is one of those in the name, counted from the left.
    obtain within | ⟨rest, stem, behindUser⟩ := Text.marked_prefix_cases starts
    · right
      rw [Text.startsWith, List.isPrefixOf_iff_prefix]
      exact within
    have parts := splitLast_stemOf user k
    obtain rfl | ⟨rest, rfl, behindDomain⟩ :=
      Text.marked_prefix_cases_of_clear (by decide) behindUser
    · rw [stem, Text.splitLast_append _ _ _ (by decide)] at parts
      obtain ⟨-, word⟩ := Prod.mk.inj (Option.some.inj parts)
      cases k <;> exact absurd word (by decide)
    obtain rfl | ⟨rest, rfl, behindClass⟩ :=
      Text.marked_prefix_cases_of_clear c.changeClass.hyphen_not_mem_word behindDomain
    · left
      have stem' : stemOf user .ad k = stemOf c.principal.user .ad c.changeClass := by
        rw [stem, stemOf_eq, List.append_assoc]
        rfl
      have keys : keyOf c.principal.user .ad c.changeClass = keyOf user .ad k := by
        rw [keyOf_eq_stemOf_append, keyOf_eq_stemOf_append, stem']
      exact keyOf_eq_iff.1 keys
    obtain rfl | ⟨rest, rfl, behindStamp⟩ :=
      Text.marked_prefix_cases_of_clear (hyphen_not_mem_stamp? stamped) behindClass
    · have longer : c.principal.user ++ .char '-' :: (Text.ofString "ad" ++ .char '-' ::
          (c.changeClass.word ++ .char '-' :: rest)) =
          (c.principal.user ++ .char '-' :: (Text.ofString "ad" ++ .char '-' ::
            c.changeClass.word)) ++ .char '-' :: rest := by
        simp only [List.append_assoc, List.cons_append]
      rw [stem, longer, Text.splitLast_append _ _ _ (hyphen_not_mem_stamp? stamped)] at parts
      obtain ⟨-, word⟩ := Prod.mk.inj (Option.some.inj parts)
      exact absurd word.symm (k.word_ne_stamp stamped)
    · have inside := behindStamp.subset (List.mem_append_right rest (List.mem_singleton_self _))
      exact absurd inside (hyphen_not_mem_twoDigits sequence)
  · intro alike
    exact startsWith_keyOf alike second sequence

end EntryName

/-! ## What is new in the directory -/

/-- Nothing is new in the directory, unless it is the lock file. -/
structure Host.Thinned (p : Path) (l : Location) (h h' : Host) : Prop where
  leads : h.files.LeadsTo p l → h'.files.LeadsTo p l
  held : h.files.LeadsTo p l → ∀ name, name ≠ QueueLock.fileName →
    h'.files.get? (l ++ [name]) = h.files.get? (l ++ [name]) ∨ h'.files.get? (l ++ [name]) = none

namespace Host

variable {p : Path} {l : Location} {h h' h'' : Host}

theorem Thinned.refl (p : Path) (l : Location) (h : Host) : Thinned p l h h :=
  ⟨id, fun _ _ _ => .inl rfl⟩

theorem Thinned.trans (first : Thinned p l h h') (second : Thinned p l h' h'') :
    Thinned p l h h'' where
  leads leads := second.leads (first.leads leads)
  held leads name lock := by
    obtain same | gone := second.held (first.leads leads) name lock
    · rw [same]
      exact first.held leads name lock
    · exact .inr gone

instance (p : Path) (l : Location) : Std.Refl (Thinned p l) := ⟨Thinned.refl p l⟩

instance (p : Path) (l : Location) : IsTrans Host (Thinned p l) := ⟨fun _ _ _ => Thinned.trans⟩

theorem Idle.thinned (idle : h.Idle p h') : Thinned p l h h' where
  leads leads := idle.files.leadsTo leads
  held leads name lock := .inl ((idle.unmoved leads).held name lock)

theorem thinned_of_unlink {file : Path} {files : FileSystem}
    (unlinked : h.files.unlink file = .ok files) : Thinned p l h (h.withFiles files) := by
  obtain ⟨m, mode, content, -, held, rfl⟩ := FileSystem.of_unlink unlinked
  have other : h.files.get? m ≠ some .directory := by simp [held]
  refine ⟨fun leads => leads.erase other, fun _ name _ => ?_⟩
  by_cases own : l ++ [name] = m
  · subst own
    exact .inr (FileSystem.get?_erase_self h.files (FileSystem.below_ne_nil l name))
  · exact .inl (FileSystem.get?_erase_of_ne h.files own)

end Host

theorem Backend.Called.thinned {backend : Backend} {call : Call} {p : Path} {l : Location}
    {h h' : Host} (called : backend.Called call h h') (spares : backend.Spares p) :
    h.Thinned p l h' :=
  ⟨called.leadsTo spares, fun leads name _ => .inl (called.get?_below spares leads name)⟩

theorem keeps_drain_thinned {backend : Backend} {p : Path} (spares : backend.Spares p)
    (defaultRealm : Text) (l : Location) :
    (drain backend defaultRealm (some ⟨some p⟩)).Keeps (Host.Thinned p l) :=
  keeps_drain Host.Idle.thinned (fun called => called.thinned spares) Host.thinned_of_unlink

/-- The name is one that entries for the change get. -/
def Change.Names (c : Change) (name : Text) : Prop :=
  ∃ (m : Moment) (second : Text) (sequence : Nat), m.stamp? = some second ∧
    name = EntryName.compose c.key second sequence

/-- Where nothing was, the directory now has an entry of the change. -/
def Queue.New (l : Location) (c : Change) (name : Text) (h h' : Host) : Prop :=
  h.files.get? (l ++ [name]) = none ∧ h'.files.HasFile l name ∧ c.Names name

section New

variable {p : Path} {l : Location} {c : Change} {h h' : Host} {name : Text} {node : Node}

theorem Queue.Enqueued.new {moment : Option Moment} {n : Text}
    (enqueued : Queue.Enqueued p c moment h n h') (leads : h.files.LeadsTo p l)
    (lock : name ≠ QueueLock.fileName) (held : h'.files.get? (l ++ [name]) = some node) :
    h.files.get? (l ++ [name]) = some node ∨ Queue.New l c name h h' := by
  obtain ⟨-, second, sequence, content, rfl, added⟩ := enqueued.written
  by_cases own : name = EntryName.compose c.key second sequence
  · subst own
    obtain ⟨absent, here⟩ := added.get?_self leads
    exact .inr ⟨absent, ⟨_, _, here⟩, _, second, sequence, added.stamped, rfl⟩
  · rw [added.get?_of_ne leads lock own] at held
    exact .inl held

theorem Host.Idle.held (idle : h.Idle p h') (leads : h.files.LeadsTo p l)
    (lock : name ≠ QueueLock.fileName) (held : h'.files.get? (l ++ [name]) = some node) :
    h.files.get? (l ++ [name]) = some node := by
  rwa [(idle.unmoved leads).held name lock] at held

theorem Backend.Called.same {backend : Backend} {call : Call} {before : Host}
    (called : backend.Called call before h') (spares : backend.Spares p) (idle : h.Idle p before)
    (leads : h.files.LeadsTo p l) (lock : name ≠ QueueLock.fileName) :
    h'.files.LeadsTo p l ∧ h'.files.get? (l ++ [name]) = h.files.get? (l ++ [name]) := by
  have first := idle.unmoved leads
  refine ⟨called.leadsTo spares first.leads, ?_⟩
  rw [called.get?_below spares first.leads, first.held name lock]

theorem Relay.Ends.new {r : Relay} {result : Except Failure PropagateResult}
    (spares : ∀ backend, r.backend = some backend → backend.Spares p)
    (leads : h.files.LeadsTo p l) (lock : name ≠ QueueLock.fileName)
    (held : h'.files.get? (l ++ [name]) = some node) (ends : r.Ends p c h result h') :
    h.files.get? (l ++ [name]) = some node ∨ Queue.New l c name h h' := by
  cases ends with
  | failed idle => exact .inl (idle.held leads lock held)
  | skipped idle => exact .inl (idle.held leads lock held)
  | forced enqueued => exact enqueued.new leads lock held
  | conflict _ enqueued => exact enqueued.new leads lock held
  | done configured idle clear delivered idle' =>
    have called := (Backend.of_deliver_ok delivered).1
    obtain ⟨leads', same⟩ := called.same (spares _ configured) idle leads lock
    have held' := idle'.held leads' lock held
    rw [same] at held'
    exact .inl held'
  | refused configured idle clear called delivery enqueued =>
    have called := (Backend.of_deliver_error called).2.1
    obtain ⟨leads', same⟩ := called.same (spares _ configured) idle leads lock
    have either := enqueued.new leads' lock held
    rw [Queue.New, same] at either
    exact either
  | lost configured idle clear called idle' =>
    have called := (Backend.of_deliver_error called).2.1
    obtain ⟨leads', same⟩ := called.same (spares _ configured) idle leads lock
    have held' := idle'.held leads' lock held
    rw [same] at held'
    exact .inl held'

/-- A request makes no file but an entry of its change, and the lock file. -/
theorem Request.Ends.new {request : Request} {result : Except Failure Answer}
    (spares : ∀ backend, request.backend? = some backend → backend.Spares p)
    (leads : h.files.LeadsTo p l) (lock : name ≠ QueueLock.fileName)
    (held : h'.files.get? (l ++ [name]) = some node) (ends : request.Ends p h result h') :
    h.files.get? (l ++ [name]) = some node ∨
      ∃ c, request.change? = some c ∧ Queue.New l c name h h' := by
  have old (thinned : h.Thinned p l h') : h.files.get? (l ++ [name]) = some node := by
    obtain same | gone := thinned.held leads name lock
    · rwa [same] at held
    · rw [gone] at held
      cases held
  cases ends with
  | idle _ idle => exact .inl (idle.held leads lock held)
  | propagated asked _ served ends =>
    have spares' (backend : Backend) (configured : _ = some backend) : backend.Spares p :=
      spares backend (served.trans configured)
    obtain here | new := ends.new spares' leads lock held
    · exact .inl here
    · exact .inr ⟨_, asked, new⟩
  | enqueued asked enqueued =>
    obtain here | new := enqueued.new leads lock held
    · exact .inl here
    · exact .inr ⟨_, asked, new⟩
  | drained _ served done =>
    exact .inl (old ((keeps_drain_thinned (spares _ served) _ l).of_on done))
  | deleted _ done =>
    exact .inl (old ((Entry.keeps_remove (R := Host.Thinned p l) Host.thinned_of_unlink _).of_on done))

theorem Request.Ends.leads {request : Request} {result : Except Failure Answer}
    (spares : ∀ backend, request.backend? = some backend → backend.Spares p)
    (leads : h.files.LeadsTo p l) (ends : request.Ends p h result h') : h'.files.LeadsTo p l := by
  have steady : h.Steady p l h' :=
    ends.steady fun backend configured => (spares backend configured).steady
  exact steady.leads leads

end New

/-! ## What is pending in a run -/

/-- A step has put the change into the queue under the name, and the file has been there since. -/
def StandsFor (p : Path) (l : Location) (h : Host) (steps : List Step) (name : Text) (c : Change) :
    Prop :=
  ∃ before step rest, steps = before ++ step :: rest ∧ step.request.change? = some c ∧
    step.Gives p l (run ⟨some p⟩ h before).host name ∧
    ∀ since, since <+: rest →
      (run ⟨some p⟩ h (before ++ step :: since)).host.files.HasFile l name

section StandsFor

variable {p : Path} {l : Location} {h : Host} {steps : List Step} {name : Text} {c : Change}

theorem run_concat (q : Queue) (h : Host) (steps : List Step) (step : Step) :
    run q h (steps ++ [step]) = (run q h steps).after q step := run_append_cons q h steps step []

theorem StandsFor.hasFile (stands : StandsFor p l h steps name c) :
    (run ⟨some p⟩ h steps).host.files.HasFile l name := by
  obtain ⟨before, step, rest, rfl, -, -, since⟩ := stands
  exact since rest (List.prefix_refl rest)

/-- An entry stands for its change as long as its file is there. -/
theorem StandsFor.concat (stands : StandsFor p l h steps name c) {step : Step}
    (present : (run ⟨some p⟩ h (steps ++ [step])).host.files.HasFile l name) :
    StandsFor p l h (steps ++ [step]) name c := by
  obtain ⟨before, first, rest, rfl, asked, gives, kept⟩ := stands
  refine ⟨before, first, rest ++ [step], by simp, asked, gives, ?_⟩
  intro since early
  obtain rfl | earlier := List.prefix_concat_iff.1 early
  · rwa [List.append_assoc, List.cons_append] at present
  · exact kept since earlier

theorem standsFor_of_new {step : Step} (asked : step.request.change? = some c)
    (lock : name ≠ QueueLock.fileName)
    (new : Queue.New l c name (step.begin (run ⟨some p⟩ h steps).host)
      (run ⟨some p⟩ h (steps ++ [step])).host) : StandsFor p l h (steps ++ [step]) name c := by
  obtain ⟨absent, present, -⟩ := new
  rw [run_concat] at present
  refine ⟨steps, step, [], rfl, asked, .inr ⟨lock, ?_, present⟩, ?_⟩
  · rintro ⟨mode, content, held⟩
    cases absent.symm.trans held
  · intro since early
    obtain rfl := List.prefix_nil.1 early
    rwa [← run_concat] at present

/-- After a run from an empty directory, whatever is in it besides the lock file stands for a change
that was put into the queue, and has a name for it. -/
theorem standsFor_of_held (leads : h.files.LeadsTo p l) (empty : h.files.entries l = [])
    (spares : ∀ step ∈ steps, ∀ backend, step.request.backend? = some backend → backend.Spares p) :
    (run ⟨some p⟩ h steps).host.files.LeadsTo p l ∧
      ∀ name node, name ≠ QueueLock.fileName →
        (run ⟨some p⟩ h steps).host.files.get? (l ++ [name]) = some node →
          ∃ c, StandsFor p l h steps name c ∧ c.Names name := by
  -- Of what the last step leaves, something was there before it, and else it is new.
  induction steps using List.reverseRecOn with
  | nil =>
    refine ⟨leads, fun name node _ held => ?_⟩
    have inside := (FileSystem.mem_entries_iff h.files l name node).2 held
    rw [empty] at inside
    cases inside
  | append_singleton steps step ih =>
    obtain ⟨leads', stands⟩ := ih fun other inside => spares other (List.mem_append_left _ inside)
    have spared := spares step (List.mem_append_right _ (List.mem_singleton_self step))
    have begun : (step.begin (run ⟨some p⟩ h steps).host).files.LeadsTo p l := leads'
    have ends := Request.ends p step.request (step.begin (run ⟨some p⟩ h steps).host)
    refine ⟨?_, fun name node lock held => ?_⟩
    · rw [run_concat]
      exact ends.leads spared begun
    · have held' := held
      rw [run_concat] at held'
      obtain old | ⟨c, asked, new⟩ := ends.new spared begun lock held'
      · obtain ⟨c, stood, named⟩ := stands name node lock old
        obtain ⟨mode, content, file⟩ := stood.hasFile
        cases old.symm.trans file
        exact ⟨c, stood.concat ⟨mode, content, held⟩, named⟩
      · rw [← run_concat] at new
        exact ⟨c, standsFor_of_new asked lock new, new.2.2⟩

theorem StandsFor.name_eq (leads : h.files.LeadsTo p l) (empty : h.files.entries l = [])
    (spares : ∀ step ∈ steps, ∀ backend, step.request.backend? = some backend → backend.Spares p)
    (stands : StandsFor p l h steps name c) :
    ∃ second sequence, name = EntryName.compose c.key second sequence := by
  obtain ⟨before, step, rest, rfl, asked, gives, -⟩ := stands
  obtain ⟨leads', -⟩ := standsFor_of_held leads empty fun other inside =>
    spares other (List.mem_append_left _ inside)
  have spared := spares step (List.mem_append_right _ List.mem_cons_self)
  have begun : (step.begin (run ⟨some p⟩ h before).host).files.LeadsTo p l := leads'
  exact ((Request.ends p step.request _).placed spared begun asked gives).2

end StandsFor

/-! ## The check for a conflict -/

namespace Queue

variable {p : Path} {l : Location} {h : Host} {key : Text}

theorem hasPending_configured (p : Path) (key : Text) :
    hasPending ⟨some p⟩ key = withLock p (scan p key) := rfl

theorem hasPending_cases (p : Path) (key : Text) (h : Host) :
    (∃ e h', (hasPending ⟨some p⟩ key).on h = (.error e, h')) ∨
      ∃ mid found h', h.files.LockMade p mid ∧ mid.list p = .ok found ∧
        (hasPending ⟨some p⟩ key).on h =
          (.ok (found.any fun entry => entry.1.startsWith key), h') := by
  rw [hasPending_configured]
  obtain ⟨e, h', -, failed⟩ | ⟨m, files, -, opened, -, done⟩ := withLock_cases p (scan p key) h
  · exact .inl ⟨e, h', failed⟩
  · obtain ⟨e, failed⟩ | ⟨found, listed, scanned⟩ := scan_cases p key (h.lock m files)
    · rw [failed] at done
      exact .inl ⟨e, _, done⟩
    · rw [scanned] at done
      exact .inr ⟨files, found, _, .inr ⟨m, opened⟩, listed, done⟩

theorem scan_of_list {found : List (Text × Node)} (nul : p.hasNul = false)
    (listed : h.files.list p = .ok found) (key : Text) :
    (scan p key).on h =
      (.ok (found.any fun entry => entry.1.startsWith key), h.record (.searched p)) := by
  unfold scan
  rw [Act.on_bind, Act.search_on, nul, listed]
  rfl

theorem hasPending_of_lockable (lockable : h.Lockable p l) (key : Text) :
    ∃ b, ((hasPending ⟨some p⟩ key).on h).1 = .ok b := by
  obtain ⟨files, made, done⟩ := lockable.withLock (scan p key)
  have listed := (made.leadsTo lockable.leads).list
  have scanned := scan_of_list (h := h.lock (l ++ [QueueLock.fileName]) files) lockable.nul listed key
  rw [hasPending_configured, done, scanned]
  exact ⟨_, rfl⟩

theorem hasPending_iff (leads : h.files.LeadsTo p l) (hyphen : Symbol.char '-' ∈ key) {b : Bool}
    (answered : ((hasPending ⟨some p⟩ key).on h).1 = .ok b) :
    b = true ↔ ∃ name node, name ≠ QueueLock.fileName ∧
      h.files.get? (l ++ [name]) = some node ∧ name.startsWith key = true := by
  obtain ⟨e, h', failed⟩ | ⟨mid, found, h', made, listed, done⟩ := hasPending_cases p key h
  · rw [failed] at answered
    cases answered
  rw [done] at answered
  cases answered
  rw [(made.leadsTo leads).list] at listed
  cases listed
  -- The lock file may be new, but its name has no hyphen.
  have other {name : Text} (starts : name.startsWith key = true) : name ≠ QueueLock.fileName := by
    rintro rfl
    rw [QueueLock.startsWith_fileName hyphen] at starts
    cases starts
  have same {name : Text} (lock : name ≠ QueueLock.fileName) :
      mid.get? (l ++ [name]) = h.files.get? (l ++ [name]) := made.get?_below leads lock
  rw [List.any_eq_true]
  constructor
  · rintro ⟨⟨name, node⟩, inside, starts⟩
    rw [FileSystem.mem_entries_iff, same (other starts)] at inside
    exact ⟨name, node, other starts, inside, starts⟩
  · rintro ⟨name, node, lock, held, starts⟩
    rw [← same lock, ← FileSystem.mem_entries_iff] at held
    exact ⟨(name, node), held, starts⟩

theorem conflictKey_of_principal {who : Who} {principal : Principal}
    (named : who.principal? = .ok principal) (operation : Operation) :
    conflictKey who Domain.ad.word operation.word =
      .ok (keyOf principal.user .ad operation.changeClass) := by
  simp only [conflictKey, Domain.ofWord?_word, named, ChangeClass.ofWord, Operation.ofWord?_word]
  rfl

theorem isPending_of_principal {who : Who} {principal : Principal}
    (named : who.principal? = .ok principal) (operation : Operation) (q : Queue) :
    q.isPending who Domain.ad.word operation.word =
      q.hasPending (keyOf principal.user .ad operation.changeClass) := by
  unfold isPending
  rw [conflictKey_of_principal named operation]
  rfl

end Queue

section Exact

variable {p : Path} {l : Location} {h : Host} {steps : List Step} {who : Who} {principal : Principal}

/-- After a run from an empty directory, a change is taken to be pending if and only if a change stands
in the queue whose user and class are its own, or whose user starts with its key, up to a hyphen at the
end. The check answers whenever the lock could be taken in the beginning. -/
theorem isPending_iff_standsFor (leads : h.files.LeadsTo p l) (empty : h.files.entries l = [])
    (spares : ∀ step ∈ steps, ∀ backend, step.request.backend? = some backend → backend.Spares p)
    (named : who.principal? = .ok principal) (operation : Operation) :
    (h.Lockable p l → ∃ b, ((Queue.isPending ⟨some p⟩ who Domain.ad.word operation.word).on
      (run ⟨some p⟩ h steps).host).1 = .ok b) ∧
    ∀ b, ((Queue.isPending ⟨some p⟩ who Domain.ad.word operation.word).on
        (run ⟨some p⟩ h steps).host).1 = .ok b →
      (b = true ↔ ∃ name c, StandsFor p l h steps name c ∧
        c.TakesUp principal.user operation.changeClass) := by
  rw [Queue.isPending_of_principal named]
  refine ⟨?_, fun b answered => ?_⟩
  · intro lockable
    have steady := steps_steady (p := p) (l := l) ⟨{ h with journal := [] }, []⟩
      fun step inside backend configured => (spares step inside backend configured).steady
    have begun : Host.Lockable { h with journal := [] } p l :=
      ⟨lockable.leads, lockable.nul, lockable.admitted, lockable.file, lockable.free⟩
    exact Queue.hasPending_of_lockable (begun.steady steady) _
  · obtain ⟨leads', stands⟩ := standsFor_of_held leads empty spares
    rw [Queue.hasPending_iff leads' (hyphen_mem_keyOf _ _ _) answered]
    constructor
    · rintro ⟨name, node, lock, held, starts⟩
      obtain ⟨c, stood, m, second, sequence, stamped, rfl⟩ := stands name node lock held
      exact ⟨_, c, stood, (EntryName.startsWith_keyOf_iff c sequence stamped _ _).1 starts⟩
    · rintro ⟨name, c, stood, alike⟩
      obtain ⟨second, sequence, rfl⟩ := stood.name_eq leads empty spares
      obtain ⟨mode, content, held⟩ := stood.hasFile
      exact ⟨_, _, EntryName.compose_ne_lock c second sequence, held,
        EntryName.startsWith_keyOf alike second sequence⟩

/-- The entry of the user is removed, and one of a user whose name goes on with `-ad` stays. -/
theorem isPending_iff_standsFor_of_removed :
    let p : Path := ⟨[], ["queue"]⟩
    let h := Host.withDirectory "queue" .newYear
    let who : Who := .name "test@EXAMPLE.COM"
    let steps : List Step :=
      [⟨.newYear, .enqueue ⟨⟨["test"], []⟩, .ad, .enable⟩ none⟩,
        ⟨.newYear, .enqueue ⟨⟨["test-ad"], []⟩, .ad, .enable⟩ none⟩,
        ⟨.newYear, .delete "test-ad-enable-20240101T000000Z-00"⟩]
    h.files.LeadsTo p ["queue"] ∧ h.files.entries ["queue"] = [] ∧
      (∀ step ∈ steps, ∀ backend, step.request.backend? = some backend → backend.Spares p) ∧
      who.principal? = .ok ⟨["test"], "EXAMPLE.COM"⟩ ∧
      ((Queue.isPending ⟨some p⟩ who "ad" "disable").on (run ⟨some p⟩ h steps).host).1 = .ok false ∧
      (false = true ↔ ∃ name c, StandsFor p ["queue"] h steps name c ∧
        c.TakesUp "test" .enable) := by
  intro p h who steps
  have leads : h.files.LeadsTo p ["queue"] := ⟨by decide, by decide⟩
  have empty : h.files.entries ["queue"] = [] := by decide
  have spares : ∀ step ∈ steps, ∀ backend, step.request.backend? = some backend →
      backend.Spares p := by
    intro step inside backend configured
    simp only [steps, List.mem_cons, List.not_mem_nil, or_false] at inside
    obtain rfl | rfl | rfl := inside <;> cases configured
  have named : who.principal? = .ok ⟨["test"], "EXAMPLE.COM"⟩ := by decide
  have answered : ((Queue.isPending ⟨some p⟩ who "ad" "disable").on
      (run ⟨some p⟩ h steps).host).1 = .ok false := by decide +kernel
  exact ⟨leads, empty, spares, named, answered,
    (isPending_iff_standsFor leads empty spares named .disable).2 false answered⟩

/-- A change is taken to be pending although the only entry is one of another user. -/
theorem isPending_of_other_user :
    let p : Path := ⟨[], ["queue"]⟩
    let h := Host.withDirectory "queue" .newYear
    let steps : List Step := [⟨.newYear, .enqueue ⟨⟨["a-ad-password-b"], []⟩, .ad,
      .setPassword ⟨"secret", by decide, by decide, by decide⟩⟩ none⟩]
    ((Queue.isPending ⟨some p⟩ (.name "a") "ad" "password").on (run ⟨some p⟩ h steps).host).1 =
        .ok true ∧
      ¬ ∃ name c, StandsFor p ["queue"] h steps name c ∧ c.principal.user = "a" := by
  intro p h steps
  refine ⟨by decide +kernel, ?_⟩
  rintro ⟨name, c, ⟨before, step, rest, split, asked, -⟩, user⟩
  cases before with
  | nil =>
    obtain ⟨rfl, rfl⟩ := List.cons.inj split
    cases asked
    exact absurd user (by decide)
  | cons first before => simp [steps] at split

end Exact

end AccountRelay
