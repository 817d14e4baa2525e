import AccountRelay.FileSystem
/-!
# A directory and the files in it

A path that leads to a directory leads, with one more name behind it, to the location below that
directory, unless the name or the whole path is too long. So every operation on a file of the
directory reads and changes what one location holds. Operations on files leave all directories
where they are, and a path that leads to a directory goes on leading there.
-/

namespace AccountRelay

/-! ## Names behind a path -/

/-- What a path takes as a single part. -/
structure Text.IsPart (name : Text) : Prop where
  slash : .char '/' ∉ name
  nonempty : name ≠ []
  dot : name ≠ [.char '.']
  dots : name ≠ ".."

instance (name : Text) : Decidable name.IsPart :=
  decidable_of_iff (.char '/' ∉ name ∧ name ≠ [] ∧ name ≠ [.char '.'] ∧ name ≠ "..")
    ⟨fun ⟨slash, nonempty, dot, dots⟩ => ⟨slash, nonempty, dot, dots⟩,
      fun ⟨slash, nonempty, dot, dots⟩ => ⟨slash, nonempty, dot, dots⟩⟩

theorem Text.splitAll_of_not_mem {mark : Symbol} {t : Text} (clear : mark ∉ t) :
    t.splitAll mark = [t] := by
  induction t with
  | nil => rfl
  | cons c rest ih =>
    rw [List.mem_cons, not_or] at clear
    rw [splitAll, if_neg (Ne.symm clear.1), ih clear.2]

theorem Text.byteLength_append (s t : Text) : (s ++ t).byteLength = s.byteLength + t.byteLength := by
  rw [byteLength, toBytes_append, List.length_append]
  rfl

theorem Text.byteLength_pos {t : Text} (nonempty : t ≠ []) : 0 < t.byteLength := by
  cases t with
  | nil => exact absurd rfl nonempty
  | cons c rest =>
    have one : 0 < Text.byteLength [c] := by
      cases c with
      | char c =>
        simp only [byteLength, toBytes, encodeChar]
        split
        · exact Nat.one_pos
        · split
          · exact Nat.succ_pos _
          · split <;> exact Nat.succ_pos _
      | byte low => exact Nat.one_pos
    have split : (c :: rest : Text) = [c] ++ rest := rfl
    rw [split, byteLength_append]
    omega

theorem Text.join_append_singleton (gap : Text) {t : Text} (nonempty : t ≠ []) (ts : List Text) :
    ∃ more, more ≠ [] ∧ join gap (ts ++ [t]) = join gap ts ++ more := by
  induction ts with
  | nil => exact ⟨t, nonempty, rfl⟩
  | cons s ts ih =>
    cases ts with
    | nil => exact ⟨gap ++ t, by simp [nonempty], List.append_assoc s gap t⟩
    | cons u ts =>
      obtain ⟨more, other, same⟩ := ih
      refine ⟨more, other, ?_⟩
      change s ++ gap ++ join gap (u :: ts ++ [t]) = s ++ gap ++ join gap (u :: ts) ++ more
      rw [same, List.append_assoc (s ++ gap)]

namespace Path

theorem rootOf_of_not_mem {t : Text} (clear : .char '/' ∉ t) : rootOf t = [] := by
  unfold rootOf
  split
  · exact absurd (List.mem_cons_self) clear
  · exact absurd (List.mem_cons_self) clear
  · exact absurd (List.mem_cons_self) clear
  · rfl

theorem ofText_of_isPart {name : Text} (h : name.IsPart) : ofText name = ⟨[], [name]⟩ := by
  rw [ofText, rootOf_of_not_mem h.slash, Text.splitAll_of_not_mem h.slash]
  simp [h.nonempty, h.dot]

theorem join_of_isPart (p : Path) {name : Text} (h : name.IsPart) :
    p.join name = ⟨p.root, p.parts ++ [name]⟩ := by
  simp only [join, ofText_of_isPart h, if_true]

theorem name_join (p : Path) {name : Text} (h : name.IsPart) : (p.join name).name = name := by
  rw [join_of_isPart p h]
  simp [Path.name]

theorem hasNul_join (p : Path) {name : Text} (h : name.IsPart) :
    (p.join name).hasNul = (p.hasNul || name.contains (.char '\x00')) := by
  rw [join_of_isPart p h]
  simp [hasNul]

theorem byteLength_le_join (p : Path) {name : Text} (part : name.IsPart) :
    p.byteLength ≤ (p.join name).byteLength := by
  obtain ⟨more, nonempty, joined⟩ := Text.join_append_singleton [.char '/'] part.nonempty p.parts
  have written : (p.join name).toText = (p.root ++ Text.join [.char '/'] p.parts) ++ more := by
    rw [join_of_isPart p part, toText, joined, ← List.append_assoc]
    split
    · rename_i empty
      exact absurd (List.append_eq_nil_iff.1 empty).2 nonempty
    · rfl
  have longer := Text.byteLength_pos nonempty
  rw [byteLength, byteLength, written, Text.byteLength_append, toText]
  split
  · rename_i empty
    rw [empty]
    exact Nat.le_trans (show Text.byteLength [.char '.'] ≤ 1 by decide) (by omega)
  · exact Nat.le_add_right _ _

/-- The name, and the path with the name behind it, are short enough to be followed. -/
def Admits (p : Path) (name : Text) : Prop :=
  (p.join name).byteLength ≤ FileSystem.maxPath ∧ name.byteLength ≤ FileSystem.maxName

instance (p : Path) (name : Text) : Decidable (p.Admits name) := inferInstanceAs (Decidable (_ ∧ _))

end Path

namespace FileSystem

/-! ## Following a path -/

theorem follow_append (fs : FileSystem) (l : Location) (names more : List Text) :
    fs.follow l (names ++ more) = (fs.follow l names).bind fun m => fs.follow m more := by
  induction names generalizing l with
  | nil => rfl
  | cons name rest ih =>
    simp only [List.cons_append, follow]
    cases fs.step l name with
    | error e => rfl
    | ok next => exact ih next

/-- The path leads to the directory at the location. -/
structure LeadsTo (fs : FileSystem) (p : Path) (l : Location) : Prop where
  located : fs.locate p = .ok l
  directory : fs.get? l = some .directory

variable {fs fs' : FileSystem} {p : Path} {l : Location} {name : Text}

theorem directory_of_step {m next : Location} (step : fs.step m name = .ok next) :
    fs.get? m = some .directory := by
  unfold FileSystem.step at step
  split at step
  · cases step
  · cases step
  · assumption

theorem LeadsTo.step (h : fs.LeadsTo p l) (part : name.IsPart) :
    fs.step l name =
      if name.byteLength ≤ maxName then .ok (l ++ [name]) else .error .nameTooLong := by
  unfold FileSystem.step
  rw [h.directory]
  simp only [if_neg part.dots]
  by_cases short : name.byteLength ≤ maxName
  · rw [if_neg (by omega), if_pos short]
  · rw [if_pos (by omega), if_neg short]

theorem LeadsTo.locate_join (h : fs.LeadsTo p l) (part : name.IsPart) :
    fs.locate (p.join name) =
      if p.Admits name then .ok (l ++ [name]) else .error .nameTooLong := by
  have located := h.located
  unfold locate at located ⊢
  split at located
  · cases located
  · by_cases long : maxPath < (p.join name).byteLength
    · have refused : ¬ p.Admits name := fun both => absurd both.1 (by omega)
      rw [if_pos long, if_neg refused]
    · have parts : fs.follow (if (p.join name).root = [] then fs.home else []) (p.join name).parts =
          fs.step l name := by
        rw [Path.join_of_isPart p part, follow_append, located]
        change (fs.step l name).bind (fun next => .ok next) = _
        cases fs.step l name <;> rfl
      rw [if_neg long, parts, h.step part]
      by_cases short : name.byteLength ≤ maxName
      · have admitted : p.Admits name := ⟨by omega, short⟩
        rw [if_pos short, if_pos admitted]
      · have refused : ¬ p.Admits name := fun both => short both.2
        rw [if_neg short, if_neg refused]

theorem leadsTo_of_locate_join {m : Location} (part : name.IsPart)
    (located : fs.locate (p.join name) = .ok m) : ∃ l, fs.LeadsTo p l ∧ m = l ++ [name] := by
  have shorter := p.byteLength_le_join part
  have below := located
  rw [locate] at below
  split at below
  · cases below
  · rename_i short
    rw [Path.join_of_isPart p part, follow_append] at below
    cases followed : fs.follow (if p.root = [] then fs.home else []) p.parts with
    | error e =>
      rw [followed] at below
      cases below
    | ok l =>
      rw [followed] at below
      change (fs.step l name).bind (fun next => .ok next) = _ at below
      cases step : fs.step l name with
      | error e =>
        rw [step] at below
        cases below
      | ok next =>
        have leads : fs.LeadsTo p l := by
          refine ⟨?_, directory_of_step step⟩
          rw [locate, if_neg (by omega), followed]
        rw [step] at below
        rw [leads.step part] at step
        split at step
        · cases step
          cases below
          exact ⟨l, leads, rfl⟩
        · cases step

theorem follow_of_directories
    (kept : ∀ m, fs.get? m = some .directory → fs'.get? m = some .directory) {names : List Text}
    {m : Location} (h : fs.follow m names = .ok l) : fs'.follow m names = .ok l := by
  induction names generalizing m with
  | nil => exact h
  | cons name rest ih =>
    rw [follow] at h ⊢
    cases step : fs.step m name with
    | error e =>
      rw [step] at h
      cases h
    | ok next =>
      rw [step] at h
      have directory := directory_of_step step
      have same : fs'.step m name = fs.step m name := by
        simp only [FileSystem.step, directory, kept m directory]
      rw [same, step]
      exact ih h

theorem locate_of_directories {m : Location} (home : fs'.home = fs.home)
    (kept : ∀ m, fs.get? m = some .directory → fs'.get? m = some .directory)
    (located : fs.locate p = .ok m) : fs'.locate p = .ok m := by
  rw [locate] at located ⊢
  split at located
  · cases located
  · rename_i short
    rw [if_neg short, home]
    exact follow_of_directories kept located

theorem LeadsTo.of_directories (h : fs.LeadsTo p l) (home : fs'.home = fs.home)
    (kept : ∀ m, fs.get? m = some .directory → fs'.get? m = some .directory) :
    fs'.LeadsTo p l :=
  ⟨locate_of_directories home kept h.located, kept l h.directory⟩

theorem get?_set_directory {m : Location} (free : fs.get? m ≠ some .directory) (node : Node)
    (k : Location) (directory : fs.get? k = some .directory) :
    (fs.set m node).get? k = some .directory := by
  rw [get?_set_of_ne]
  · exact directory
  · rintro rfl
    exact free directory

theorem get?_erase_directory {m : Location} (free : fs.get? m ≠ some .directory) (k : Location)
    (directory : fs.get? k = some .directory) : (fs.erase m).get? k = some .directory := by
  rw [get?_erase_of_ne]
  · exact directory
  · rintro rfl
    exact free directory

theorem LeadsTo.set (h : fs.LeadsTo p l) {m : Location} (free : fs.get? m ≠ some .directory)
    (node : Node) : (fs.set m node).LeadsTo p l :=
  h.of_directories rfl (get?_set_directory free node)

theorem LeadsTo.erase (h : fs.LeadsTo p l) {m : Location} (free : fs.get? m ≠ some .directory) :
    (fs.erase m).LeadsTo p l :=
  h.of_directories rfl (get?_erase_directory free)

theorem below_ne_nil (l : Location) (name : Text) : l ++ [name] ≠ [] := by simp

theorem below_injective {name other : Text} (h : l ++ [name] = l ++ [other]) : name = other := by
  simpa using h

/-! ## What operations that succeed have done -/

theorem of_openOrCreate {mode : Nat} {m : Location}
    (opened : fs.openOrCreate mode p = .ok (m, fs')) :
    fs.locate p = .ok m ∧
      (fs.get? m = none ∧ fs' = fs.set m (.file mode []) ∨
        (∃ old content, fs.get? m = some (.file old content)) ∧ fs' = fs) := by
  unfold openOrCreate at opened
  cases located : fs.locate p with
  | error e =>
    rw [located] at opened
    cases opened
  | ok k =>
    rw [located] at opened
    simp only [bind, Except.bind] at opened
    split at opened
    · rename_i free
      cases opened
      exact ⟨rfl, .inl ⟨free, rfl⟩⟩
    · cases opened
    · rename_i old content held
      cases opened
      exact ⟨rfl, .inr ⟨⟨old, content, held⟩, rfl⟩⟩

theorem of_create {mode : Nat} {content : Bytes} (created : fs.create mode content p = .ok fs') :
    ∃ m, fs.locate p = .ok m ∧ fs.get? m = none ∧ fs' = fs.set m (.file mode content) := by
  unfold create at created
  cases located : fs.locate p with
  | error e =>
    rw [located] at created
    cases created
  | ok k =>
    rw [located] at created
    simp only [bind, Except.bind] at created
    split at created
    · rename_i free
      cases created
      exact ⟨k, rfl, free, rfl⟩
    · cases created

theorem of_unlink {refusal : Refusal} (unlinked : fs.unlink p refusal = .ok fs') :
    ∃ m mode content, fs.locate p = .ok m ∧ fs.get? m = some (.file mode content) ∧
      fs' = fs.erase m := by
  unfold unlink at unlinked
  cases located : fs.locate p with
  | error e =>
    rw [located] at unlinked
    cases unlinked
  | ok k =>
    rw [located] at unlinked
    simp only [bind, Except.bind] at unlinked
    split at unlinked
    · cases unlinked
    · cases unlinked
    · rename_i mode content held
      split at unlinked
      · cases unlinked
      · cases unlinked
        exact ⟨k, mode, content, rfl, held, rfl⟩

theorem read_eq_ok_iff {content : Bytes} :
    fs.read p = .ok content ↔ ∃ m mode, fs.locate p = .ok m ∧ fs.get? m = some (.file mode content) := by
  rw [read]
  cases located : fs.locate p with
  | error e => exact ⟨nofun, nofun⟩
  | ok m =>
    simp only [bind, Except.bind, Except.ok.injEq]
    constructor
    · intro found
      split at found
      · cases found
      · cases found
      · rename_i mode there held
        cases found
        exact ⟨m, mode, rfl, held⟩
    · rintro ⟨_, mode, rfl, held⟩
      rw [held]
      rfl

theorem unlink_of_file {m : Location} {mode : Nat} {content : Bytes} (refusal : Refusal)
    (located : fs.locate p = .ok m) (held : fs.get? m = some (.file mode content)) :
    fs.unlink p refusal = match refusal fs m with
      | some e => .error e
      | none => .ok (fs.erase m) := by
  rw [unlink, located]
  simp only [bind, Except.bind, held]
  cases refusal fs m <;> rfl

theorem ne_nil_of_get?_ne {m : Location} (other : fs.get? m ≠ some .directory) : m ≠ [] := by
  rintro rfl
  exact other rfl

/-! ## Operations on a file of the directory -/

theorem LeadsTo.read_join (h : fs.LeadsTo p l) (part : name.IsPart) :
    fs.read (p.join name) =
      if p.Admits name then
        match fs.get? (l ++ [name]) with
        | none => .error .notFound
        | some .directory => .error .isDirectory
        | some (.file _ content) => .ok content
      else .error .nameTooLong := by
  rw [read, h.locate_join part]
  by_cases admitted : p.Admits name
  · simp only [if_pos admitted]
    rfl
  · simp only [if_neg admitted]
    rfl

theorem LeadsTo.openOrCreate_join (h : fs.LeadsTo p l) (part : name.IsPart) (mode : Nat) :
    fs.openOrCreate mode (p.join name) =
      if p.Admits name then
        match fs.get? (l ++ [name]) with
        | none => .ok (l ++ [name], fs.set (l ++ [name]) (.file mode []))
        | some .directory => .error .isDirectory
        | some (.file _ _) => .ok (l ++ [name], fs)
      else .error .nameTooLong := by
  rw [openOrCreate, h.locate_join part]
  by_cases admitted : p.Admits name
  · simp only [if_pos admitted]
    rfl
  · simp only [if_neg admitted]
    rfl

theorem LeadsTo.create_join (h : fs.LeadsTo p l) (part : name.IsPart) (mode : Nat)
    (content : Bytes) :
    fs.create mode content (p.join name) =
      if p.Admits name then
        match fs.get? (l ++ [name]) with
        | none => .ok (fs.set (l ++ [name]) (.file mode content))
        | some _ => .error .alreadyExists
      else .error .nameTooLong := by
  rw [create, h.locate_join part]
  by_cases admitted : p.Admits name
  · simp only [if_pos admitted]
    rfl
  · simp only [if_neg admitted]
    rfl

theorem LeadsTo.unlink_join (h : fs.LeadsTo p l) (part : name.IsPart) :
    fs.unlink (p.join name) =
      if p.Admits name then
        match fs.get? (l ++ [name]) with
        | none => .error .notFound
        | some .directory => .error .isDirectory
        | some (.file _ _) => .ok (fs.erase (l ++ [name]))
      else .error .nameTooLong := by
  rw [unlink, h.locate_join part]
  by_cases admitted : p.Admits name
  · simp only [if_pos admitted]
    rfl
  · simp only [if_neg admitted]
    rfl

theorem LeadsTo.list (h : fs.LeadsTo p l) : fs.list p = .ok (fs.entries l) := by
  simp only [FileSystem.list, h.located, h.directory, bind, Except.bind]
  rfl

theorem leadsTo_of_list {found : List (Text × Node)} (listed : fs.list p = .ok found) :
    ∃ l, fs.LeadsTo p l := by
  unfold list at listed
  cases located : fs.locate p with
  | error e =>
    rw [located] at listed
    cases listed
  | ok l =>
    rw [located] at listed
    simp only [bind, Except.bind] at listed
    split at listed
    · cases listed
    · cases listed
    · rename_i directory
      exact ⟨l, located, directory⟩

/-! ## What the directory holds -/

theorem childName?_eq_some_iff (l m : Location) (name : Text) :
    childName? l m = some name ↔ m = l ++ [name] := by
  induction l generalizing m with
  | nil =>
    unfold childName?
    split <;> simp_all
  | cons first rest ih =>
    cases m with
    | nil => simp [childName?]
    | cons other below =>
      rw [childName?]
      by_cases same : first = other
      · rw [if_pos same, ih, same]
        simp
      · rw [if_neg same]
        simp [Ne.symm same]

theorem mem_nodes_iff (fs : FileSystem) {m : Location} (h : m ≠ []) (node : Node) :
    (m, node) ∈ fs.nodes ↔ fs.get? m = some node := by
  rw [get?, if_neg h]
  have distinct := fs.distinct
  generalize fs.nodes = nodes at distinct ⊢
  induction nodes with
  | nil => simp
  | cons first rest ih =>
    obtain ⟨here, held⟩ := first
    simp only [List.map_cons, List.nodup_cons] at distinct
    by_cases same : here = m
    · subst same
      have gone : ∀ n, (here, n) ∉ rest := fun n inside =>
        distinct.1 (List.mem_map.2 ⟨_, inside, rfl⟩)
      simp [gone, eq_comm]
    · rw [List.find?_cons_of_neg (by simpa using same)]
      refine Iff.trans ?_ (ih distinct.2)
      simp [Ne.symm same]

theorem mem_entries_iff (fs : FileSystem) (l : Location) (name : Text) (node : Node) :
    (name, node) ∈ fs.entries l ↔ fs.get? (l ++ [name]) = some node := by
  rw [← mem_nodes_iff fs (below_ne_nil l name), entries, List.mem_filterMap]
  constructor
  · rintro ⟨⟨m, held⟩, inside, found⟩
    obtain ⟨child, named, pair⟩ := Option.map_eq_some_iff.1 found
    cases pair
    rw [childName?_eq_some_iff] at named
    rwa [← named]
  · intro inside
    exact ⟨_, inside, by rw [(childName?_eq_some_iff _ _ _).2 rfl]; rfl⟩

theorem name_mem_entries_iff (fs : FileSystem) (l : Location) (name : Text) :
    name ∈ (fs.entries l).map Prod.fst ↔ (fs.get? (l ++ [name])).isSome = true := by
  rw [List.mem_map, Option.isSome_iff_exists]
  constructor
  · rintro ⟨⟨other, node⟩, inside, rfl⟩
    exact ⟨node, (fs.mem_entries_iff l other node).1 inside⟩
  · rintro ⟨node, held⟩
    exact ⟨(name, node), (fs.mem_entries_iff l name node).2 held, rfl⟩

theorem nodup_entries (fs : FileSystem) (l : Location) :
    ((fs.entries l).map Prod.fst).Nodup := by
  have distinct := fs.distinct
  unfold entries
  generalize fs.nodes = nodes at distinct
  induction nodes with
  | nil => exact List.nodup_nil
  | cons first rest ih =>
    simp only [List.map_cons, List.nodup_cons] at distinct
    rw [List.filterMap_cons]
    cases named : childName? l first.1 with
    | none => exact ih distinct.2
    | some name =>
      simp only [Option.map_some, List.map_cons, List.nodup_cons]
      refine ⟨?_, ih distinct.2⟩
      intro inside
      obtain ⟨⟨other, node⟩, found, same⟩ := List.mem_map.1 inside
      obtain ⟨⟨m, held⟩, present, child⟩ := List.mem_filterMap.1 found
      obtain ⟨child, named', pair⟩ := Option.map_eq_some_iff.1 child
      cases pair
      rw [childName?_eq_some_iff] at named named'
      simp only at same named'
      apply distinct.1
      rw [named, ← same, ← named']
      exact List.mem_map.2 ⟨_, present, rfl⟩

end FileSystem

end AccountRelay
