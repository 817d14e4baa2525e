import Mathlib.Data.List.Forall2
import AccountRelay.Proofs.Content
import AccountRelay.Proofs.FileSystem
/-!
# File systems that differ in passwords

Two file systems are alike if they hold the same files, and the content of each is the same, or is
that of two changes that differ in their passwords. Whatever is asked of the file systems, but for
those contents, has the same answer; and whatever is done to both leaves them alike.

A password without carriage returns is always read as one line, so whether such a file can be read,
and how reading it fails, does not depend on the password.
-/

namespace AccountRelay

/-- Both end well, with related values, or both fail, with related failures. -/
inductive Agree {ε α β : Type} (E : ε → ε → Prop) (R : α → β → Prop) :
    Except ε α → Except ε β → Prop where
  | ok {a : α} {b : β} (same : R a b) : Agree E R (.ok a) (.ok b)
  | error {e e' : ε} (same : E e e') : Agree E R (.error e) (.error e')

section Agree

variable {ε ε' α β : Type} {R : α → β → Prop}

theorem Agree.refl {E : ε → ε → Prop} {R : α → α → Prop} [Std.Refl E] [Std.Refl R]
    (r : Except ε α) : Agree E R r r := by
  cases r with
  | error e => exact .error (Std.Refl.refl e)
  | ok a => exact .ok (Std.Refl.refl a)

theorem Agree.of_eq {E : ε → ε → Prop} [Std.Refl E] {r : Except ε α} {r' : Except ε β}
    (agree : Agree Eq R r r') : Agree E R r r' := by
  cases agree with
  | ok same => exact .ok same
  | error reason =>
    cases reason
    exact .error (Std.Refl.refl _)

theorem Agree.mapError {r : Except ε α} {r' : Except ε β} (agree : Agree Eq R r r') (f : ε → ε') :
    Agree Eq R (r.mapError f) (r'.mapError f) := by
  cases agree with
  | ok same => exact .ok same
  | error reason => exact .error (congrArg f reason)

end Agree

/-! ## What differs -/

/-- The changes are the same, or differ in their passwords only, which have no carriage return. -/
inductive Change.Alike : Change → Change → Prop where
  | refl (c : Change) : Alike c c
  | password (who : Principal) (domain : Domain) {secret secret' : Password}
    (clean : .char '\r' ∉ secret.text) (clean' : .char '\r' ∉ secret'.text) :
    Alike ⟨who, domain, .setPassword secret⟩ ⟨who, domain, .setPassword secret'⟩

/-- The contents are the same, or those of the files of changes that are alike. -/
def ContentAlike (bytes bytes' : Bytes) : Prop :=
  bytes = bytes' ∨ ∃ c c' : Change, c.Alike c' ∧ Queue.content? c = some bytes ∧
    Queue.content? c' = some bytes'

inductive Node.Alike : Node → Node → Prop where
  | directory : Alike .directory .directory
  | file (mode : Nat) {bytes bytes' : Bytes} (content : ContentAlike bytes bytes') :
    Alike (.file mode bytes) (.file mode bytes')

/-- In the same place there are nodes that are alike. -/
def Node.AlikeAt {κ : Type} (n n' : κ × Node) : Prop := n.1 = n'.1 ∧ n.2.Alike n'.2

/-- The same locations hold nodes that are alike, in the same order. -/
structure FileSystem.Alike (fs fs' : FileSystem) : Prop where
  home : fs.home = fs'.home
  nodes : List.Forall₂ Node.AlikeAt fs.nodes fs'.nodes

structure Entry.Alike (e e' : Entry) : Prop where
  path : e.path = e'.path
  account : e.account = e'.account
  operation : e.operation = e'.operation
  password : e.password.isSome = e'.password.isSome

theorem Node.Alike.refl (n : Node) : n.Alike n := by
  cases n with
  | file mode content => exact .file mode (.inl rfl)
  | directory => exact .directory

theorem Node.fst_of_alikeAt {κ : Type} {nodes nodes' : List (κ × Node)}
    (alike : List.Forall₂ Node.AlikeAt nodes nodes') : nodes.map Prod.fst = nodes'.map Prod.fst := by
  refine List.forall₂_eq_eq_eq ▸ (List.rel_map (R := Node.AlikeAt) (P := Eq) ?_ alike)
  intro n n' same
  exact same.1

theorem FileSystem.Alike.refl (fs : FileSystem) : fs.Alike fs :=
  ⟨rfl, List.forall₂_same.2 fun n _ => ⟨rfl, .refl n.2⟩⟩

theorem Entry.Alike.refl (e : Entry) : e.Alike e := ⟨rfl, rfl, rfl, rfl⟩

instance : Std.Refl Entry.Alike := ⟨Entry.Alike.refl⟩

/-! ## Contents -/

section Content

variable {c c' : Change}

theorem Change.Alike.key (alike : c.Alike c') : c.key = c'.key := by cases alike <;> rfl

theorem Change.Alike.account (alike : c.Alike c') : c.account = c'.account := by
  cases alike <;> rfl

theorem Change.Alike.principal (alike : c.Alike c') : c.principal = c'.principal := by
  cases alike <;> rfl

theorem Change.Alike.operation (alike : c.Alike c') : c.operation = c'.operation := by
  cases alike <;> rfl

theorem Change.Alike.password_isSome (alike : c.Alike c') :
    c.password.isSome = c'.password.isSome := by
  cases alike <;> rfl

theorem Change.Alike.content? (alike : c.Alike c') :
    Option.Rel ContentAlike (Queue.content? c) (Queue.content? c') := by
  have either : (Queue.content? c).isSome = (Queue.content? c').isSome := by
    rw [Queue.isSome_content?, Queue.isSome_content?, alike.principal]
  cases written : Queue.content? c with
  | none =>
    rw [written] at either
    rw [Option.isSome_eq_false_iff.1 either.symm |> Option.isNone_iff_eq_none.1]
    exact .none
  | some bytes =>
    rw [written] at either
    obtain ⟨bytes', written'⟩ := Option.isSome_iff_exists.1 either.symm
    rw [written']
    exact .some (.inr ⟨c, c', alike, written, written'⟩)

/-- How the file of a change is read, if its password is on one line. -/
theorem Entry.ofBytes_of_whole {bytes : Bytes} (file : Path)
    (encoded : Queue.content? c = some bytes) (whole : ∀ t, c.password = some t → t.Whole) :
    ofBytes file bytes =
      if c.account.Whole then
        if c.account = [] then .error (.invalid [⟨[.field "account"], .notText⟩])
        else .ok ⟨file, c.account, c.domain, c.operation, c.password⟩
      else .error (.parse (.unterminatedLine file)) := by
  by_cases account : c.account.Whole
  · have read : fields file bytes = .ok ⟨file, c.account, c.domain, c.operation, c.password⟩ := by
      rw [fields_content file encoded account]
      cases given : c.password with
      | none => rfl
      | some t => simp only [if_pos (whole t given)]
    rw [if_pos account, ofBytes, read]
  · rw [if_neg account, ofBytes, fields_of_broken file encoded account]

theorem Text.whole_of_clean {t : Text} (clean : .char '\r' ∉ t) : t.Whole :=
  fun inside => clean ((List.dropLast_sublist t).subset inside)

theorem Change.Alike.eq_or_whole (alike : c.Alike c') :
    c = c' ∨ (∀ t, c.password = some t → t.Whole) ∧ ∀ t, c'.password = some t → t.Whole := by
  cases alike with
  | refl => exact .inl rfl
  | password who domain clean clean' =>
    refine .inr ⟨?_, ?_⟩
    · rintro t ⟨⟩
      exact Text.whole_of_clean clean
    · rintro t ⟨⟩
      exact Text.whole_of_clean clean'

/-- Contents that are alike are read as entries that are alike, or cannot be read for the same
reason. -/
theorem ContentAlike.ofBytes {bytes bytes' : Bytes} (alike : ContentAlike bytes bytes')
    (file : Path) : Agree Eq Entry.Alike (Entry.ofBytes file bytes) (Entry.ofBytes file bytes') := by
  obtain rfl | ⟨c, c', alike, encoded, encoded'⟩ := alike
  · exact .refl _
  · obtain rfl | ⟨whole, whole'⟩ := alike.eq_or_whole
    · cases encoded.symm.trans encoded'
      exact .refl _
    · rw [Entry.ofBytes_of_whole file encoded whole, Entry.ofBytes_of_whole file encoded' whole',
        ← alike.account]
      by_cases account : c.account.Whole
      · by_cases empty : c.account = []
        · rw [if_pos account, if_pos account, if_pos empty, if_pos empty]
          exact .error rfl
        · rw [if_pos account, if_pos account, if_neg empty, if_neg empty]
          exact .ok ⟨rfl, rfl, alike.operation, alike.password_isSome⟩
      · rw [if_neg account, if_neg account]
        exact .error rfl

end Content

/-! ## What is asked of a file system -/

namespace FileSystem

variable {fs fs' : FileSystem}

theorem Alike.get? (alike : fs.Alike fs') (l : Location) :
    Option.Rel Node.Alike (fs.get? l) (fs'.get? l) := by
  have nodes := alike.nodes
  unfold FileSystem.get?
  by_cases root : l = []
  · rw [if_pos root, if_pos root]
    exact .some .directory
  · rw [if_neg root, if_neg root]
    generalize fs.nodes = ns at nodes
    generalize fs'.nodes = ns' at nodes
    induction nodes with
    | nil => exact .none
    | @cons n n' rest rest' first _ ih =>
      rw [List.find?_cons, List.find?_cons, ← first.1]
      cases decide (n.1 = l) with
      | true => exact .some first.2
      | false => exact ih

theorem Alike.held (alike : fs.Alike fs') (l : Location) :
    (fs.get? l = none ∧ fs'.get? l = none) ∨
      (fs.get? l = some .directory ∧ fs'.get? l = some .directory) ∨
      ∃ mode bytes bytes', ContentAlike bytes bytes' ∧ fs.get? l = some (.file mode bytes) ∧
        fs'.get? l = some (.file mode bytes') := by
  have held := alike.get? l
  generalize fs.get? l = found at held ⊢
  generalize fs'.get? l = found' at held ⊢
  cases held with
  | none => exact .inl ⟨rfl, rfl⟩
  | some node =>
    cases node with
    | directory => exact .inr (.inl ⟨rfl, rfl⟩)
    | file mode content => exact .inr (.inr ⟨mode, _, _, content, rfl, rfl⟩)

theorem Alike.step (alike : fs.Alike fs') (l : Location) (name : Text) :
    fs.step l name = fs'.step l name := by
  unfold FileSystem.step
  obtain ⟨none, none'⟩ | ⟨directory, directory'⟩ | ⟨mode, bytes, bytes', -, file, file'⟩ := alike.held l
  · rw [none, none']
  · rw [directory, directory']
  · rw [file, file']

theorem Alike.locate (alike : fs.Alike fs') (p : Path) : fs.locate p = fs'.locate p := by
  have follow (l : Location) (names : List Text) : fs.follow l names = fs'.follow l names := by
    induction names generalizing l with
    | nil => rfl
    | cons name rest ih =>
      rw [FileSystem.follow, FileSystem.follow, alike.step]
      cases fs'.step l name with
      | error e => rfl
      | ok next => exact ih next
  unfold FileSystem.locate
  rw [follow, alike.home]

theorem Alike.list (alike : fs.Alike fs') (p : Path) :
    Agree Eq (List.Forall₂ Node.AlikeAt) (fs.list p) (fs'.list p) := by
  have entries (l : Location) : List.Forall₂ Node.AlikeAt (fs.entries l) (fs'.entries l) := by
    refine List.rel_filterMap ?_ alike.nodes
    rintro ⟨m, node⟩ ⟨m', node'⟩ ⟨rfl, same⟩
    simp only
    cases childName? l m with
    | none => exact .none
    | some name => exact .some ⟨rfl, same⟩
  unfold FileSystem.list
  rw [alike.locate]
  cases fs'.locate p with
  | error e => exact .error rfl
  | ok l =>
    simp only [bind, Except.bind]
    obtain ⟨none, none'⟩ | ⟨directory, directory'⟩ | ⟨mode, bytes, bytes', content, file, file'⟩ :=
      alike.held l
    · rw [none, none']
      exact .error rfl
    · rw [directory, directory']
      exact .ok (entries l)
    · rw [file, file']
      exact .error rfl

theorem Alike.read (alike : fs.Alike fs') (p : Path) :
    Agree Eq ContentAlike (fs.read p) (fs'.read p) := by
  unfold FileSystem.read
  rw [alike.locate]
  cases fs'.locate p with
  | error e => exact .error rfl
  | ok l =>
    simp only [bind, Except.bind]
    obtain ⟨none, none'⟩ | ⟨directory, directory'⟩ | ⟨mode, bytes, bytes', content, file, file'⟩ :=
      alike.held l
    · rw [none, none']
      exact .error rfl
    · rw [directory, directory']
      exact .error rfl
    · rw [file, file']
      exact .ok content

/-! ## What is done to a file system -/

theorem Alike.restrict (alike : fs.Alike fs') (keep : Location → Bool) :
    (fs.restrict keep).Alike (fs'.restrict keep) := by
  refine ⟨alike.home, List.rel_filter ?_ alike.nodes⟩
  rintro n n' ⟨same, -⟩
  simp only [same]

theorem Alike.set (alike : fs.Alike fs') (l : Location) {node node' : Node}
    (same : node.Alike node') : (fs.set l node).Alike (fs'.set l node') :=
  ⟨alike.home, List.rel_append (alike.restrict _).nodes (.cons ⟨rfl, same⟩ .nil)⟩

theorem Alike.create (alike : fs.Alike fs') (mode : Nat) {bytes bytes' : Bytes}
    (content : ContentAlike bytes bytes') (p : Path) :
    Agree Eq FileSystem.Alike (fs.create mode bytes p) (fs'.create mode bytes' p) := by
  unfold FileSystem.create
  rw [alike.locate]
  cases fs'.locate p with
  | error e => exact .error rfl
  | ok l =>
    simp only [bind, Except.bind]
    obtain ⟨none, none'⟩ | ⟨directory, directory'⟩ | ⟨mode', old, old', -, file, file'⟩ :=
      alike.held l
    · rw [none, none']
      exact .ok (alike.set l (.file mode content))
    · rw [directory, directory']
      exact .error rfl
    · rw [file, file']
      exact .error rfl

theorem Alike.openOrCreate (alike : fs.Alike fs') (mode : Nat) (p : Path) :
    Agree Eq (fun made made' => made.1 = made'.1 ∧ made.2.Alike made'.2) (fs.openOrCreate mode p)
      (fs'.openOrCreate mode p) := by
  unfold FileSystem.openOrCreate
  rw [alike.locate]
  cases fs'.locate p with
  | error e => exact .error rfl
  | ok l =>
    simp only [bind, Except.bind]
    obtain ⟨none, none'⟩ | ⟨directory, directory'⟩ | ⟨mode', bytes, bytes', content, file, file'⟩ :=
      alike.held l
    · rw [none, none']
      exact .ok ⟨rfl, alike.set l (.refl _)⟩
    · rw [directory, directory']
      exact .error rfl
    · rw [file, file']
      exact .ok ⟨rfl, alike⟩

theorem Alike.unlink (alike : fs.Alike fs') (p : Path) :
    Agree Eq FileSystem.Alike (fs.unlink p) (fs'.unlink p) := by
  unfold FileSystem.unlink
  rw [alike.locate]
  cases fs'.locate p with
  | error e => exact .error rfl
  | ok l =>
    simp only [bind, Except.bind]
    obtain ⟨none, none'⟩ | ⟨directory, directory'⟩ | ⟨mode, bytes, bytes', content, file, file'⟩ :=
      alike.held l
    · rw [none, none']
      exact .error rfl
    · rw [directory, directory']
      exact .error rfl
    · rw [file, file']
      exact .ok (alike.restrict _)

end FileSystem

end AccountRelay
