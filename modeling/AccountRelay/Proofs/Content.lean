import AccountRelay.Proofs.Entry.Reading
import AccountRelay.Proofs.Host
import AccountRelay.Proofs.Principal.Written
import AccountRelay.Queue
/-!
# What is written and what is read

A field holds no newline, so the lines of a file split at newlines are the fields that were written.
Readers end a line at a carriage return too. A field is read as it was written if it has none, or
one as its last symbol; another one makes the file unreadable. So does an empty account.
-/

namespace AccountRelay

/-! ## Lines -/

namespace Text

theorem splitAll_append {mark : Symbol} {t : Text} (clear : mark ∉ t) (rest : Text) :
    (t ++ mark :: rest).splitAll mark = t :: rest.splitAll mark := by
  induction t with
  | nil => simp [splitAll]
  | cons c t ih =>
    rw [List.mem_cons, not_or] at clear
    rw [List.cons_append, splitAll, if_neg (Ne.symm clear.1), ih clear.2]

theorem splitAll_lines {mark : Symbol} {lines : List Text} (clear : ∀ line ∈ lines, mark ∉ line) :
    splitAll mark (lines.flatMap fun line => line ++ [mark]) = lines ++ [[]] := by
  induction lines with
  | nil => rfl
  | cons line rest ih =>
    rw [List.flatMap_cons, List.append_assoc, List.singleton_append]
    rw [splitAll_append (clear line List.mem_cons_self),
      ih fun other inside => clear other (List.mem_cons_of_mem _ inside)]
    rfl

end Text

/-! ## The content of an entry -/

theorem Operation.newline_not_mem_word (o : Operation) : Symbol.char '\n' ∉ o.word := by
  cases o <;> decide

theorem Domain.newline_not_mem_word (d : Domain) : Symbol.char '\n' ∉ d.word := by
  cases d
  decide

namespace Change

theorem newline_not_mem_password {c : Change} {t : Text} (given : c.password = some t) :
    Symbol.char '\n' ∉ t := by
  unfold Change.password Action.password at given
  cases action : c.action with
  | setPassword secret =>
    rw [action] at given
    cases given
    exact secret.oneLine
  | enable =>
    rw [action] at given
    cases given
  | disable =>
    rw [action] at given
    cases given

theorem newline_not_mem_account (c : Change) : Symbol.char '\n' ∉ c.account :=
  c.principal.newline_not_mem_account

theorem newline_not_mem_lines (c : Change) {line : Text} (inside : line ∈ c.lines) :
    Symbol.char '\n' ∉ line := by
  obtain inside | inside := List.mem_append.1 inside
  · simp only [List.mem_cons, List.not_mem_nil, or_false] at inside
    obtain rfl | rfl | rfl := inside
    · exact c.newline_not_mem_account
    · exact Domain.newline_not_mem_word _
    · exact Operation.newline_not_mem_word _
  · exact newline_not_mem_password (Option.mem_toList.1 inside)

def call (c : Change) : Call := ⟨c.account, c.operation, c.password⟩

end Change

def Call.ofLines? : List Text → Option Call
  | [account, _, word, []] =>
    (Operation.ofWord? word).map fun operation => ⟨account, operation, none⟩
  | [account, _, word, password, []] =>
    (Operation.ofWord? word).map fun operation => ⟨account, operation, some password⟩
  | _ => none

/-- The account, the operation and the password that a file holds, each up to its newline. -/
def Call.ofBytes? (bytes : Bytes) : Option Call :=
  match Text.decode bytes with
  | .ok (text, false) => Call.ofLines? (text.splitAll (.char '\n'))
  | _ => none

theorem Call.ofBytes?_content {c : Change} {bytes : Bytes} (encoded : Queue.content? c = some bytes) :
    Call.ofBytes? bytes = some c.call := by
  rw [Call.ofBytes?, Text.decode_encode encoded]
  simp only
  rw [Text.splitAll_lines fun line inside => c.newline_not_mem_lines inside, Change.lines]
  cases given : c.password with
  | none => simp [Call.ofLines?, Change.call, given]
  | some t => simp [Call.ofLines?, Change.call, given]

/-- Whether the file of a change can be written is for its user to say. -/
theorem Queue.isSome_content? (c : Change) :
    (content? c).isSome = c.principal.user.encode?.isSome := by
  have user : c.principal.user.encode?.isSome = c.account.encode?.isSome :=
    Text.isSome_encode?_replace '/' '.' c.account
  have domain : c.domain.word.encode?.isSome = true := by
    cases c.domain
    rfl
  have operation : c.operation.word.encode?.isSome = true := by
    cases c.operation <;> rfl
  have password : (c.password.toList.all fun t => t.encode?.isSome) = true := by
    obtain ⟨principal, _, action⟩ := c
    cases action with
    | setPassword secret => simp [Change.password, Action.password, secret.encodable]
    | enable => rfl
    | disable => rfl
  rw [content?, Text.isSome_encode?_lines, Change.lines, List.all_append, password, user]
  simp [domain, operation]

/-! ## Reading it -/

/-- The file of the change can be read: the account is there, and no carriage return ends a line
before its newline. -/
structure Change.Readable (c : Change) : Prop where
  account : c.account ≠ []
  wholeAccount : c.account.Whole
  wholePassword : ∀ t, c.password = some t → t.Whole

theorem Operation.whole_word (o : Operation) : o.word.Whole := by
  cases o <;> decide

theorem Domain.whole_word (d : Domain) : d.word.Whole := by
  cases d
  decide

namespace Entry

theorem path_of_fields {file : Path} {bytes : Bytes} {entry : Entry}
    (read : fields file bytes = .ok entry) : entry.path = file := by
  unfold fields at read
  simp only [bind, Except.bind] at read
  repeat' split at read
  all_goals first
    | cases read; rfl
    | cases read

theorem path_of_ofBytes {file : Path} {bytes : Bytes} {entry : Entry}
    (read : ofBytes file bytes = .ok entry) : entry.path = file := by
  unfold ofBytes at read
  split at read
  · cases read
  · rename_i e fields
    split at read
    · cases read
    · cases read
      exact path_of_fields fields

theorem ofBytes_eq_ok_iff {file : Path} {bytes : Bytes} {entry : Entry} :
    ofBytes file bytes = .ok entry ↔ fields file bytes = .ok entry ∧ entry.account ≠ [] := by
  unfold ofBytes
  split
  · rename_i problem failed
    constructor
    · intro same
      cases same
    · rintro ⟨read, -⟩
      cases failed.symm.trans read
  · rename_i found read
    split
    · rename_i empty
      constructor
      · intro same
        cases same
      · rintro ⟨read', nonempty⟩
        rw [read] at read'
        cases read'
        exact absurd empty nonempty
    · rename_i nonempty
      constructor
      · intro same
        cases same
        exact ⟨read, nonempty⟩
      · rintro ⟨read', -⟩
        rw [read] at read'
        cases read'
        rfl

theorem of_ofBytes_error {file : Path} {bytes : Bytes} {e : Failure}
    (failed : ofBytes file bytes = .error e) :
    (e.kind = .parse ∧ ∀ entry, fields file bytes ≠ .ok entry) ∨
      e.kind = .validation ∧ ∃ entry, fields file bytes = .ok entry ∧ entry.account = [] := by
  unfold ofBytes at failed
  split at failed
  · rename_i problem malformed
    cases failed
    refine .inl ⟨rfl, ?_⟩
    intro entry read
    cases malformed.symm.trans read
  · rename_i entry read
    split at failed
    · rename_i empty
      cases failed
      exact .inr ⟨rfl, entry, read, empty⟩
    · cases failed

theorem read_on (file : Path) (h : Host) :
    (Entry.read file).on h =
      (if file.hasNul then .error (.fault .nulInPath)
        else match h.files.read file with
          | .ok bytes => Entry.ofBytes file bytes
          | .error e => .error (.storage (.readEntry file e)), h) := by
  unfold Entry.read
  rw [Act.on_bind, Act.readFile_on]
  by_cases nul : file.hasNul = true
  · simp only [if_pos nul]
  · simp only [if_neg nul]
    cases h.files.read file with
    | error e => rfl
    | ok bytes => exact Act.on_ofResult h _

variable {c : Change} {bytes : Bytes}

theorem reaches_content (encoded : Queue.content? c = some bytes) :
    (Unread.ofBytes bytes).Reaches (c.account ++ .char '\n' :: (c.domain.word ++ .char '\n' ::
      (c.operation.word ++ .char '\n' :: (c.password.toList.flatMap fun t => t ++ [.char '\n'])))) := by
  have reaches := reaches_of_decoded (Text.decodeFrom_encode encoded)
  rw [Change.lines] at reaches
  simpa using reaches

theorem password_of_operation (c : Change) :
    (c.operation = .password ∧ ∃ t, t ≠ [] ∧ c.password = some t) ∨
      c.operation ≠ .password ∧ c.password = none := by
  unfold Change.operation Change.password
  cases c.action with
  | setPassword secret => exact .inl ⟨rfl, secret.text, secret.nonempty, rfl⟩
  | enable => exact .inr ⟨nofun, rfl⟩
  | disable => exact .inr ⟨nofun, rfl⟩

/-- Once the account is read, the domain and the operation are, and the password is what is left. -/
theorem fields_content (file : Path) (encoded : Queue.content? c = some bytes)
    (account : c.account.Whole) :
    fields file bytes = match c.password with
      | none => .ok ⟨file, c.account, c.domain, c.operation, none⟩
      | some t =>
        if t.Whole then .ok ⟨file, c.account, c.domain, c.operation, some t⟩
        else .error (.unterminatedLine file) := by
  obtain ⟨u₁, first, reaches⟩ :=
    nextLine_of_reaches file (reaches_content encoded) c.newline_not_mem_account account
  obtain ⟨u₂, second, reaches⟩ :=
    nextLine_of_reaches file reaches (Domain.newline_not_mem_word _) (Domain.whole_word _)
  obtain ⟨u₃, third, reaches⟩ :=
    nextLine_of_reaches file reaches (Operation.newline_not_mem_word _) (Operation.whole_word _)
  unfold fields
  simp only [bind, Except.bind, first, second, third, Domain.ofWord?_word, Operation.ofWord?_word]
  obtain ⟨operation, t, nonempty, given⟩ | ⟨operation, given⟩ := password_of_operation c
  · rw [given] at reaches
    simp only [Option.toList_some, List.flatMap_cons, List.flatMap_nil, List.append_nil] at reaches
    rw [operation, given]
    by_cases whole : Text.Whole t
    · obtain ⟨u₄, fourth, -⟩ :=
        nextLine_of_reaches file reaches (Change.newline_not_mem_password given) whole
      simp only [fourth, if_pos whole, if_neg nonempty]
      rfl
    · have fourth :=
        nextLine_of_not_whole file reaches (Change.newline_not_mem_password given) whole
      simp only [fourth, if_neg whole]
  · rw [given]
    split
    · exact absurd ‹_› operation
    · rfl

theorem fields_of_broken (file : Path) (encoded : Queue.content? c = some bytes)
    (account : ¬ c.account.Whole) : fields file bytes = .error (.unterminatedLine file) := by
  unfold fields
  rw [nextLine_of_not_whole file (reaches_content encoded) c.newline_not_mem_account account]
  rfl

/-- The file of a readable change gives the change back, and any other one cannot be read. -/
theorem ofBytes_content (file : Path) (encoded : Queue.content? c = some bytes) :
    (c.Readable ∧ ofBytes file bytes = .ok ⟨file, c.account, c.domain, c.operation, c.password⟩) ∨
      ¬ c.Readable ∧ ∃ e, ofBytes file bytes = .error e := by
  by_cases account : c.account.Whole
  · have read := fields_content file encoded account
    by_cases password : ∀ t, c.password = some t → t.Whole
    · have whole : fields file bytes = .ok ⟨file, c.account, c.domain, c.operation, c.password⟩ := by
        cases given : c.password with
        | none => rw [read, given]
        | some t => simp only [read, given, if_pos (password t given)]
      by_cases empty : c.account = []
      · refine .inr ⟨fun readable => readable.account empty,
          .invalid [⟨[.field "account"], .notText⟩], ?_⟩
        rw [ofBytes, whole]
        simp only [if_pos empty]
      · refine .inl ⟨⟨empty, account, password⟩, ?_⟩
        rw [ofBytes, whole]
        simp only [if_neg empty]
    · refine .inr ⟨fun readable => password readable.wholePassword,
        .parse (.unterminatedLine file), ?_⟩
      simp only [Classical.not_forall] at password
      obtain ⟨t, given, broken⟩ := password
      rw [ofBytes, read, given]
      simp only [if_neg broken]
  · refine .inr ⟨fun readable => account readable.wholeAccount, .parse (.unterminatedLine file), ?_⟩
    rw [ofBytes, fields_of_broken file encoded account]

end Entry

end AccountRelay
