import AccountRelay.Proofs.Content
import AccountRelay.Proofs.Text.Validity
/-!
# Which files hold an entry

The reader takes field after field from a file, and decodes one chunk after the other as it goes. It
gives an entry if and only if the text of some first chunks begins with the lines of the entry, each of
them whole up to its newline. What stands in later chunks need not be text at all. An empty line in the
place of a password is read as no password, so the entry of a password change may have none.
-/

namespace AccountRelay

/-- The text begins with the lines, each of which ends at the first newline behind it. -/
def Text.BeginsWith (t : Text) (lines : List Text) : Prop :=
  (∀ line ∈ lines, .char '\n' ∉ line ∧ line.Whole) ∧
    ∃ rest, t = (lines.flatMap fun line => line ++ [.char '\n']) ++ rest

namespace Text

theorem beginsWith_nil (t : Text) : t.BeginsWith [] := ⟨nofun, t, rfl⟩

theorem beginsWith_cons_iff {t line : Text} {lines : List Text} :
    t.BeginsWith (line :: lines) ↔
      ∃ rest : Text, t = line ++ .char '\n' :: rest ∧ .char '\n' ∉ line ∧ line.Whole ∧
        rest.BeginsWith lines := by
  constructor
  · rintro ⟨whole, rest, rfl⟩
    obtain ⟨clear, here⟩ := whole line List.mem_cons_self
    refine ⟨_, ?_, clear, here, fun other inside => whole other (List.mem_cons_of_mem _ inside),
      rest, rfl⟩
    simp only [List.flatMap_cons, List.append_assoc, List.cons_append, List.nil_append]
  · rintro ⟨_, rfl, clear, here, whole, rest, rfl⟩
    refine ⟨?_, rest, ?_⟩
    · rintro other (_ | ⟨_, inside⟩)
      · exact ⟨clear, here⟩
      · exact whole other inside
    · simp only [List.flatMap_cons, List.append_assoc, List.cons_append, List.nil_append]

end Text

namespace Entry

/-! ## Lines -/

/-- Some text that the reader reaches begins with the lines. -/
def Unread.Holds (u : Unread) (lines : List Text) : Prop := ∃ t, u.Reaches t ∧ t.BeginsWith lines

theorem Unread.holds_nil (u : Unread) : u.Holds [] :=
  ⟨u.text, ⟨0, [], u.held, rfl, (List.append_nil _).symm⟩, Text.beginsWith_nil _⟩

theorem Unread.holds_cons_iff {u : Unread} {line : Text} {lines : List Text} (file : Path) :
    u.Holds (line :: lines) ↔ ∃ u', nextLine file u = .ok (line, u') ∧ u'.Holds lines := by
  constructor
  · rintro ⟨t, reaches, begins⟩
    obtain ⟨rest, rfl, clear, whole, begins⟩ := Text.beginsWith_cons_iff.1 begins
    obtain ⟨u', read, later⟩ := nextLine_of_reaches file reaches clear whole
    exact ⟨u', read, rest, later, begins⟩
  · rintro ⟨u', read, rest, later, begins⟩
    obtain ⟨clear, whole, reached⟩ := reaches_of_nextLine read
    exact ⟨_, reached rest later, Text.beginsWith_cons_iff.2 ⟨rest, rfl, clear, whole, begins⟩⟩

/-! ## Files -/

/-- The fields of an entry as its file holds them, line by line. -/
def lines (e : Entry) : List Text :=
  [e.account, e.domain.word, e.operation.word] ++
    match e.operation with
    | .password => [e.password.getD []]
    | _ => []

/-- The text of the first chunks of a file, but for what the reader holds back behind it. -/
def Front (bytes : Bytes) (t : Text) : Prop :=
  ∃ n tail, t.SpelledBy (bytes.take (n * chunkSize)) tail ∧ Text.HeldBack tail

theorem front_iff_reaches {bytes : Bytes} {t : Text} :
    Front bytes t ↔ (Unread.ofBytes bytes).Reaches t := by
  rw [reaches_ofBytes_iff]
  exact exists_congr fun n => Text.exists_decodeFrom_iff.symm

/-- A file within one chunk is decoded as a whole, or not at all. -/
theorem front_iff_of_length_le {bytes : Bytes} {t : Text} (short : bytes.length ≤ chunkSize) :
    Front bytes t ↔ t = [] ∨ ∃ tail, t.SpelledBy bytes tail ∧ Text.HeldBack tail := by
  constructor
  · rintro ⟨n, tail, spelled, held⟩
    cases n with
    | zero =>
      obtain ⟨chars, rfl, none⟩ := spelled
      rw [Nat.zero_mul, List.take_zero] at none
      cases chars with
      | nil => exact .inl rfl
      | cons c chars =>
        rw [List.flatMap_cons, List.append_assoc] at none
        exact absurd (List.append_eq_nil_iff.1 none.symm).1 String.utf8EncodeChar_ne_nil
    | succ n =>
      have all : bytes.length ≤ (n + 1) * chunkSize := by
        rw [Nat.succ_mul]
        omega
      rw [List.take_of_length_le all] at spelled
      exact .inr ⟨tail, spelled, held⟩
  · rintro (rfl | ⟨tail, spelled, held⟩)
    · exact ⟨0, [], ⟨[], rfl, by simp⟩, .unfinished Text.unfinished_nil⟩
    · refine ⟨1, tail, ?_, held⟩
      rwa [Nat.one_mul, List.take_of_length_le short]

/-- The file holds the entry: it begins with the lines of the entry. The account is there, and what is
there of a password belongs to a password change. -/
structure HeldBy (e : Entry) (bytes : Bytes) : Prop where
  account : e.account ≠ []
  password : ∀ t, e.password = some t → e.operation = .password ∧ t ≠ []
  begins : ∃ text, Front bytes text ∧ text.BeginsWith e.lines

theorem exists_front_iff_holds {bytes : Bytes} {lines : List Text} :
    (∃ text, Front bytes text ∧ text.BeginsWith lines) ↔ (Unread.ofBytes bytes).Holds lines :=
  exists_congr fun _ => and_congr_left fun _ => front_iff_reaches

theorem heldBy_of_fields {file : Path} {bytes : Bytes} {e : Entry}
    (read : fields file bytes = .ok e) (account : e.account ≠ []) : e.HeldBy bytes := by
  unfold fields at read
  obtain ⟨⟨name, u₁⟩, first, read⟩ := bind_eq_ok_iff.1 read
  obtain ⟨⟨word, u₂⟩, second, read⟩ := bind_eq_ok_iff.1 read
  cases known : Domain.ofWord? word with
  | none =>
    simp only [known] at read
    cases read
  | some domain =>
    simp only [known] at read
    obtain rfl := Domain.word_of_ofWord? known
    obtain ⟨⟨word, u₃⟩, third, read⟩ := bind_eq_ok_iff.1 read
    cases known' : Operation.ofWord? word with
    | none =>
      simp only [known'] at read
      cases read
    | some operation =>
      simp only [known'] at read
      obtain rfl := Operation.word_of_ofWord? known'
      have begins {lines : List Text} (rest : u₃.Holds lines) :
          ∃ text, Front bytes text ∧
            text.BeginsWith ([name, domain.word, operation.word] ++ lines) := by
        refine exists_front_iff_holds.2 ((Unread.holds_cons_iff file).2 ⟨u₁, first, ?_⟩)
        refine (Unread.holds_cons_iff file).2 ⟨u₂, second, ?_⟩
        exact (Unread.holds_cons_iff file).2 ⟨u₃, third, rest⟩
      cases operation with
      | password =>
        obtain ⟨⟨password, u₄⟩, fourth, read⟩ := bind_eq_ok_iff.1 read
        cases read
        have last := begins ((Unread.holds_cons_iff file).2 ⟨u₄, fourth, u₄.holds_nil⟩)
        by_cases empty : password = []
        · subst empty
          exact ⟨account, nofun, last⟩
        · simp only [if_neg empty] at account ⊢
          refine ⟨account, ?_, last⟩
          rintro t ⟨⟩
          exact ⟨rfl, empty⟩
      | enable =>
        cases read
        exact ⟨account, nofun, begins u₃.holds_nil⟩
      | disable =>
        cases read
        exact ⟨account, nofun, begins u₃.holds_nil⟩

theorem HeldBy.password_eq_none {bytes : Bytes} {e : Entry} (held : e.HeldBy bytes)
    (other : e.operation ≠ .password) : e.password = none := by
  cases given : e.password with
  | none => rfl
  | some t => exact absurd (held.password t given).1 other

theorem HeldBy.fields {bytes : Bytes} {e : Entry} (held : e.HeldBy bytes) :
    fields e.path bytes = .ok e := by
  have holds := exists_front_iff_holds.1 held.begins
  obtain ⟨u₁, first, holds⟩ := (Unread.holds_cons_iff e.path).1 holds
  obtain ⟨u₂, second, holds⟩ := (Unread.holds_cons_iff e.path).1 holds
  obtain ⟨u₃, third, holds⟩ := (Unread.holds_cons_iff e.path).1 holds
  unfold Entry.fields
  simp only [bind, Except.bind, first, second, third, Domain.ofWord?_word, Operation.ofWord?_word]
  have belongs := held.password
  have without := held.password_eq_none
  obtain ⟨file, account, domain, operation, password⟩ := e
  cases operation with
  | password =>
    obtain ⟨u₄, fourth, -⟩ := (Unread.holds_cons_iff file).1 holds
    simp only [fourth]
    cases password with
    | none => rfl
    | some t =>
      simp only [Option.getD_some, if_neg (belongs t rfl).2]
      rfl
  | enable =>
    obtain rfl : password = none := without nofun
    rfl
  | disable =>
    obtain rfl : password = none := without nofun
    rfl

/-- Reading a file gives the entry that it holds, and fails if it holds none. -/
theorem ofBytes_eq_ok_iff_heldBy {file : Path} {bytes : Bytes} {e : Entry} :
    ofBytes file bytes = .ok e ↔ e.path = file ∧ e.HeldBy bytes := by
  rw [ofBytes_eq_ok_iff]
  constructor
  · rintro ⟨read, account⟩
    exact ⟨path_of_fields read, heldBy_of_fields read account⟩
  · rintro ⟨rfl, held⟩
    exact ⟨held.fields, held.account⟩

end Entry

end AccountRelay
