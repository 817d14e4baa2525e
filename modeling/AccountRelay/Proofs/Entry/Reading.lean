import AccountRelay.Entry
import AccountRelay.Proofs.Text.Utf8
/-!
# Reading lines chunk by chunk

A reader takes lines from the front of a file and decodes no more of it than they need. What it can
come to is told by the texts that it has once it has decoded some of the chunks (`Unread.Reaches`):
it takes a line if and only if one of these texts begins with the line, and goes on with what follows.
So where the chunks end does not matter to the lines, but only to what is decoded along with them.
-/

namespace AccountRelay

/-- Read as one line, because no carriage return stands before the last symbol. -/
def Text.Whole (t : Text) : Prop := .char '\r' ∉ t.dropLast

instance (t : Text) : Decidable t.Whole := inferInstanceAs (Decidable (_ ∉ _))

namespace Entry

/-! ## The first line of a text -/

theorem Line.first_cons {c : Symbol} (newline : c ≠ .char '\n') (carriage : c ≠ .char '\r')
    (rest : Text) : Line.first (c :: rest) = (Line.first rest).extend c := by
  rw [Line.first.eq_def]
  split
  · rename_i same
    cases same
  · rename_i same
    cases same
    exact absurd rfl newline
  · rename_i same
    cases same
    exact absurd rfl carriage
  · rename_i same
    cases same
    exact absurd rfl carriage
  · rename_i same
    cases same
    exact absurd rfl carriage
  · rename_i same
    cases same
    rfl

theorem Line.first_append {t : Text} (clear : .char '\n' ∉ t) (rest : Text) :
    Line.first (t ++ .char '\n' :: rest) = if t.Whole then .complete t rest else .broken := by
  induction t with
  | nil => rfl
  | cons c t ih =>
    rw [List.mem_cons, not_or] at clear
    by_cases carriage : c = .char '\r'
    · subst carriage
      cases t with
      | nil => rfl
      | cons d t =>
        have other : d ≠ .char '\n' := by
          rintro rfl
          exact clear.2 List.mem_cons_self
        have broken : ¬ Text.Whole (.char '\r' :: d :: t) := fun whole => whole List.mem_cons_self
        rw [if_neg broken]
        simp only [List.cons_append, Line.first]
    · rw [List.cons_append, Line.first_cons (Ne.symm clear.1) carriage, ih clear.2]
      have same : Text.Whole (c :: t) ↔ Text.Whole t := by
        cases t with
        | nil => exact Iff.rfl
        | cons d t => simp [Text.Whole, Ne.symm carriage]
      by_cases whole : Text.Whole t
      · rw [if_pos whole, if_pos (same.2 whole)]
        rfl
      · rw [if_neg whole, if_neg fun h => whole (same.1 h)]
        rfl

theorem Line.first_of_not_mem {t : Text} (clear : .char '\n' ∉ t) (line rest : Text) :
    Line.first t ≠ .complete line rest := by
  induction t generalizing line rest with
  | nil => simp [Line.first]
  | cons c t ih =>
    rw [List.mem_cons, not_or] at clear
    by_cases carriage : c = .char '\r'
    · subst carriage
      cases t with
      | nil => simp [Line.first]
      | cons d t =>
        have other : d ≠ .char '\n' := by
          rintro rfl
          exact clear.2 List.mem_cons_self
        simp [Line.first]
    · rw [Line.first_cons (Ne.symm clear.1) carriage]
      cases first : Line.first t with
      | complete line rest => exact absurd first (ih clear.2 line rest)
      | broken => simp [Line.extend]
      | unfinished => simp [Line.extend]

/-- The first line is what stands before the first newline, if that is whole. -/
theorem Line.first_eq_complete_iff {t line rest : Text} :
    Line.first t = .complete line rest ↔
      t = line ++ .char '\n' :: rest ∧ .char '\n' ∉ line ∧ line.Whole := by
  constructor
  · intro first
    by_cases newline : .char '\n' ∈ t
    · obtain ⟨before, after, rfl, clear⟩ := List.eq_append_cons_of_mem newline
      rw [Line.first_append clear] at first
      split at first
      · rename_i whole
        cases first
        exact ⟨rfl, clear, whole⟩
      · cases first
    · exact absurd first (Line.first_of_not_mem newline line rest)
  · rintro ⟨rfl, clear, whole⟩
    rw [Line.first_append clear, if_pos whole]

theorem Line.first_of_complete {t line rest : Text} (first : Line.first t = .complete line rest)
    (more : Text) : Line.first (t ++ more) = .complete line (rest ++ more) := by
  obtain ⟨rfl, clear, whole⟩ := Line.first_eq_complete_iff.1 first
  rw [List.append_assoc, List.cons_append, Line.first_append clear, if_pos whole]

theorem Line.first_of_broken {t : Text} (first : Line.first t = .broken) (more : Text) :
    Line.first (t ++ more) = .broken := by
  induction t with
  | nil => cases first
  | cons c t ih =>
    by_cases newline : c = .char '\n'
    · subst newline
      cases first
    by_cases carriage : c = .char '\r'
    · subst carriage
      cases t with
      | nil => cases first
      | cons d t =>
        by_cases pair : d = .char '\n'
        · subst pair
          cases first
        · simp only [List.cons_append, Line.first]
    · rw [Line.first_cons newline carriage] at first
      rw [List.cons_append, Line.first_cons newline carriage]
      cases begun : Line.first t with
      | complete line rest =>
        rw [begun] at first
        cases first
      | broken =>
        rw [ih begun]
        rfl
      | unfinished =>
        rw [begun] at first
        cases first

/-! ## Chunks -/

theorem flatten_take_chunks (bytes : Bytes) (n : Nat) :
    ((chunks bytes).take n).flatten = bytes.take (n * chunkSize) := by
  have front (m : Nat) :
      ((List.range m).map fun k => (bytes.drop (k * chunkSize)).take chunkSize).flatten =
        bytes.take (m * chunkSize) := by
    induction m with
    | zero => simp
    | succ m ih =>
      rw [List.range_succ, List.map_append, List.flatten_append, ih, Nat.succ_mul, List.take_add]
      simp
  rw [chunks, ← List.map_take, List.take_range, front]
  generalize counted : (bytes.length + (chunkSize - 1)) / chunkSize = count
  -- All chunks together hold all bytes.
  have all : bytes.length ≤ count * chunkSize := by
    simp only [chunkSize] at counted ⊢
    omega
  by_cases few : n ≤ count
  · rw [Nat.min_eq_left few]
  · have more : count * chunkSize ≤ n * chunkSize := Nat.mul_le_mul_right _ (by omega)
    rw [Nat.min_eq_right (by omega), List.take_of_length_le all,
      List.take_of_length_le (Nat.le_trans all more)]

/-! ## What a reader comes to -/

/-- The text is what there is before the reader once it has decoded some more chunks. -/
def Unread.Reaches (u : Unread) (t : Text) : Prop :=
  ∃ n more q, Text.decodeFrom u.held (u.chunks.take n).flatten = .ok (more, q) ∧ t = u.text ++ more

section Reaches

variable {file : Path} {u u' : Unread} {t more line rest : Text} {held q : Option Text.Partial}
  {chunk : Bytes} {chunks : List Bytes}

theorem Unread.Reaches.of_decoded (decoded : Text.decodeFrom held chunk = .ok (more, q))
    (reaches : Unread.Reaches ⟨t ++ more, q, chunks⟩ rest) :
    Unread.Reaches ⟨t, held, chunk :: chunks⟩ rest := by
  obtain ⟨n, later, r, last, rfl⟩ := reaches
  refine ⟨n + 1, more ++ later, r, ?_, List.append_assoc ..⟩
  rw [List.take_succ_cons, List.flatten_cons]
  exact Text.decodeFrom_append_eq_ok_iff.2 ⟨more, q, later, decoded, last, rfl⟩

theorem Unread.Reaches.eq_or_decoded (reaches : u.Reaches t) :
    t = u.text ∨ ∃ chunk chunks more q, u.chunks = chunk :: chunks ∧
      Text.decodeFrom u.held chunk = .ok (more, q) ∧
      Unread.Reaches ⟨u.text ++ more, q, chunks⟩ t := by
  obtain ⟨n, more, q, decoded, rfl⟩ := reaches
  cases n with
  | zero =>
    cases decoded
    exact .inl (List.append_nil _)
  | succ n =>
    cases left : u.chunks with
    | nil =>
      rw [left] at decoded
      cases decoded
      exact .inl (List.append_nil _)
    | cons chunk chunks =>
      rw [left, List.take_succ_cons, List.flatten_cons] at decoded
      obtain ⟨first, r, later, one, two, rfl⟩ := Text.decodeFrom_append_eq_ok_iff.1 decoded
      exact .inr ⟨chunk, chunks, first, r, rfl, one, n, later, q, two, (List.append_assoc ..).symm⟩

theorem nextLine_of_complete (first : Line.first u.text = .complete line rest) :
    nextLine file u = .ok (line, { u with text := rest }) := by
  rw [nextLine, lineFrom.eq_def]
  simp only [first]

theorem nextLine_of_broken (first : Line.first u.text = .broken) :
    nextLine file u = .error (.unterminatedLine file) := by
  rw [nextLine, lineFrom.eq_def]
  simp only [first]

theorem nextLine_of_decoded (first : Line.first t = .unfinished)
    (decoded : Text.decodeFrom held chunk = .ok (more, q)) :
    nextLine file ⟨t, held, chunk :: chunks⟩ = nextLine file ⟨t ++ more, q, chunks⟩ := by
  rw [nextLine, lineFrom.eq_def]
  simp only [first, decoded]
  rfl

/-- If some text that a reader reaches ends a line, the reader stops at one that does. -/
theorem exists_nextLine_eq (file : Path) (reaches : u.Reaches t) (ends : Line.first t ≠ .unfinished) :
    ∃ v : Unread, nextLine file u = nextLine file v ∧ Line.first v.text ≠ .unfinished ∧
      v.Reaches t := by
  -- As long as no line ends in the text, the reader does what it does with one more chunk decoded.
  obtain ⟨text, held, chunks⟩ := u
  induction chunks generalizing text held with
  | nil =>
    obtain rfl | ⟨chunk, chunks, more, q, left, -⟩ := reaches.eq_or_decoded
    · exact ⟨_, rfl, ends, reaches⟩
    · cases left
  | cons chunk chunks ih =>
    by_cases now : Line.first text = .unfinished
    · obtain rfl | ⟨chunk, chunks, more, q, left, decoded, later⟩ := reaches.eq_or_decoded
      · exact absurd now ends
      · cases left
        obtain ⟨v, same, stops, there⟩ := ih _ _ later
        exact ⟨v, (nextLine_of_decoded now decoded).trans same, stops, there⟩
    · exact ⟨_, rfl, now, reaches⟩

/-- The reader comes to the first line of a text that it reaches, if that line ends or breaks. -/
theorem nextLine_of_ends (file : Path) (reaches : u.Reaches t) (ends : Line.first t ≠ .unfinished) :
    (∃ line rest u', Line.first t = .complete line rest ∧ nextLine file u = .ok (line, u') ∧
      u'.Reaches rest) ∨
      Line.first t = .broken ∧ nextLine file u = .error (.unterminatedLine file) := by
  obtain ⟨v, same, stops, n, more, q, decoded, rfl⟩ := exists_nextLine_eq file reaches ends
  cases here : Line.first v.text with
  | complete line rest =>
    exact .inl ⟨line, rest ++ more, _, Line.first_of_complete here more,
      same.trans (nextLine_of_complete here), n, more, q, decoded, rfl⟩
  | broken => exact .inr ⟨Line.first_of_broken here more, same.trans (nextLine_of_broken here)⟩
  | unfinished => exact absurd here stops

theorem nextLine_of_reaches (file : Path) (reaches : u.Reaches (line ++ .char '\n' :: rest))
    (clear : .char '\n' ∉ line) (whole : line.Whole) :
    ∃ u', nextLine file u = .ok (line, u') ∧ u'.Reaches rest := by
  have first := Line.first_append clear rest
  rw [if_pos whole] at first
  obtain ⟨line, rest, u', same, read, later⟩ | ⟨broken, -⟩ :=
    nextLine_of_ends file reaches (by rw [first]; nofun)
  · cases first.symm.trans same
    exact ⟨u', read, later⟩
  · cases first.symm.trans broken

theorem nextLine_of_not_whole (file : Path) (reaches : u.Reaches (line ++ .char '\n' :: rest))
    (clear : .char '\n' ∉ line) (broken : ¬ line.Whole) :
    nextLine file u = .error (.unterminatedLine file) := by
  have first := Line.first_append clear rest
  rw [if_neg broken] at first
  obtain ⟨line, rest, u', same, -, -⟩ | ⟨-, failed⟩ :=
    nextLine_of_ends file reaches (by rw [first]; nofun)
  · cases first.symm.trans same
  · exact failed

theorem nextLine_cases (read : nextLine file u = .ok (line, u')) :
    (Line.first u.text = .complete line u'.text ∧ u' = { u with text := u'.text }) ∨
      ∃ chunk chunks more q, u.chunks = chunk :: chunks ∧
        Text.decodeFrom u.held chunk = .ok (more, q) ∧
        nextLine file ⟨u.text ++ more, q, chunks⟩ = .ok (line, u') := by
  cases first : Line.first u.text with
  | complete here rest =>
    cases read.symm.trans (nextLine_of_complete first)
    exact .inl ⟨rfl, rfl⟩
  | broken => cases read.symm.trans (nextLine_of_broken first)
  | unfinished =>
    obtain ⟨text, held, chunks⟩ := u
    cases chunks with
    | nil =>
      rw [nextLine, lineFrom.eq_def] at read
      simp only [first] at read
      cases read
    | cons chunk chunks =>
      cases decoded : Text.decodeFrom held chunk with
      | error f =>
        rw [nextLine, lineFrom.eq_def] at read
        simp only [first, decoded] at read
        cases read
      | ok found =>
        rw [nextLine_of_decoded first decoded] at read
        exact .inr ⟨chunk, chunks, _, _, rfl, decoded, read⟩

theorem Unread.Reaches.of_complete (first : Line.first u.text = .complete line t)
    (reaches : Unread.Reaches { u with text := t } rest) :
    u.Reaches (line ++ .char '\n' :: rest) := by
  obtain ⟨n, more, q, decoded, rfl⟩ := reaches
  refine ⟨n, more, q, decoded, ?_⟩
  rw [(Line.first_eq_complete_iff.1 first).1, List.append_assoc]
  rfl

theorem reaches_of_nextLine (read : nextLine file u = .ok (line, u')) :
    .char '\n' ∉ line ∧ line.Whole ∧ ∀ rest, u'.Reaches rest → u.Reaches (line ++ .char '\n' :: rest) := by
  obtain ⟨text, held, chunks⟩ := u
  induction chunks generalizing text held with
  | nil =>
    obtain ⟨first, same⟩ | ⟨chunk, chunks, more, q, left, -⟩ := nextLine_cases read
    · obtain ⟨-, clear, whole⟩ := Line.first_eq_complete_iff.1 first
      exact ⟨clear, whole, fun rest later => .of_complete first (same ▸ later)⟩
    · cases left
  | cons chunk chunks ih =>
    obtain ⟨first, same⟩ | ⟨chunk, chunks, more, q, left, decoded, read⟩ := nextLine_cases read
    · obtain ⟨-, clear, whole⟩ := Line.first_eq_complete_iff.1 first
      exact ⟨clear, whole, fun rest later => .of_complete first (same ▸ later)⟩
    · cases left
      obtain ⟨clear, whole, reached⟩ := ih _ _ read
      exact ⟨clear, whole, fun rest later => (reached rest later).of_decoded decoded⟩

end Reaches

/-! ## A whole file -/

theorem reaches_ofBytes_iff {bytes : Bytes} {t : Text} :
    (Unread.ofBytes bytes).Reaches t ↔
      ∃ n q, Text.decodeFrom none (bytes.take (n * chunkSize)) = .ok (t, q) := by
  constructor
  · rintro ⟨n, more, q, decoded, rfl⟩
    exact ⟨n, q, flatten_take_chunks bytes n ▸ decoded⟩
  · rintro ⟨n, q, decoded⟩
    exact ⟨n, t, q, (flatten_take_chunks bytes n).symm ▸ decoded, rfl⟩

theorem reaches_of_decoded {bytes : Bytes} {t : Text} {q : Option Text.Partial}
    (decoded : Text.decodeFrom none bytes = .ok (t, q)) : (Unread.ofBytes bytes).Reaches t := by
  have all : bytes.length ≤ bytes.length * chunkSize := Nat.le_mul_of_pos_right _ (by decide)
  refine reaches_ofBytes_iff.2 ⟨bytes.length, q, ?_⟩
  rwa [List.take_of_length_le all]

end Entry

end AccountRelay
