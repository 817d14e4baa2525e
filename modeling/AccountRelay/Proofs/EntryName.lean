import AccountRelay.Change
import AccountRelay.Queue
import AccountRelay.Proofs.Moment
import AccountRelay.Proofs.Principal.Written
import AccountRelay.Proofs.Text.Numeral
/-!
# What the name of an entry tells

Users may hold hyphens, but a stamp and a sequence number hold none, so a name is taken apart from
its end without ambiguity and gives its key back. Among the names of one key the stamp decides the
order, and for one second the sequence number does.
-/

namespace AccountRelay

/-- A key up to its last hyphen. -/
def stemOf (user : Text) (domain : Domain) (changeClass : ChangeClass) : Text :=
  user ++ "-" ++ domain.word ++ "-" ++ changeClass.word

theorem keyOf_eq_stemOf_append (user : Text) (domain : Domain) (changeClass : ChangeClass) :
    keyOf user domain changeClass = stemOf user domain changeClass ++ [.char '-'] := rfl

theorem hyphen_mem_keyOf (user : Text) (domain : Domain) (changeClass : ChangeClass) :
    Symbol.char '-' ∈ keyOf user domain changeClass := by
  rw [keyOf_eq_stemOf_append]
  exact List.mem_append_right _ (List.mem_singleton_self _)

theorem Change.hyphen_mem_key (c : Change) : Symbol.char '-' ∈ c.key := hyphen_mem_keyOf _ _ _

namespace EntryName

theorem compose_eq (key second : Text) (sequence : Nat) :
    compose key second sequence = key ++ (second ++ ([.char '-'] ++ Text.twoDigits sequence)) := by
  simp only [compose, List.append_assoc]
  rfl

/-! ## Taking names apart -/

theorem hyphen_not_mem_twoDigits (n : Nat) : Symbol.char '-' ∉ Text.twoDigits n := by
  intro h
  obtain same | same : Symbol.char '-' = Text.digit (n / 10) ∨ Symbol.char '-' = Text.digit n := by
    simpa [Text.twoDigits] using h
  · have ranks := congrArg Symbol.rank same
    rw [Text.rank_digit] at ranks
    change 45 = _ at ranks
    omega
  · have ranks := congrArg Symbol.rank same
    rw [Text.rank_digit] at ranks
    change 45 = _ at ranks
    omega

/-- Only the sequence number stands behind the last hyphen. -/
theorem splitLast_compose (key second : Text) (sequence : Nat) :
    Text.splitLast (.char '-') (compose key second sequence) =
      some (key ++ second, Text.twoDigits sequence) := by
  have last : compose key second sequence =
      (key ++ second) ++ .char '-' :: Text.twoDigits sequence := by
    rw [compose_eq]
    simp only [List.append_assoc, List.cons_append, List.nil_append]
  rw [last, Text.splitLast_append _ _ _ (hyphen_not_mem_twoDigits sequence)]

theorem parts?_compose (stem : Text) {second : Text} (sequence : Nat)
    (clear : Symbol.char '-' ∉ second) :
    parts? (compose (stem ++ [.char '-']) second sequence) =
      some (stem, second, Text.twoDigits sequence) := by
  have rest : (stem ++ [.char '-']) ++ second = stem ++ .char '-' :: second := by
    simp only [List.append_assoc, List.cons_append, List.nil_append]
  rw [parts?, splitLast_compose]
  simp only [Option.bind_eq_bind, Option.bind_some]
  rw [rest, Text.splitLast_append _ _ _ clear]
  rfl

theorem hyphen_not_mem_stamp {date : Date} {second : Nat} :
    Symbol.char '-' ∉ stamp date second := by
  intro h
  have := (rank_of_mem_stamp h).1
  exact absurd this (by decide)

theorem hyphen_not_mem_stamp? {m : Moment} {second : Text} (h : m.stamp? = some second) :
    Symbol.char '-' ∉ second := by
  obtain ⟨date, moment, -, rfl⟩ := Moment.stamp?_eq_some h
  exact hyphen_not_mem_stamp

theorem key?_compose (c : Change) {second : Text} (sequence : Nat)
    (clear : Symbol.char '-' ∉ second) : key? (compose c.key second sequence) = .ok c.key := by
  rw [key?, Change.key, keyOf_eq_stemOf_append, parts?_compose _ _ clear]
  rfl

/-! ## The order of names -/

theorem compose_before_of_second {second later : Text} (key : Text) (sequence other : Nat)
    (same : second.length = later.length) (h : Text.Before second later) :
    Text.Before (compose key second sequence) (compose key later other) := by
  rw [compose_eq, compose_eq, Text.before_append_left_iff]
  exact h.append same _ _

theorem compose_before_of_sequence (key second : Text) {sequence other : Nat}
    (bound : other < sequenceBound) (h : sequence < other) :
    Text.Before (compose key second sequence) (compose key second other) := by
  rw [compose_eq, compose_eq, Text.before_append_left_iff, Text.before_append_left_iff,
    Text.before_append_left_iff]
  exact @Text.digits_before 2 _ _ h bound

/-! ## Names as names of files -/

theorem startsWith_compose (key second : Text) (sequence : Nat) :
    (compose key second sequence).startsWith key = true := by
  rw [Text.startsWith_iff]
  exact ⟨_, compose_eq key second sequence⟩

end EntryName

/-- No symbol is a slash or a control character with a written form of its own. -/
def Text.Tame (t : Text) : Prop := ∀ x ∈ t, x ≠ .char '/' ∧ Principal.letterOf? x = none

theorem Text.Tame.append {s t : Text} (hs : s.Tame) (ht : t.Tame) : Tame (s ++ t) := by
  intro x h
  obtain inside | inside := List.mem_append.1 h
  · exact hs x inside
  · exact ht x inside

theorem Text.Tame.nul_not_mem {t : Text} (h : t.Tame) : Symbol.char '\x00' ∉ t := by
  intro inside
  cases (h _ inside).2

theorem Text.tame_of_rank {t : Text} (h : ∀ x ∈ t, 48 ≤ x.rank) : t.Tame := by
  intro x inside
  have other (y : Char) (low : y.toNat < 48) : x ≠ .char y := by
    rintro rfl
    have := h _ inside
    change 48 ≤ y.toNat at this
    omega
  refine ⟨other '/' (by decide), ?_⟩
  unfold Principal.letterOf?
  split
  · exact absurd rfl (other '\n' (by decide))
  · exact absurd rfl (other '\t' (by decide))
  · exact absurd rfl (other '\x08' (by decide))
  · exact absurd rfl (other '\x00' (by decide))
  · rfl

theorem Principal.tame_user (p : Principal) : p.user.Tame := by
  intro x h
  obtain ⟨d, inside, rfl⟩ := List.mem_map.1 h
  rw [account_eq_name] at inside
  split
  · exact ⟨by decide, rfl⟩
  · rename_i other
    exact ⟨other, letterOf?_of_mem_name inside⟩

theorem Change.tame_key (c : Change) : c.key.Tame := by
  have hyphen : Text.Tame "-" := by
    unfold Text.Tame
    decide
  have domain (d : Domain) : d.word.Tame := by
    unfold Text.Tame
    cases d
    decide
  have word (k : ChangeClass) : k.word.Tame := by
    unfold Text.Tame
    cases k <;> decide
  exact ((((c.principal.tame_user.append hyphen).append (domain _)).append hyphen).append
    (word _)).append hyphen

namespace EntryName

theorem tame_twoDigits (n : Nat) : (Text.twoDigits n).Tame := by
  apply Text.tame_of_rank
  intro x h
  obtain rfl | rfl : x = Text.digit (n / 10) ∨ x = Text.digit n := by
    simpa [Text.twoDigits] using h
  · rw [Text.rank_digit]
    omega
  · rw [Text.rank_digit]
    omega

theorem tame_compose (c : Change) {m : Moment} {second : Text} (sequence : Nat)
    (moment : m.stamp? = some second) : (compose c.key second sequence).Tame := by
  obtain ⟨date, time, -, rfl⟩ := Moment.stamp?_eq_some moment
  have hyphen : Text.Tame [.char '-'] := by
    unfold Text.Tame
    decide
  have digits : (stamp date time).Tame := Text.tame_of_rank fun x h => (rank_of_mem_stamp h).1
  rw [compose_eq]
  exact c.tame_key.append (digits.append (hyphen.append (tame_twoDigits sequence)))

theorem hyphen_mem_compose (c : Change) (second : Text) (sequence : Nat) :
    Symbol.char '-' ∈ compose c.key second sequence := by
  rw [compose_eq]
  exact List.mem_append_left _ c.hyphen_mem_key

theorem isListed_append {s : Text} (nonempty : s ≠ []) (t : Text) :
    isListed (s ++ t) = isListed s := by
  cases s with
  | nil => exact absurd rfl nonempty
  | cons c rest => simp [isListed, Text.startsWith, Text.ofString, List.isPrefixOf]

theorem isListed_compose (user : Text) (domain : Domain) (changeClass : ChangeClass)
    (second : Text) (sequence : Nat) :
    isListed (compose (keyOf user domain changeClass) second sequence) =
      isListed (keyOf user domain changeClass) := by
  rw [compose_eq]
  exact isListed_append (List.ne_nil_of_mem (hyphen_mem_keyOf _ _ _)) _

theorem isListed_keyOf (user : Text) (domain : Domain) (changeClass : ChangeClass) :
    isListed (keyOf user domain changeClass) = isListed user := by
  cases user with
  | nil =>
    cases domain
    rfl
  | cons c rest =>
    rw [keyOf_eq_stemOf_append, stemOf]
    simp only [List.append_assoc]
    exact isListed_append (List.cons_ne_nil c rest) _

/-! ## Sequence numbers -/

theorem sequenceAfter_compose (key second : Text) {sequence : Nat} (bound : sequence < 100) :
    Queue.sequenceAfter (key ++ second ++ "-") (compose key second sequence) =
      .ok (sequence + 1) := by
  have suffix : (compose key second sequence).drop (key ++ second ++ Text.ofString "-").length =
      Text.twoDigits sequence := List.drop_left
  have starts : (compose key second sequence).startsWith (key ++ second ++ "-") = true := by
    rw [Text.startsWith_iff]
    exact ⟨_, rfl⟩
  rw [Queue.sequenceAfter]
  simp only [suffix, starts, Text.isNumeral_twoDigits, Text.number?_twoDigits bound, and_self,
    if_true]

theorem sequenceAfter_le {stem : Text} {names : List Text} {free : Nat}
    (h : Queue.sequenceAmong stem names = .ok free) {name : Text} (inside : name ∈ names) :
    ∃ next, Queue.sequenceAfter stem name = .ok next ∧ next ≤ free := by
  induction names generalizing free with
  | nil => cases inside
  | cons first rest ih =>
    rw [Queue.sequenceAmong] at h
    cases own : Queue.sequenceAfter stem first with
    | error f =>
      rw [own] at h
      cases h
    | ok next =>
      cases others : Queue.sequenceAmong stem rest with
      | error f =>
        rw [own, others] at h
        cases h
      | ok most =>
        rw [own, others] at h
        obtain rfl : max next most = free := Except.ok.inj h
        obtain rfl | later := List.mem_cons.1 inside
        · exact ⟨next, own, Nat.le_max_left _ _⟩
        · obtain ⟨n, found, below⟩ := ih others later
          exact ⟨n, found, Nat.le_trans below (Nat.le_max_right _ _)⟩

/-- Only digits without a number behind the stem are refused. -/
theorem sequenceAfter_eq_error_iff {stem name : Text} {f : Fault} :
    Queue.sequenceAfter stem name = .error f ↔
      ∃ digits, name = stem ++ digits ∧ digits.Valueless ∧ f = .notANumber digits := by
  rw [Queue.sequenceAfter]
  constructor
  · intro failed
    split at failed
    · rename_i both
      obtain ⟨digits, rfl⟩ := (Text.startsWith_iff name stem).1 both.1
      rw [List.drop_left] at both failed
      split at failed
      · cases failed
      · rename_i none
        cases failed
        exact ⟨digits, rfl, (Text.valueless_iff digits).2 ⟨both.2, none⟩, rfl⟩
    · cases failed
  · rintro ⟨digits, rfl, valueless, rfl⟩
    obtain ⟨numeral, none⟩ := (Text.valueless_iff digits).1 valueless
    have starts : (stem ++ digits).startsWith stem = true := (Text.startsWith_iff _ _).2 ⟨_, rfl⟩
    simp only [List.drop_left, starts, numeral, none, and_self, if_true]

theorem sequenceAmong_cases (stem : Text) (names : List Text) :
    (∃ digits, digits.Valueless ∧ stem ++ digits ∈ names ∧
      Queue.sequenceAmong stem names = .error (.notANumber digits)) ∨
      (∀ digits, digits.Valueless → stem ++ digits ∉ names) ∧
        ∃ free, Queue.sequenceAmong stem names = .ok free := by
  induction names with
  | nil => exact .inr ⟨fun _ _ => List.not_mem_nil, 0, rfl⟩
  | cons name rest ih =>
    rw [Queue.sequenceAmong]
    cases own : Queue.sequenceAfter stem name with
    | error f =>
      obtain ⟨digits, rfl, valueless, rfl⟩ := sequenceAfter_eq_error_iff.1 own
      exact .inl ⟨digits, valueless, List.mem_cons_self, rfl⟩
    | ok next =>
      obtain ⟨digits, valueless, inside, failed⟩ | ⟨clear, free, found⟩ := ih
      · rw [failed]
        exact .inl ⟨digits, valueless, List.mem_cons_of_mem _ inside, rfl⟩
      · rw [found]
        refine .inr ⟨?_, max next free, rfl⟩
        intro digits valueless inside
        obtain rfl | inside := List.mem_cons.1 inside
        · cases own.symm.trans (sequenceAfter_eq_error_iff.2 ⟨digits, rfl, valueless, rfl⟩)
        · exact clear digits valueless inside

end EntryName

end AccountRelay
