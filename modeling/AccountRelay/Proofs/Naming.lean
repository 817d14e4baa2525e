import AccountRelay.Proofs.Conflict
/-!
# Names are told apart

What users are called decides nothing about where a name is taken apart, so two names are the same
only if all their parts are: the user, the class, the second and the sequence number. Hyphens, domain
words, classes and stamps inside the user make no difference.
-/

namespace AccountRelay.EntryName

theorem twoDigits_injective {n n' : Nat} (bound : n < sequenceBound) (bound' : n' < sequenceBound)
    (h : Text.twoDigits n = Text.twoDigits n') : n = n' := by
  have numbers := congrArg Text.number? h
  rw [Text.number?_twoDigits bound, Text.number?_twoDigits bound'] at numbers
  exact Option.some.inj numbers

section Parts

variable {c c' : Change} {m m' : Moment} {second second' : Text}

theorem key_eq_iff : c.key = c'.key ↔
    c.principal.user = c'.principal.user ∧ c.changeClass = c'.changeClass := by
  rw [Change.key, Change.key]
  cases c.domain
  cases c'.domain
  exact keyOf_eq_iff

theorem compose_eq_iff (stamped : m.stamp? = some second) (stamped' : m'.stamp? = some second')
    {n n' : Nat} (bound : n < sequenceBound) (bound' : n' < sequenceBound) :
    compose c.key second n = compose c'.key second' n' ↔
      c.key = c'.key ∧ second = second' ∧ n = n' := by
  constructor
  · intro same
    -- The keys end at hyphens, and behind them each name has one more hyphen.
    have parts := congrArg parts? same
    rw [Change.key, Change.key, keyOf_eq_stemOf_append, keyOf_eq_stemOf_append,
      parts?_compose _ _ (hyphen_not_mem_stamp? stamped),
      parts?_compose _ _ (hyphen_not_mem_stamp? stamped')] at parts
    obtain ⟨stems, rest⟩ := Prod.mk.inj (Option.some.inj parts)
    obtain ⟨seconds, digits⟩ := Prod.mk.inj rest
    refine ⟨?_, seconds, twoDigits_injective bound bound' digits⟩
    rw [Change.key, Change.key, keyOf_eq_stemOf_append, keyOf_eq_stemOf_append, stems]
  · rintro ⟨keys, rfl, rfl⟩
    rw [keys]

/-- A name gives its key back, and two names are the same exactly if their users, classes, seconds
and sequence numbers are. Their seconds are the same exactly if they are one second in UTC. -/
theorem compose?_determines_parts (stamped : m.stamp? = some second)
    (stamped' : m'.stamp? = some second') {sequence sequence' : Int}
    (bound : 0 ≤ sequence ∧ sequence < sequenceBound)
    (bound' : 0 ≤ sequence' ∧ sequence' < sequenceBound) :
    ∃ name name', compose? c.key second sequence = .ok name ∧
      compose? c'.key second' sequence' = .ok name' ∧ key? name = .ok c.key ∧
      (name = name' ↔ c.principal.user = c'.principal.user ∧ c.changeClass = c'.changeClass ∧
        second = second' ∧ sequence = sequence') ∧
      (second = second' ↔ m.instant = m'.instant) := by
  refine ⟨_, _, if_pos bound, if_pos bound', key?_compose c _ (hyphen_not_mem_stamp? stamped), ?_,
    Moment.stamp?_eq_iff stamped stamped'⟩
  have numbers : sequence.toNat = sequence'.toNat ↔ sequence = sequence' := by omega
  rw [compose_eq_iff stamped stamped' (by omega) (by omega), key_eq_iff, and_assoc, numbers]

/-- The user of the first is itself a name with the key of the second. -/
theorem compose?_determines_parts_nested :
    let c : Change := ⟨⟨["a-ad-password-20240101T000000Z-00"], []⟩, .ad, .enable⟩
    let c' : Change := ⟨⟨["a"], []⟩, .ad,
      .setPassword ⟨"secret", by decide, by decide, by decide⟩⟩
    let second : Text := "20240101T000000Z"
    Moment.newYear.stamp? = some second ∧ ((0 : Int) ≤ 0 ∧ (0 : Int) < sequenceBound) ∧
      ((0 : Int) ≤ 99 ∧ (99 : Int) < sequenceBound) ∧
      ∃ name name', compose? c.key second 0 = .ok name ∧ compose? c'.key second 99 = .ok name' ∧
        key? name = .ok c.key ∧
        (name = name' ↔ c.principal.user = c'.principal.user ∧ c.changeClass = c'.changeClass ∧
          second = second ∧ (0 : Int) = 99) ∧
        (second = second ↔ Moment.newYear.instant = Moment.newYear.instant) := by
  intro c c' second
  have stamped : Moment.newYear.stamp? = some second := by decide +kernel
  have first : (0 : Int) ≤ 0 ∧ (0 : Int) < sequenceBound := by decide
  have last : (0 : Int) ≤ 99 ∧ (99 : Int) < sequenceBound := by decide
  exact ⟨stamped, first, last, compose?_determines_parts stamped stamped first last⟩

end Parts

end AccountRelay.EntryName
