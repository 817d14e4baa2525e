import AccountRelay.Text.Utf8
/-!
# Reading what was written as UTF-8

A text without stray bytes is read back from its bytes, whatever follows them. A character takes one
to four bytes by the size of its code point; the first byte names the class, and the bits of all of
them make up the code point again.
-/

namespace AccountRelay.Text

theorem decodeFrom_of_char {p : Option Partial} {b : UInt8} {c : Char} (rest : Bytes)
    (h : stepFrom p b = .char c) :
    decodeFrom p (b :: rest) = (decodeFrom none rest).map fun (t, held) => (.char c :: t, held) := by
  rw [decodeFrom, h]

theorem decodeFrom_of_more {p : Option Partial} {b : UInt8} {q : Partial} (rest : Bytes)
    (h : stepFrom p b = .more q) : decodeFrom p (b :: rest) = decodeFrom (some q) rest := by
  rw [decodeFrom, h]

theorem decodeFrom_append (p : Option Partial) (first second : Bytes) :
    decodeFrom p (first ++ second) = match decodeFrom p first with
      | .error f => .error f
      | .ok (t, q) => (decodeFrom q second).map fun (more, r) => (t ++ more, r) := by
  induction first generalizing p with
  | nil =>
    change decodeFrom p second = (decodeFrom p second).map fun (more, r) => (more, r)
    cases decodeFrom p second <;> rfl
  | cons b first ih =>
    rw [List.cons_append, decodeFrom, decodeFrom]
    cases stepFrom p b with
    | char c =>
      simp only [ih]
      cases decodeFrom none first with
      | error f => rfl
      | ok read =>
        change Except.map _ (Except.map _ (decodeFrom read.2 second)) = Except.map _ _
        cases decodeFrom read.2 second <;> rfl
    | more q => exact ih (some q)
    | fault f =>
      cases startsSurrogate p b with
      | true => exact ih (some (surrogate b))
      | false => rfl

theorem decodeFrom_append_eq_ok_iff {p r : Option Partial} {first second : Bytes} {t : Text} :
    decodeFrom p (first ++ second) = .ok (t, r) ↔
      ∃ t₁ q t₂, decodeFrom p first = .ok (t₁, q) ∧ decodeFrom q second = .ok (t₂, r) ∧
        t = t₁ ++ t₂ := by
  constructor
  · intro read
    rw [decodeFrom_append] at read
    cases one : decodeFrom p first with
    | error f =>
      rw [one] at read
      cases read
    | ok found =>
      simp only [one] at read
      cases two : decodeFrom found.2 second with
      | error f =>
        rw [two] at read
        cases read
      | ok more =>
        rw [two] at read
        cases read
        exact ⟨found.1, found.2, more.1, rfl, two, rfl⟩
  · rintro ⟨t₁, q, t₂, one, two, rfl⟩
    rw [decodeFrom_append, one]
    simp only [two]
    rfl

theorem toNat_ofNat_of_lt {n : Nat} (h : n < 256) : (UInt8.ofNat n).toNat = n := by
  rw [UInt8.toNat_ofNat']
  exact Nat.mod_eq_of_lt h

/-! ## One byte -/

/-- A byte inside a character adds six bits to what has been read of it. -/
theorem take_tail (p : Partial) {bits : Nat} (small : bits < 64) (low : p.low ≤ 0x80 + bits)
    (high : 0x80 + bits ≤ p.high) :
    p.take (.ofNat (0x80 + bits)) =
      if p.missing ≤ 1 then .char (Char.ofNat (p.value * 64 + bits))
      else .more ⟨0x80, 0xBF, p.missing - 1, p.value * 64 + bits, .ofNat (0x80 + bits) :: p.seen⟩ := by
  have back : 0x80 + bits - 0x80 = bits := by omega
  simp only [Partial.take, toNat_ofNat_of_lt (show 0x80 + bits < 256 by omega), low, high, and_self,
    if_true, back]

section

variable {lowest highest value bits : Nat} {seen : Bytes}

theorem take_more (missing : Nat) (small : bits < 64) (low : lowest ≤ 0x80 + bits)
    (high : 0x80 + bits ≤ highest) :
    stepFrom (some ⟨lowest, highest, missing + 2, value, seen⟩) (.ofNat (0x80 + bits)) =
      .more ⟨0x80, 0xBF, missing + 1, value * 64 + bits, .ofNat (0x80 + bits) :: seen⟩ := by
  rw [stepFrom, take_tail _ small low high, if_neg (by simp)]
  rfl

theorem take_last (small : bits < 64) (low : lowest ≤ 0x80 + bits) (high : 0x80 + bits ≤ highest) :
    stepFrom (some ⟨lowest, highest, 1, value, seen⟩) (.ofNat (0x80 + bits)) =
      .char (Char.ofNat (value * 64 + bits)) := by
  rw [stepFrom, take_tail _ small low high, if_pos (by simp)]

end

theorem begin_one {n : Nat} (h : n < 0x80) : begin (.ofNat n) = .char (Char.ofNat n) := by
  simp only [begin, toNat_ofNat_of_lt (show n < 256 by omega), if_pos h]

theorem begin_two {bits : Nat} (low : 2 ≤ bits) (high : bits < 32) :
    begin (.ofNat (0xC0 + bits)) = .more ⟨0x80, 0xBF, 1, bits, [.ofNat (0xC0 + bits)]⟩ := by
  have back : 0xC0 + bits - 0xC0 = bits := by omega
  simp only [begin, toNat_ofNat_of_lt (show 0xC0 + bits < 256 by omega),
    if_neg (show ¬ 0xC0 + bits < 0x80 by omega), if_neg (show ¬ 0xC0 + bits < 0xC2 by omega),
    if_pos (show 0xC0 + bits < 0xE0 by omega), back]

theorem begin_three {bits : Nat} (high : bits < 16) :
    begin (.ofNat (0xE0 + bits)) =
      .more ⟨if bits = 0 then 0xA0 else 0x80, if bits = 0xD then 0x9F else 0xBF, 2, bits,
        [.ofNat (0xE0 + bits)]⟩ := by
  have back : 0xE0 + bits - 0xE0 = bits := by omega
  have first : (0xE0 + bits = 0xE0) = (bits = 0) := propext (by omega)
  have surrogate : (0xE0 + bits = 0xED) = (bits = 0xD) := propext (by omega)
  simp only [begin, toNat_ofNat_of_lt (show 0xE0 + bits < 256 by omega),
    if_neg (show ¬ 0xE0 + bits < 0x80 by omega), if_neg (show ¬ 0xE0 + bits < 0xC2 by omega),
    if_neg (show ¬ 0xE0 + bits < 0xE0 by omega), if_pos (show 0xE0 + bits < 0xF0 by omega), back,
    first, surrogate]

theorem begin_four {bits : Nat} (high : bits < 5) :
    begin (.ofNat (0xF0 + bits)) =
      .more ⟨if bits = 0 then 0x90 else 0x80, if bits = 4 then 0x8F else 0xBF, 3, bits,
        [.ofNat (0xF0 + bits)]⟩ := by
  have back : 0xF0 + bits - 0xF0 = bits := by omega
  have first : (0xF0 + bits = 0xF0) = (bits = 0) := propext (by omega)
  have last : (0xF0 + bits = 0xF4) = (bits = 4) := propext (by omega)
  simp only [begin, toNat_ofNat_of_lt (show 0xF0 + bits < 256 by omega),
    if_neg (show ¬ 0xF0 + bits < 0x80 by omega), if_neg (show ¬ 0xF0 + bits < 0xC2 by omega),
    if_neg (show ¬ 0xF0 + bits < 0xE0 by omega), if_neg (show ¬ 0xF0 + bits < 0xF0 by omega),
    if_pos (show 0xF0 + bits < 0xF5 by omega), back, first, last]

/-! ## One character -/

section

variable (rest : Bytes) {a b c d : Nat}

theorem decodeFrom_one (ha : a < 0x80) :
    decodeFrom none (.ofNat a :: rest) =
      (decodeFrom none rest).map fun (t, held) => (.char (Char.ofNat a) :: t, held) :=
  decodeFrom_of_char rest (begin_one ha)

theorem decodeFrom_two (low : 2 ≤ a) (ha : a < 32) (hb : b < 64) :
    decodeFrom none (.ofNat (0xC0 + a) :: .ofNat (0x80 + b) :: rest) =
      (decodeFrom none rest).map fun (t, held) => (.char (Char.ofNat (a * 64 + b)) :: t, held) := by
  rw [decodeFrom_of_more _ (show stepFrom none _ = _ from begin_two low ha)]
  exact decodeFrom_of_char rest (take_last hb (by omega) (by omega))

/-- Overlong forms and surrogates are ruled out by `low` and `high`. -/
theorem decodeFrom_three (ha : a < 16) (hb : b < 64) (hc : c < 64) (low : a = 0 → 32 ≤ b)
    (high : a = 0xD → b < 32) :
    decodeFrom none (.ofNat (0xE0 + a) :: .ofNat (0x80 + b) :: .ofNat (0x80 + c) :: rest) =
      (decodeFrom none rest).map fun (t, held) =>
        (.char (Char.ofNat ((a * 64 + b) * 64 + c)) :: t, held) := by
  rw [decodeFrom_of_more _ (show stepFrom none _ = _ from begin_three ha),
    decodeFrom_of_more _ (take_more 0 hb (by split <;> omega) (by split <;> omega))]
  exact decodeFrom_of_char rest (take_last hc (by omega) (by omega))

theorem decodeFrom_four (ha : a < 5) (hb : b < 64) (hc : c < 64) (hd : d < 64)
    (low : a = 0 → 16 ≤ b) (high : a = 4 → b < 16) :
    decodeFrom none (.ofNat (0xF0 + a) :: .ofNat (0x80 + b) :: .ofNat (0x80 + c) ::
        .ofNat (0x80 + d) :: rest) =
      (decodeFrom none rest).map fun (t, held) =>
        (.char (Char.ofNat (((a * 64 + b) * 64 + c) * 64 + d)) :: t, held) := by
  rw [decodeFrom_of_more _ (show stepFrom none _ = _ from begin_four ha),
    decodeFrom_of_more _ (take_more 1 hb (by split <;> omega) (by split <;> omega)),
    decodeFrom_of_more _ (take_more 0 hc (by omega) (by omega))]
  exact decodeFrom_of_char rest (take_last hd (by omega) (by omega))

end

theorem toNat_char (c : Char) : c.toNat < 0xD800 ∨ 0xDFFF < c.toNat ∧ c.toNat < 0x110000 := by
  have valid := c.valid
  simp only [UInt32.isValidChar, Nat.isValidChar] at valid
  change c.val.toNat < _ ∨ _ < c.val.toNat ∧ c.val.toNat < _
  omega

theorem decodeFrom_encodeChar (c : Char) (rest : Bytes) :
    decodeFrom none (encodeChar c ++ rest) =
      (decodeFrom none rest).map fun (t, held) => (.char c :: t, held) := by
  have whole : Char.ofNat c.toNat = c := Char.ofNat_toNat c
  have range := toNat_char c
  unfold encodeChar
  generalize c.toNat = n at whole range ⊢
  simp only []
  split
  · rename_i one
    rw [List.singleton_append, decodeFrom_one rest one, whole]
  · split
    · have bits : n / 64 * 64 + n % 64 = n := by omega
      simp only [List.cons_append, List.nil_append]
      rw [decodeFrom_two rest (by omega) (by omega) (by omega), bits, whole]
    · split
      · have bits : (n / 4096 * 64 + n / 64 % 64) * 64 + n % 64 = n := by omega
        simp only [List.cons_append, List.nil_append]
        rw [decodeFrom_three rest (by omega) (by omega) (by omega) (by omega) (by omega), bits,
          whole]
      · have bits : ((n / 262144 * 64 + n / 4096 % 64) * 64 + n / 64 % 64) * 64 + n % 64 = n := by
          omega
        simp only [List.cons_append, List.nil_append]
        rw [decodeFrom_four rest (by omega) (by omega) (by omega) (by omega) (by omega) (by omega),
          bits, whole]

/-! ## A text -/

theorem decodeFrom_encode {t : Text} {bytes : Bytes} (h : t.encode? = some bytes) :
    decodeFrom none bytes = .ok (t, none) := by
  induction t generalizing bytes with
  | nil =>
    obtain rfl : [] = bytes := Option.some.inj h
    rfl
  | cons symbol rest ih =>
    cases symbol with
    | char c =>
      obtain ⟨tail, written, rfl⟩ := Option.map_eq_some_iff.1 h
      rw [decodeFrom_encodeChar, ih written]
      rfl
    | byte low => cases h

theorem decode_encode {t : Text} {bytes : Bytes} (h : t.encode? = some bytes) :
    decode bytes = .ok (t, false) := by
  rw [decode, decodeFrom_encode h]
  rfl

theorem encode?_append (s t : Text) :
    (s ++ t).encode? = s.encode?.bind fun a => t.encode?.map (a ++ ·) := by
  induction s with
  | nil => simp
  | cons symbol rest ih =>
    cases symbol with
    | char c =>
      simp only [List.cons_append, encode?, ih]
      cases encode? rest <;> cases encode? t <;> simp
    | byte low => rfl

/-! ## What can be written -/

theorem isSome_encode?_append (s t : Text) :
    (s ++ t).encode?.isSome = (s.encode?.isSome && t.encode?.isSome) := by
  rw [encode?_append]
  cases s.encode? with
  | none => rfl
  | some bytes => simp

theorem isSome_encode?_lines (lines : List Text) :
    (encode? (lines.flatMap fun line => line ++ [.char '\n'])).isSome =
      lines.all fun line => line.encode?.isSome := by
  have newline : (encode? [.char '\n']).isSome = true := rfl
  induction lines with
  | nil => rfl
  | cons line rest ih =>
    rw [List.flatMap_cons, isSome_encode?_append, isSome_encode?_append, newline, Bool.and_true, ih,
      List.all_cons]

theorem isSome_encode?_replace (old new : Char) (t : Text) :
    (t.replace (.char old) (.char new)).encode?.isSome = t.encode?.isSome := by
  induction t with
  | nil => rfl
  | cons x rest ih =>
    cases x with
    | byte low => rfl
    | char c =>
      rw [replace] at ih ⊢
      rw [List.map_cons]
      split
      · simpa [encode?] using ih
      · simpa [encode?] using ih

end AccountRelay.Text
