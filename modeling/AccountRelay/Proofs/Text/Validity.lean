import AccountRelay.Proofs.Text.Utf8
/-!
# Which bytes can be read as UTF-8

Bytes can be read if and only if they are those of characters, one after another, and of what the
reader holds back behind them: a character that is cut off, or the first two bytes of a surrogate. One
step of the reader keeps this: between two bytes of a character the state is known by the bytes that
have been read of it (`Partial.Reached`), and the byte that completes a character gives the one that is
written with these bytes. None of these states is a dead end, so wherever the bytes end, they can still
become a character. Only inside of a surrogate every byte is wrong.
-/

namespace AccountRelay.Text

/-! ## How characters are written -/

theorem encodeChar_eq_utf8EncodeChar (c : Char) : encodeChar c = String.utf8EncodeChar c := by
  have range := toNat_char c
  have code : c.val.toNat = c.toNat := rfl
  unfold encodeChar String.utf8EncodeChar
  rw [code]
  generalize c.toNat = n at range
  simp only [Nat.lt_succ_iff.symm]
  split
  · rfl
  · split
    · have small : n / 64 % 32 = n / 64 := by omega
      rw [small, Nat.add_comm, Nat.add_comm (n % 64)]
    · split
      · have small : n / 4096 % 16 = n / 4096 := by omega
        rw [small, Nat.add_comm, Nat.add_comm (n / 64 % 64), Nat.add_comm (n % 64)]
      · have small : n / 262144 % 8 = n / 262144 := by omega
        rw [small, Nat.add_comm, Nat.add_comm (n / 4096 % 64), Nat.add_comm (n / 64 % 64),
          Nat.add_comm (n % 64)]

theorem toNat_ofNat_char {n : Nat} (h : n < 0xD800 ∨ 0xDFFF < n ∧ n < 0x110000) :
    (Char.ofNat n).toNat = n := by
  have valid : n.isValidChar := h
  rw [Char.ofNat, dif_pos valid]
  rfl

section

variable {a b c d : Nat}

theorem encodeChar_one (ha : a < 0x80) : encodeChar (Char.ofNat a) = [.ofNat a] := by
  simp only [encodeChar, toNat_ofNat_char (show a < 0xD800 ∨ _ by omega), if_pos ha]

theorem encodeChar_two (low : 2 ≤ a) (ha : a < 32) (hb : b < 64) :
    encodeChar (Char.ofNat (a * 64 + b)) = [.ofNat (0xC0 + a), .ofNat (0x80 + b)] := by
  have first : (a * 64 + b) / 64 = a := by omega
  have second : (a * 64 + b) % 64 = b := by omega
  simp only [encodeChar, toNat_ofNat_char (show a * 64 + b < 0xD800 ∨ _ by omega),
    if_neg (show ¬ a * 64 + b < 0x80 by omega), if_pos (show a * 64 + b < 0x800 by omega), first,
    second]

theorem encodeChar_three (ha : a < 16) (hb : b < 64) (hc : c < 64) (low : a = 0 → 32 ≤ b)
    (high : a = 0xD → b < 32) :
    encodeChar (Char.ofNat ((a * 64 + b) * 64 + c)) =
      [.ofNat (0xE0 + a), .ofNat (0x80 + b), .ofNat (0x80 + c)] := by
  have range : (a * 64 + b) * 64 + c < 0xD800 ∨
      0xDFFF < (a * 64 + b) * 64 + c ∧ (a * 64 + b) * 64 + c < 0x110000 := by omega
  have first : ((a * 64 + b) * 64 + c) / 4096 = a := by omega
  have second : ((a * 64 + b) * 64 + c) / 64 % 64 = b := by omega
  have third : ((a * 64 + b) * 64 + c) % 64 = c := by omega
  simp only [encodeChar, toNat_ofNat_char range,
    if_neg (show ¬ (a * 64 + b) * 64 + c < 0x80 by omega),
    if_neg (show ¬ (a * 64 + b) * 64 + c < 0x800 by omega),
    if_pos (show (a * 64 + b) * 64 + c < 0x10000 by omega), first, second, third]

theorem encodeChar_four (ha : a < 5) (hb : b < 64) (hc : c < 64) (hd : d < 64)
    (low : a = 0 → 16 ≤ b) (high : a = 4 → b < 16) :
    encodeChar (Char.ofNat (((a * 64 + b) * 64 + c) * 64 + d)) =
      [.ofNat (0xF0 + a), .ofNat (0x80 + b), .ofNat (0x80 + c), .ofNat (0x80 + d)] := by
  have range : ((a * 64 + b) * 64 + c) * 64 + d < 0xD800 ∨
      0xDFFF < ((a * 64 + b) * 64 + c) * 64 + d ∧
        ((a * 64 + b) * 64 + c) * 64 + d < 0x110000 := by omega
  have first : (((a * 64 + b) * 64 + c) * 64 + d) / 262144 = a := by omega
  have second : (((a * 64 + b) * 64 + c) * 64 + d) / 4096 % 64 = b := by omega
  have third : (((a * 64 + b) * 64 + c) * 64 + d) / 64 % 64 = c := by omega
  have fourth : (((a * 64 + b) * 64 + c) * 64 + d) % 64 = d := by omega
  simp only [encodeChar, toNat_ofNat_char range,
    if_neg (show ¬ ((a * 64 + b) * 64 + c) * 64 + d < 0x80 by omega),
    if_neg (show ¬ ((a * 64 + b) * 64 + c) * 64 + d < 0x800 by omega),
    if_neg (show ¬ ((a * 64 + b) * 64 + c) * 64 + d < 0x10000 by omega), first, second, third,
    fourth]

end

/-! ## Inside a character -/

/-- The states between two bytes of a character, by the bits that have been read of it. -/
inductive Partial.Reached : Partial → Prop where
  | two {a : Nat} (low : 2 ≤ a) (ha : a < 32) : Reached ⟨0x80, 0xBF, 1, a, [.ofNat (0xC0 + a)]⟩
  | three {a : Nat} (ha : a < 16) :
    Reached ⟨if a = 0 then 0xA0 else 0x80, if a = 0xD then 0x9F else 0xBF, 2, a,
      [.ofNat (0xE0 + a)]⟩
  | threeLast {a b : Nat} (ha : a < 16) (hb : b < 64) (low : a = 0 → 32 ≤ b)
    (high : a = 0xD → b < 32) :
    Reached ⟨0x80, 0xBF, 1, a * 64 + b, [.ofNat (0x80 + b), .ofNat (0xE0 + a)]⟩
  | four {a : Nat} (ha : a < 5) :
    Reached ⟨if a = 0 then 0x90 else 0x80, if a = 4 then 0x8F else 0xBF, 3, a, [.ofNat (0xF0 + a)]⟩
  | fourNext {a b : Nat} (ha : a < 5) (hb : b < 64) (low : a = 0 → 16 ≤ b) (high : a = 4 → b < 16) :
    Reached ⟨0x80, 0xBF, 2, a * 64 + b, [.ofNat (0x80 + b), .ofNat (0xF0 + a)]⟩
  | fourLast {a b c : Nat} (ha : a < 5) (hb : b < 64) (hc : c < 64) (low : a = 0 → 16 ≤ b)
    (high : a = 4 → b < 16) :
    Reached ⟨0x80, 0xBF, 1, (a * 64 + b) * 64 + c,
      [.ofNat (0x80 + c), .ofNat (0x80 + b), .ofNat (0xF0 + a)]⟩

/-- The bytes that have been read of a character. -/
def Partial.held : Option Partial → Bytes
  | none => []
  | some p => p.seen.reverse

/-- What one byte can come to: a fault, the last byte of a character, or one that leads on. -/
inductive Reads (before : Bytes) (b : UInt8) : Step → Prop where
  | fault (f : DecodeFault) : Reads before b (.fault f)
  | char {c : Char} (written : encodeChar c = before ++ [b]) : Reads before b (.char c)
  | more {p : Partial} (reached : p.Reached) (seen : p.seen.reverse = before ++ [b]) :
    Reads before b (.more p)

theorem begin_reads (b : UInt8) : Reads [] b (begin b) := by
  have whole : .ofNat b.toNat = b := UInt8.ofNat_toNat
  have byte : b.toNat < 256 := b.toNat_lt
  -- The five classes of first bytes, and those that are none.
  by_cases one : b.toNat < 0x80
  · rw [← whole, begin_one one]
    exact .char (encodeChar_one one)
  by_cases tail : b.toNat < 0xC2
  · have fault : begin b = .fault .start := by
      simp only [begin, if_neg one, if_pos tail]
    rw [fault]
    exact .fault _
  by_cases two : b.toNat < 0xE0
  · obtain ⟨a, bits⟩ : ∃ a, b.toNat = 0xC0 + a := ⟨b.toNat - 0xC0, by omega⟩
    rw [← whole, bits, begin_two (by omega) (by omega)]
    exact .more (.two (by omega) (by omega)) rfl
  by_cases three : b.toNat < 0xF0
  · obtain ⟨a, bits⟩ : ∃ a, b.toNat = 0xE0 + a := ⟨b.toNat - 0xE0, by omega⟩
    rw [← whole, bits, begin_three (by omega)]
    exact .more (.three (by omega)) rfl
  by_cases four : b.toNat < 0xF5
  · obtain ⟨a, bits⟩ : ∃ a, b.toNat = 0xF0 + a := ⟨b.toNat - 0xF0, by omega⟩
    rw [← whole, bits, begin_four (by omega)]
    exact .more (.four (by omega)) rfl
  · have fault : begin b = .fault .start := by
      simp only [begin, if_neg one, if_neg tail, if_neg two, if_neg three, if_neg four]
    rw [fault]
    exact .fault _

theorem take_cases (p : Partial) (low : 0x80 ≤ p.low) (high : p.high ≤ 0xBF) (b : UInt8) :
    p.take b = .fault .continuation ∨
      ∃ bits, bits < 64 ∧ p.low ≤ 0x80 + bits ∧ 0x80 + bits ≤ p.high ∧ b = .ofNat (0x80 + bits) := by
  by_cases range : p.low ≤ b.toNat ∧ b.toNat ≤ p.high
  · have bits : 0x80 + (b.toNat - 0x80) = b.toNat := by omega
    refine Or.inr ⟨b.toNat - 0x80, by omega, by omega, by omega, ?_⟩
    rw [bits]
    exact UInt8.ofNat_toNat.symm
  · left
    simp only [Partial.take, if_neg range]

theorem Partial.Reached.bounds {p : Partial} (reached : p.Reached) : 0x80 ≤ p.low ∧ p.high ≤ 0xBF := by
  cases reached with
  | two low ha => exact ⟨Nat.le_refl _, Nat.le_refl _⟩
  | three ha => constructor <;> dsimp only <;> split <;> decide
  | threeLast ha hb low high => exact ⟨Nat.le_refl _, Nat.le_refl _⟩
  | four ha => constructor <;> dsimp only <;> split <;> decide
  | fourNext ha hb low high => exact ⟨Nat.le_refl _, Nat.le_refl _⟩
  | fourLast ha hb hc low high => exact ⟨Nat.le_refl _, Nat.le_refl _⟩

theorem Partial.Reached.reads {p : Partial} (reached : p.Reached) (b : UInt8) :
    Reads p.seen.reverse b (p.take b) := by
  obtain fault | ⟨bits, small, least, most, rfl⟩ := take_cases p reached.bounds.1 reached.bounds.2 b
  · rw [fault]
    exact .fault _
  cases reached with
  | two low ha =>
    rw [show Partial.take _ _ = _ from take_last small least most]
    exact .char (encodeChar_two low ha small)
  | three ha =>
    rw [show Partial.take _ _ = _ from take_more 0 small least most]
    refine .more (.threeLast ha small ?_ ?_) rfl
    · rintro rfl
      simp only [if_true] at least
      omega
    · rintro rfl
      simp only [if_true] at most
      omega
  | threeLast ha hb low high =>
    rw [show Partial.take _ _ = _ from take_last small least most]
    exact .char (encodeChar_three ha hb small low high)
  | four ha =>
    rw [show Partial.take _ _ = _ from take_more 1 small least most]
    refine .more (.fourNext ha small ?_ ?_) rfl
    · rintro rfl
      simp only [if_true] at least
      omega
    · rintro rfl
      simp only [if_true] at most
      omega
  | fourNext ha hb low high =>
    rw [show Partial.take _ _ = _ from take_more 0 small least most]
    exact .more (.fourLast ha hb small low high) rfl
  | fourLast ha hb hc low high =>
    rw [show Partial.take _ _ = _ from take_last small least most]
    exact .char (encodeChar_four ha hb hc small low high)

/-- Wherever the bytes end, more of them can make up a character. -/
theorem Partial.Reached.extends {p : Partial} (reached : p.Reached) :
    ∃ c more, encodeChar c = p.seen.reverse ++ more ∧ more ≠ [] := by
  cases reached with
  | two low ha =>
    exact ⟨_, [_], encodeChar_two low ha (Nat.zero_lt_succ 63), nofun⟩
  | @three a ha =>
    obtain ⟨b, hb, low, high⟩ : ∃ b, b < 64 ∧ (a = 0 → 32 ≤ b) ∧ (a = 0xD → b < 32) := by
      by_cases zero : a = 0
      · exact ⟨32, by omega⟩
      · exact ⟨0, by omega⟩
    exact ⟨_, [_, _], encodeChar_three ha hb (Nat.zero_lt_succ 63) low high, nofun⟩
  | threeLast ha hb low high =>
    exact ⟨_, [_], encodeChar_three ha hb (Nat.zero_lt_succ 63) low high, nofun⟩
  | @four a ha =>
    obtain ⟨b, hb, low, high⟩ : ∃ b, b < 64 ∧ (a = 0 → 16 ≤ b) ∧ (a = 4 → b < 16) := by
      by_cases zero : a = 0
      · exact ⟨16, by omega⟩
      · exact ⟨0, by omega⟩
    exact ⟨_, [_, _, _],
      encodeChar_four ha hb (Nat.zero_lt_succ 63) (Nat.zero_lt_succ 63) low high, nofun⟩
  | fourNext ha hb low high =>
    exact ⟨_, [_, _],
      encodeChar_four ha hb (Nat.zero_lt_succ 63) (Nat.zero_lt_succ 63) low high, nofun⟩
  | fourLast ha hb hc low high =>
    exact ⟨_, [_], encodeChar_four ha hb hc (Nat.zero_lt_succ 63) low high, nofun⟩

/-! ## Whole inputs -/

/-- The beginning of a character, or nothing at all. -/
def Unfinished (bytes : Bytes) : Prop :=
  ∃ c, bytes <+: String.utf8EncodeChar c ∧ bytes ≠ String.utf8EncodeChar c

/-- What the reader does not decode before it knows more. -/
inductive HeldBack : Bytes → Prop where
  | unfinished {bytes : Bytes} (begun : Unfinished bytes) : HeldBack bytes
  | surrogate {b : UInt8} (low : 0xA0 ≤ b.toNat) (high : b.toNat ≤ 0xBF) : HeldBack [0xED, b]

/-- The bytes are the text in UTF-8, and the tail behind it. -/
def SpelledBy (t : Text) (bytes tail : Bytes) : Prop :=
  ∃ chars : List Char, t = chars.map .char ∧ bytes = chars.flatMap String.utf8EncodeChar ++ tail

theorem unfinished_nil : Unfinished [] :=
  ⟨'a', List.nil_prefix, String.utf8EncodeChar_ne_nil.symm⟩

theorem unfinished_iff {bytes : Bytes} :
    Unfinished bytes ↔ ∃ c more, encodeChar c = bytes ++ more ∧ more ≠ [] := by
  constructor
  · rintro ⟨c, ⟨more, whole⟩, proper⟩
    refine ⟨c, more, (encodeChar_eq_utf8EncodeChar c).trans whole.symm, ?_⟩
    rintro rfl
    exact proper ((List.append_nil _).symm.trans whole)
  · rintro ⟨c, more, whole, rest⟩
    rw [encodeChar_eq_utf8EncodeChar] at whole
    refine ⟨c, ⟨more, whole.symm⟩, ?_⟩
    intro same
    rw [← same] at whole
    exact rest (List.self_eq_append_right.1 whole)

/-- The states that the reader comes to. -/
inductive Partial.Known : Option Partial → Prop where
  | between : Known none
  | inside {p : Partial} (reached : p.Reached) : Known (some p)
  | surrogate {b : UInt8} (low : 0xA0 ≤ b.toNat) (high : b.toNat ≤ 0xBF) : Known (some (surrogate b))

theorem stepFrom_surrogate (first b : UInt8) :
    stepFrom (some (surrogate first)) b = .fault .continuation := by
  have none : ¬ (1 ≤ b.toNat ∧ b.toNat ≤ 0) := by omega
  exact if_neg none

theorem Partial.Known.reads {p : Option Partial} (known : Partial.Known p) (b : UInt8) :
    Reads (Partial.held p) b (stepFrom p b) := by
  cases known with
  | between => exact begin_reads b
  | inside reached => exact reached.reads b
  | surrogate =>
    rw [stepFrom_surrogate]
    exact .fault _

/-- The second byte of a surrogate is where one can stand, behind the first. -/
theorem held_of_startsSurrogate {p : Option Partial} {b : UInt8} (starts : startsSurrogate p b = true) :
    Partial.held p = [0xED] ∧ 0xA0 ≤ b.toNat ∧ b.toNat ≤ 0xBF := by
  obtain ⟨first, low, high⟩ := of_decide_eq_true starts
  obtain ⟨q, rfl, seen⟩ := Option.map_eq_some_iff.1 first
  refine ⟨?_, low, high⟩
  rw [Partial.held, seen]
  rfl

theorem Partial.Known.heldBack {p : Option Partial} (known : Partial.Known p) :
    HeldBack (Partial.held p) := by
  cases known with
  | between => exact .unfinished unfinished_nil
  | inside reached => exact .unfinished (unfinished_iff.2 reached.extends)
  | surrogate low high => exact .surrogate low high

theorem map_eq_ok_iff {α : Type} {read : Except DecodeFault α} {f : α → α} {result : α} :
    read.map f = .ok result ↔ ∃ found, read = .ok found ∧ f found = result := by
  cases read with
  | error e => exact ⟨nofun, nofun⟩
  | ok found => simp [Except.map]

/-- What has been read is what the bytes say, from any state on. -/
theorem spelledBy_of_decodeFrom {p q : Option Partial} {bytes : Bytes} {t : Text}
    (known : Partial.Known p) (read : decodeFrom p bytes = .ok (t, q)) :
    Partial.Known q ∧ t.SpelledBy (Partial.held p ++ bytes) (Partial.held q) := by
  induction bytes generalizing p t with
  | nil =>
    cases read
    exact ⟨known, [], rfl, List.append_nil _⟩
  | cons b bytes ih =>
    have step := known.reads b
    rw [decodeFrom] at read
    generalize stepFrom p b = result at step read
    cases step with
    | fault f =>
      cases starts : startsSurrogate p b with
      | false =>
        rw [starts] at read
        cases read
      | true =>
        rw [starts] at read
        obtain ⟨held, low, high⟩ := held_of_startsSurrogate starts
        rw [held]
        exact ih (.surrogate low high) read
    | @char c written =>
      obtain ⟨⟨t', q'⟩, rest, same⟩ := map_eq_ok_iff.1 read
      cases same
      obtain ⟨known', chars, rfl, spelled⟩ := ih .between rest
      refine ⟨known', c :: chars, rfl, ?_⟩
      rw [encodeChar_eq_utf8EncodeChar] at written
      rw [List.flatMap_cons, written, List.append_assoc, List.append_assoc, ← spelled]
      rfl
    | @more q' reached seen =>
      obtain ⟨known', spelled⟩ := ih (.inside reached) read
      refine ⟨known', ?_⟩
      rwa [Partial.held, seen, List.append_assoc] at spelled

/-- No character is written as the beginning of another one. -/
theorem eq_nil_of_encodeChar_eq {c d : Char} {more : Bytes}
    (same : encodeChar c = encodeChar d ++ more) : more = [] := by
  have read := decodeFrom_encodeChar c []
  rw [List.append_nil, same, decodeFrom_encodeChar] at read
  obtain ⟨⟨t, q⟩, rest, found⟩ := map_eq_ok_iff.1 read
  cases found
  obtain ⟨-, chars, none, spelled⟩ := spelledBy_of_decodeFrom .between rest
  obtain rfl : chars = [] := List.map_eq_nil_iff.1 none.symm
  exact spelled

theorem decodeFrom_of_unfinished {bytes : Bytes} (unfinished : Unfinished bytes) :
    ∃ q, decodeFrom none bytes = .ok ([], q) := by
  obtain ⟨c, more, whole, rest⟩ := unfinished_iff.1 unfinished
  have read := decodeFrom_encodeChar c []
  rw [List.append_nil, whole] at read
  obtain ⟨t, q, -, read, -⟩ := decodeFrom_append_eq_ok_iff.1 read
  obtain ⟨-, chars, rfl, spelled⟩ := spelledBy_of_decodeFrom .between read
  cases chars with
  | nil => exact ⟨q, read⟩
  | cons d chars =>
    -- Then the whole of `d` would be the beginning of `c`.
    obtain rfl : bytes = _ := spelled
    rw [List.flatMap_cons, ← encodeChar_eq_utf8EncodeChar, List.append_assoc, List.append_assoc]
      at whole
    have last := eq_nil_of_encodeChar_eq whole
    exact absurd (List.append_eq_nil_iff.1 (List.append_eq_nil_iff.1 last).2).2 rest

/-- The first two bytes of a surrogate are taken, and no byte after them. -/
theorem decodeFrom_surrogate {b : UInt8} (low : 0xA0 ≤ b.toNat) (high : b.toNat ≤ 0xBF)
    (rest : Bytes) :
    decodeFrom none (0xED :: b :: rest) =
      if rest = [] then .ok ([], some (surrogate b)) else .error .continuation := by
  have first : stepFrom none 0xED = .more ⟨0x80, 0x9F, 2, 0xD, [0xED]⟩ := rfl
  have wrong : stepFrom (some ⟨0x80, 0x9F, 2, 0xD, [0xED]⟩) b = .fault .continuation :=
    if_neg fun range => absurd range.2 (show ¬ b.toNat ≤ 0x9F by omega)
  have starts : startsSurrogate (some ⟨0x80, 0x9F, 2, 0xD, [0xED]⟩) b = true :=
    decide_eq_true ⟨rfl, low, high⟩
  rw [decodeFrom_of_more (b :: rest) first, decodeFrom, wrong]
  simp only [starts, if_true]
  cases rest with
  | nil => rfl
  | cons c rest =>
    have beyond : startsSurrogate (some (surrogate b)) c = false :=
      decide_eq_false fun started => by simp [surrogate] at started
    rw [decodeFrom, stepFrom_surrogate]
    simp only [beyond]
    rfl

theorem not_unfinished_surrogate {b : UInt8} (low : 0xA0 ≤ b.toNat) (high : b.toNat ≤ 0xBF) :
    ¬ Unfinished [0xED, b] := by
  intro unfinished
  obtain ⟨c, more, whole, rest⟩ := unfinished_iff.1 unfinished
  have read := decodeFrom_encodeChar c []
  rw [List.append_nil, whole] at read
  have fault := decodeFrom_surrogate low high more
  rw [if_neg rest] at fault
  cases fault.symm.trans read

theorem decodeFrom_of_heldBack {bytes : Bytes} (held : HeldBack bytes) :
    ∃ q, decodeFrom none bytes = .ok ([], q) := by
  cases held with
  | unfinished begun => exact decodeFrom_of_unfinished begun
  | surrogate low high => exact ⟨_, decodeFrom_surrogate low high []⟩

theorem encode?_map_char (chars : List Char) :
    encode? (chars.map .char) = some (chars.flatMap String.utf8EncodeChar) := by
  induction chars with
  | nil => rfl
  | cons c chars ih =>
    rw [List.map_cons, encode?, ih, encodeChar_eq_utf8EncodeChar]
    rfl

/-- Bytes can be read if and only if they are those of characters and of something that is held back. -/
theorem exists_decodeFrom_iff {bytes : Bytes} {t : Text} :
    (∃ q, decodeFrom none bytes = .ok (t, q)) ↔ ∃ tail, t.SpelledBy bytes tail ∧ HeldBack tail := by
  constructor
  · rintro ⟨q, read⟩
    obtain ⟨known, spelled⟩ := spelledBy_of_decodeFrom .between read
    exact ⟨_, spelled, known.heldBack⟩
  · rintro ⟨tail, ⟨chars, rfl, rfl⟩, held⟩
    obtain ⟨q, last⟩ := decodeFrom_of_heldBack held
    refine ⟨q, decodeFrom_append_eq_ok_iff.2 ⟨_, none, [], decodeFrom_encode (encode?_map_char chars),
      last, (List.append_nil _).symm⟩⟩

/-- There is only one way to read bytes. -/
theorem SpelledBy.unique {t t' : Text} {bytes tail tail' : Bytes} (spelled : t.SpelledBy bytes tail)
    (held : HeldBack tail) (spelled' : t'.SpelledBy bytes tail') (held' : HeldBack tail') :
    t = t' ∧ tail = tail' := by
  obtain ⟨q, read⟩ := exists_decodeFrom_iff.2 ⟨tail, spelled, held⟩
  obtain ⟨q', read'⟩ := exists_decodeFrom_iff.2 ⟨tail', spelled', held'⟩
  cases read.symm.trans read'
  obtain ⟨chars, rfl, same⟩ := spelled
  obtain ⟨chars', again, same'⟩ := spelled'
  obtain rfl : chars = chars' := (List.map_inj_right fun _ _ => Symbol.char.inj).1 again
  exact ⟨rfl, List.append_cancel_left (same.symm.trans same')⟩

/-- The first two bytes of a surrogate are left out like those of a character, and the flag tells so. -/
example : decode [0x61, 0xC3, 0xA9, 0xED, 0xA0] = .ok ("aé", true) := by cbv

end AccountRelay.Text
