import AccountRelay.Proofs.Entry
import AccountRelay.Proofs.Lock
import AccountRelay.Proofs.Moment
import AccountRelay.Proofs.Text.Validity
/-!
# The grammar of entry files

A file of one chunk is read as an entry if and only if its bytes are UTF-8 up to what the reader holds
back at their end, and the text begins with the lines of the entry. There are four kinds of such
beginnings: those of the two status changes, and that of a password change with a password or without
one. No line of them is cut off, so their bytes are the first ones of the file.

What is held back may be a character that is cut off, but also the first half of a surrogate, although
no character begins with it.
-/

namespace AccountRelay

namespace Entry

/-- The lines that a file begins with, by what it says. -/
inductive Begins (account : Text) : Operation → Option Text → List Text → Prop where
  | enable : Begins account .enable none [account, "ad", "enable"]
  | disable : Begins account .disable none [account, "ad", "disable"]
  | password {t : Text} (given : t ≠ []) :
    Begins account .password (some t) [account, "ad", "password", t]
  | blank : Begins account .password none [account, "ad", "password", []]

/-- The bytes are those of a file with the account, the operation and the password, and may have a
tail of the given kind. What stands behind the lines is free, as long as it can be decoded. -/
def Grammatical (tailed : Bytes → Prop) (bytes : Bytes) (account : Text) (operation : Operation)
    (password : Option Text) : Prop :=
  account ≠ [] ∧ ∃ text tail lines, Text.SpelledBy text bytes tail ∧ tailed tail ∧
    text.BeginsWith lines ∧ Begins account operation password lines

variable {file : Path} {account : Text} {operation : Operation} {password : Option Text}
  {bytes : Bytes} {lines : List Text}

theorem begins_iff :
    Begins account operation password lines ↔
      lines = Entry.lines ⟨file, account, .ad, operation, password⟩ ∧
        ∀ t, password = some t → operation = .password ∧ t ≠ [] := by
  constructor
  · intro begins
    cases begins with
    | enable => exact ⟨rfl, nofun⟩
    | disable => exact ⟨rfl, nofun⟩
    | password given =>
      refine ⟨rfl, ?_⟩
      rintro _ ⟨⟩
      exact ⟨rfl, given⟩
    | blank => exact ⟨rfl, nofun⟩
  · rintro ⟨rfl, belongs⟩
    cases password with
    | none =>
      cases operation with
      | password => exact .blank
      | enable => exact .enable
      | disable => exact .disable
    | some t =>
      obtain ⟨rfl, given⟩ := belongs t rfl
      exact .password given

theorem heldBy_iff_grammatical (short : bytes.length ≤ chunkSize) :
    HeldBy ⟨file, account, .ad, operation, password⟩ bytes ↔
      Grammatical Text.HeldBack bytes account operation password := by
  constructor
  · rintro ⟨nonempty, belongs, text, front, begins⟩
    obtain rfl | ⟨tail, spelled, held⟩ := (front_iff_of_length_le short).1 front
    · -- No line is found in an empty text.
      obtain ⟨rest, empty, -⟩ := Text.beginsWith_cons_iff.1 begins
      exact absurd (List.append_eq_nil_iff.1 empty.symm).2 (List.cons_ne_nil _ _)
    · exact ⟨nonempty, text, tail, _, spelled, held, begins, begins_iff.2 ⟨rfl, belongs⟩⟩
  · rintro ⟨nonempty, text, tail, lines, spelled, held, begins, layout⟩
    obtain ⟨rfl, belongs⟩ := (@begins_iff file _ _ _ _).1 layout
    exact ⟨nonempty, belongs, text, (front_iff_of_length_le short).2 (.inr ⟨tail, spelled, held⟩),
      begins⟩

theorem HeldBy.encoded_lines {e : Entry} (held : e.HeldBy bytes) :
    ∃ head, Text.encode? (e.lines.flatMap fun line => line ++ [.char '\n']) = some head ∧
      head <+: bytes := by
  obtain ⟨text, ⟨n, tail, ⟨chars, spelled, front⟩, -⟩, -, rest, begins⟩ := held.begins
  rw [begins] at spelled
  obtain ⟨first, later, rfl, written, -⟩ := List.append_eq_map_iff.1 spelled
  rw [← written, Text.encode?_map_char]
  refine ⟨_, rfl, List.IsPrefix.trans ⟨later.flatMap String.utf8EncodeChar ++ tail, ?_⟩
    (List.take_prefix (n * chunkSize) bytes)⟩
  rw [front, List.flatMap_append, List.append_assoc]

theorem read_of_content {h : Host} (named : file.hasNul = false)
    (held : h.files.read file = .ok bytes) : (Entry.read file).on h = (ofBytes file bytes, h) := by
  rw [read_on, named, held]
  rfl

/-- Reading a file of one chunk gives what its grammar says, and nothing if it is not of the
grammar. -/
theorem read_eq_ok_iff_grammatical {h : Host} (named : file.hasNul = false)
    (held : h.files.read file = .ok bytes) (short : bytes.length ≤ chunkSize) :
    (∀ account operation password,
      (Entry.read file).on h = (.ok ⟨file, account, .ad, operation, password⟩, h) ↔
        Grammatical Text.HeldBack bytes account operation password) ∧
      ∀ e, (Entry.read file).on h = (.ok e, h) →
        ∃ head, Text.encode? (e.lines.flatMap fun line => line ++ [.char '\n']) = some head ∧
          head <+: bytes := by
  rw [read_of_content named held]
  constructor
  · intro account operation password
    rw [Prod.mk.injEq, ofBytes_eq_ok_iff_heldBy, heldBy_iff_grammatical short]
    simp
  · intro e read
    have held := (ofBytes_eq_ok_iff_heldBy.1 (congrArg Prod.fst read)).2
    exact held.encoded_lines

/-- The account and the password end in carriage returns, and the file ends inside a character. -/
theorem read_of_cut_off :
    let file : Path := ⟨[], ["queue", "entry"]⟩
    let first : Bytes := "te\\@st\r\nad\npassword\n\r\n".toUTF8.toList
    let bytes : Bytes := first ++ "left\rover".toUTF8.toList ++ [0xF0, 0x9F, 0x98]
    let files := (Host.withDirectory "queue" .newYear).files.set file.parts (.file 0o600 bytes)
    let h := { Host.withDirectory "queue" .newYear with files := files }
    let e : Entry := ⟨file, "te\\@st\r", .ad, .password, some "\r"⟩
    file.hasNul = false ∧ h.files.read file = .ok bytes ∧ bytes.length ≤ chunkSize ∧
      (Entry.read file).on h = (.ok e, h) ∧
      Grammatical Text.HeldBack bytes e.account e.operation e.password ∧
      Text.encode? (e.lines.flatMap fun line => line ++ [.char '\n']) = some first ∧
      first <+: bytes := by
  intro file first bytes files h e
  have named : file.hasNul = false := by decide
  have held : h.files.read file = .ok bytes := by decide +kernel
  have short : bytes.length ≤ chunkSize := by decide +kernel
  have read : (Entry.read file).on h = (.ok e, h) := by
    rw [read_of_content named held]
    exact congrArg (·, h) (by decide +kernel)
  have encoded : Text.encode? (e.lines.flatMap fun line => line ++ [.char '\n']) = some first := by
    decide +kernel
  obtain ⟨reads, heads⟩ := read_eq_ok_iff_grammatical named held short
  obtain ⟨head, encoded', before⟩ := heads e read
  cases encoded.symm.trans encoded'
  exact ⟨named, held, short, read, (reads _ _ _).1 read, encoded, before⟩

/-- This file is read, although it ends in half a surrogate, with which no character begins. -/
theorem read_of_half_surrogate :
    let file : Path := ⟨[], ["queue", "entry"]⟩
    let bytes : Bytes := "test\nad\nenable\n".toUTF8.toList ++ [0xED, 0xA0]
    let files := (Host.withDirectory "queue" .newYear).files.set file.parts (.file 0o600 bytes)
    let h := { Host.withDirectory "queue" .newYear with files := files }
    file.hasNul = false ∧ h.files.read file = .ok bytes ∧ bytes.length ≤ chunkSize ∧
      (Entry.read file).on h = (.ok ⟨file, "test", .ad, .enable, none⟩, h) ∧
      ¬ Grammatical Text.Unfinished bytes "test" .enable none := by
  intro file bytes files h
  have named : file.hasNul = false := by decide
  have held : h.files.read file = .ok bytes := by decide +kernel
  refine ⟨named, held, by decide +kernel, ?_, ?_⟩
  · rw [read_of_content named held]
    exact congrArg (·, h) (by decide +kernel)
  · rintro ⟨-, text, tail, lines, spelled, unfinished, -, -⟩
    have chars : Text.SpelledBy "test\nad\nenable\n" bytes [0xED, 0xA0] :=
      ⟨"test\nad\nenable\n".toList, by decide, by decide +kernel⟩
    have half : Text.HeldBack [0xED, 0xA0] := .surrogate (by decide) (by decide)
    obtain ⟨-, rfl⟩ := spelled.unique (.unfinished unfinished) chars half
    exact Text.not_unfinished_surrogate (by decide) (by decide) unfinished

end Entry

end AccountRelay
