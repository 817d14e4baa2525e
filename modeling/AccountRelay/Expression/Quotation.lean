import AccountRelay.Text
/-!
# Quotations

A quotation stands between quotes, single or double ones, or between three of them, and then it may
have several lines. Letters before it say how it is meant: as text, as bytes, raw or with gaps that
are filled in.

A backslash starts an escape. In a text the escapes `x`, `u` and `U` need two, four and eight
hexadecimal digits and `N` the name of a character in braces; in bytes `x` needs two digits. Any name
counts as the name of a character.
-/

namespace AccountRelay.Expression

structure Quotation where
  isBytes : Bool
  isRaw : Bool
  isFilled : Bool
  content : List Char
  deriving DecidableEq, Repr

inductive QuotationFault where
  | strayCharacter
  | mixed
  /-- A reason, and the first and the last position of what it is about. -/
  | textEscape (reason : String) (first last : Nat)
  | bytesEscape (position : Nat)
  deriving DecidableEq, Repr

def QuotationFault.message : QuotationFault → Text
  | strayCharacter => "bytes can only contain ASCII literal characters"
  | mixed => "cannot mix bytes and nonbytes literals"
  | textEscape reason first last =>
    "(unicode error) 'unicodeescape' codec can't decode bytes in position " ++ Text.decimal first ++ "-"
      ++ Text.decimal last ++ ": " ++ reason
  | bytesEscape position => "(value error) invalid \\x escape at position " ++ Text.decimal position

namespace Quotation

def ofLetters? (letters : List Char) : Option Quotation :=
  let meant : List (String × Quotation) :=
    [("", ⟨false, false, false, []⟩), ("u", ⟨false, false, false, []⟩),
      ("b", ⟨true, false, false, []⟩), ("r", ⟨false, true, false, []⟩),
      ("f", ⟨false, false, true, []⟩), ("br", ⟨true, true, false, []⟩),
      ("rb", ⟨true, true, false, []⟩), ("fr", ⟨false, true, true, []⟩),
      ("rf", ⟨false, true, true, []⟩)]
  meant.lookup (String.ofList (letters.map Char.toLower))

def hexValue? (c : Char) : Option Nat :=
  if '0' ≤ c ∧ c ≤ '9' then some (c.toNat - 48)
  else if 'a' ≤ c ∧ c ≤ 'f' then some (c.toNat - 87)
  else if 'A' ≤ c ∧ c ≤ 'F' then some (c.toNat - 55)
  else none

def hexNumber (digits : List Char) : Nat :=
  digits.foldl (fun n c => n * 16 + (hexValue? c).getD 0) 0

def hexRun (width : Nat) (t : List Char) : List Char :=
  (t.take width).takeWhile fun c => (hexValue? c).isSome

/-- How many digits an escape needs, and what is wrong when it has fewer. -/
def hexEscape? (c : Char) : Option (Nat × String) :=
  if c = 'x' then some (2, "truncated \\xXX escape")
  else if c = 'u' then some (4, "truncated \\uXXXX escape")
  else if c = 'U' then some (8, "truncated \\UXXXXXXXX escape")
  else none

/-- What is wrong with an escape, and how many characters of it have been read. -/
def escapeFault? (c : Char) (rest : List Char) : Option (String × Nat) :=
  match hexEscape? c with
  | some (width, reason) =>
    let digits := hexRun width rest
    if digits.length < width then some (reason, 2 + digits.length)
    else if 0x10FFFF < hexNumber digits then some ("illegal Unicode character", 2 + width)
    else none
  | none =>
    if c ≠ 'N' then none
    else match rest with
      | '\x7b' :: rest =>
        let name := rest.takeWhile (· ≠ '\x7d')
        if name.length < rest.length && !name.isEmpty then none
        else some ("malformed \\N character escape", 3 + name.length)
      | _ => some ("malformed \\N character escape", 2)

/-- A character that is not ASCII counts as ten. -/
def width (c : Char) : Nat := if c.toNat < 128 then 1 else 10

def textFault? (position : Nat) : List Char → Option QuotationFault
  | [] => none
  | '\\' :: c :: rest =>
    if c.toNat < 128 then
      match escapeFault? c rest with
      | some (reason, read) => some (.textEscape reason position (position + read - 1))
      | none => textFault? (position + 2) rest
    else textFault? (position + 6 + width c) rest
  | c :: rest => textFault? (position + width c) rest

def bytesFault? (position : Nat) : List Char → Option QuotationFault
  | [] => none
  | '\\' :: c :: rest =>
    if c = 'x' ∧ (hexRun 2 rest).length < 2 then some (.bytesEscape position)
    else bytesFault? (position + 2) rest
  | _ :: rest => bytesFault? (position + 1) rest

def fault? (q : Quotation) : Option QuotationFault :=
  if q.isBytes && q.content.any (fun c => 128 ≤ c.toNat) then some .strayCharacter
  else if q.isRaw || q.isFilled then none
  else if q.isBytes then bytesFault? 0 q.content
  else textFault? 0 q.content

/-- What is wrong with quotations in a row, which are joined, after one of which it is known whether
it is bytes. -/
def rowFault? (isBytes : Option Bool) : List Quotation → Option QuotationFault
  | [] => none
  | q :: rest =>
    q.fault? <|> (if isBytes.any (· ≠ q.isBytes) then some .mixed else rowFault? (some q.isBytes) rest)

end Quotation

end AccountRelay.Expression
