import AccountRelay.Text
/-!
# UTF-8

Writing refuses a text with a stray byte. Reading takes one byte at a time and holds what is read of
the current character, so that input can be read piece by piece: a sequence that a piece cuts off is
no fault, because the next one may complete it. The first two bytes of a surrogate are held back as
well, although nothing completes them. Where they are the last bytes of all, what is wrong is still
that the second one does not continue the first.

Two more readers never fail. One keeps every byte of a faulty sequence as a stray byte, and
`toBytes` gives the bytes back. The other puts one replacement character in place of the sequence.
-/

namespace AccountRelay

abbrev Bytes := List UInt8

namespace Text

def encodeChar (c : Char) : Bytes :=
  let n := c.toNat
  if n < 0x80 then [.ofNat n]
  else if n < 0x800 then [.ofNat (0xC0 + n / 64), .ofNat (0x80 + n % 64)]
  else if n < 0x10000 then
    [.ofNat (0xE0 + n / 4096), .ofNat (0x80 + n / 64 % 64), .ofNat (0x80 + n % 64)]
  else
    [.ofNat (0xF0 + n / 262144), .ofNat (0x80 + n / 4096 % 64), .ofNat (0x80 + n / 64 % 64),
      .ofNat (0x80 + n % 64)]

/-- The bytes of a text as the operating system is given them. -/
def toBytes : Text → Bytes
  | [] => []
  | .char c :: rest => encodeChar c ++ toBytes rest
  | .byte low :: rest => .ofNat (128 + low) :: toBytes rest

def encode? : Text → Option Bytes
  | [] => some []
  | .char c :: rest => (encode? rest).map (encodeChar c ++ ·)
  | .byte _ :: _ => none

def byteLength (t : Text) : Nat := t.toBytes.length

inductive DecodeFault where
  | start
  | continuation
  | cutOff
  deriving DecidableEq, Repr

def DecodeFault.message : DecodeFault → String
  | .start => "invalid start byte"
  | .continuation => "invalid continuation byte"
  | .cutOff => "unexpected end of data"

/-- What is still to come of a character: `missing` bytes, of which the next lies between `low` and
`high`; `value` is made of the bits read so far, and `seen` of the bytes, latest first. -/
structure Partial where
  low : Nat
  high : Nat
  missing : Nat
  value : Nat
  seen : Bytes
  deriving Repr

inductive Step where
  | char (c : Char)
  | more (p : Partial)
  | fault (f : DecodeFault)

/-- A byte where a character may start. Overlong forms, surrogates and values above the last code
point are ruled out by the range of the second byte. -/
def begin (b : UInt8) : Step :=
  let n := b.toNat
  if n < 0x80 then .char (Char.ofNat n)
  else if n < 0xC2 then .fault .start
  else if n < 0xE0 then .more ⟨0x80, 0xBF, 1, n - 0xC0, [b]⟩
  else if n < 0xF0 then
    .more ⟨if n = 0xE0 then 0xA0 else 0x80, if n = 0xED then 0x9F else 0xBF, 2, n - 0xE0, [b]⟩
  else if n < 0xF5 then
    .more ⟨if n = 0xF0 then 0x90 else 0x80, if n = 0xF4 then 0x8F else 0xBF, 3, n - 0xF0, [b]⟩
  else .fault .start

def Partial.take (p : Partial) (b : UInt8) : Step :=
  let n := b.toNat
  if p.low ≤ n ∧ n ≤ p.high then
    let value := p.value * 64 + (n - 0x80)
    if p.missing ≤ 1 then .char (Char.ofNat value)
    else .more ⟨0x80, 0xBF, p.missing - 1, value, b :: p.seen⟩
  else .fault .continuation

def stepFrom (p : Option Partial) (b : UInt8) : Step :=
  match p with
  | none => begin b
  | some p => p.take b

def startsSurrogate (p : Option Partial) (b : UInt8) : Bool :=
  p.map Partial.seen = some [0xED] ∧ 0xA0 ≤ b.toNat ∧ b.toNat ≤ 0xBF

/-- The first two bytes of a surrogate. No byte lies in the range of the next one. -/
def surrogate (b : UInt8) : Partial := ⟨1, 0, 1, 0, [b, 0xED]⟩

/-- Reads from inside a character, or from between two of them, up to where the input ends. -/
def decodeFrom : Option Partial → Bytes → Except DecodeFault (Text × Option Partial)
  | p, [] => .ok ([], p)
  | p, b :: rest =>
    match stepFrom p b with
    | .char c => (decodeFrom none rest).map fun (t, q) => (.char c :: t, q)
    | .more q => decodeFrom (some q) rest
    | .fault f =>
      if startsSurrogate p b then decodeFrom (some (surrogate b)) rest else .error f

/-- The flag tells whether something is held back at the end. -/
def decode (bytes : Bytes) : Except DecodeFault (Text × Bool) :=
  (decodeFrom none bytes).map fun (t, held) => (t, held.isSome)

/-- What is wrong if no more input comes. -/
def Partial.atEnd (p : Partial) : DecodeFault := if p.low ≤ p.high then .cutOff else .continuation

/-! ## Reading without failure -/

def stray (b : UInt8) : Symbol := .byte (Fin.ofNat 128 b.toNat)

def Partial.strays (p : Option Partial) : Text :=
  match p with
  | none => []
  | some p => p.seen.reverse.map stray

def ofBytesFrom : Option Partial → Bytes → Text
  | p, [] => Partial.strays p
  | p, b :: rest =>
    match stepFrom p b with
    | .char c => .char c :: ofBytesFrom none rest
    | .more q => ofBytesFrom (some q) rest
    | .fault _ =>
      Partial.strays p ++ match begin b with
        | .char c => .char c :: ofBytesFrom none rest
        | .more q => ofBytesFrom (some q) rest
        | .fault _ => stray b :: ofBytesFrom none rest

def ofBytes (bytes : Bytes) : Text := ofBytesFrom none bytes

def replacement : Symbol := .char (Char.ofNat 0xFFFD)

def lossyFrom : Option Partial → Bytes → Text
  | p, [] => if p.isSome then [replacement] else []
  | p, b :: rest =>
    match stepFrom p b with
    | .char c => .char c :: lossyFrom none rest
    | .more q => lossyFrom (some q) rest
    | .fault _ =>
      (if p.isSome then [replacement] else []) ++ match begin b with
        | .char c => .char c :: lossyFrom none rest
        | .more q => lossyFrom (some q) rest
        | .fault _ => replacement :: lossyFrom none rest

def ofBytesLossy (bytes : Bytes) : Text := lossyFrom none bytes

/-! ## Laws -/

@[simp] theorem toBytes_nil : toBytes [] = [] := rfl

@[simp] theorem encode?_nil : encode? [] = some [] := rfl

theorem toBytes_append (s t : Text) : toBytes (s ++ t) = toBytes s ++ toBytes t := by
  induction s with
  | nil => rfl
  | cons c rest ih => cases c <;> simp [toBytes, ih]

end Text

end AccountRelay
