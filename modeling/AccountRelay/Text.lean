/-!
# Text

Names, passwords and messages are texts: sequences of symbols. A symbol is a Unicode character, or a
byte that belongs to no character. Bytes of the second kind reach the program in command line
arguments that are not valid UTF-8, and they are carried along unchanged, so that a message can
repeat them and a queue file can refuse them.

In a string of code points a stray byte is one of the surrogates U+DC80 to U+DCFF. Other unpaired
surrogates have no symbol. They never come from bytes, and texts that hold one are left out here.

Texts are ordered by rank, symbol by symbol. The rank of a character is its code point, and a stray
byte ranks between the characters below and above the surrogates, which no character occupies.
-/

namespace AccountRelay

inductive Symbol where
  | char (c : Char)
  /-- The byte `128 + low`, found where no character could be read. -/
  | byte (low : Fin 128)
  deriving DecidableEq, Repr, Inhabited

def Symbol.rank : Symbol → Nat
  | .char c => c.toNat
  | .byte low => 0xDC80 + low

abbrev Text := List Symbol

instance : LawfulBEq Text := inferInstance

/-- A set of characters, as runs of code points, each with its first and its last. -/
abbrev Runs := List (Nat × Nat)

def Runs.has (runs : Runs) : Symbol → Bool
  | .char c => runs.any fun (first, last) => first ≤ c.toNat && c.toNat ≤ last
  | .byte _ => false

namespace Text

def ofString (s : String) : Text := s.toList.map Symbol.char

instance : Coe String Text := ⟨ofString⟩

def ranks (t : Text) : List Nat := t.map Symbol.rank

/-- Texts in the order of their ranks, as names are listed. -/
def le (s t : Text) : Bool := !List.lex t.ranks s.ranks fun a b => decide (a < b)

/-- Puts a name in front of the first that is not before it. -/
def place (t : Text) : List Text → List Text
  | [] => [t]
  | s :: rest => if le t s then t :: s :: rest else s :: place t rest

def sort : List Text → List Text
  | [] => []
  | t :: rest => place t (sort rest)

def startsWith (t stem : Text) : Bool := stem.isPrefixOf t

/-- The characters of a text, where it has no stray byte. -/
def chars? (t : Text) : Option (List Char) :=
  t.mapM fun
    | .char c => some c
    | .byte _ => none

def join (gap : Text) : List Text → Text
  | [] => []
  | [t] => t
  | t :: ts => t ++ gap ++ join gap ts

def splitFirst (mark : Symbol) : Text → Option (Text × Text)
  | [] => none
  | c :: rest =>
    if c = mark then some ([], rest)
    else (splitFirst mark rest).map fun (before, after) => (c :: before, after)

/-- What stands before and after the last `mark`. -/
def splitLast (mark : Symbol) : Text → Option (Text × Text)
  | [] => none
  | c :: rest =>
    match splitLast mark rest with
    | some (before, after) => some (c :: before, after)
    | none => if c = mark then some ([], rest) else none

/-- The pieces between the marks; there is one more of them than there are marks. -/
def splitAll (mark : Symbol) : Text → List Text
  | [] => [[]]
  | c :: rest =>
    if c = mark then [] :: splitAll mark rest
    else match splitAll mark rest with
      | [] => [[c]]
      | piece :: pieces => (c :: piece) :: pieces

def replace (old new : Symbol) (t : Text) : Text :=
  t.map fun c => if c = old then new else c

/-- A text in backquotes, as messages cite it. -/
def cited (t : Text) : Text := "`" ++ t ++ "`"

/-! ## Numbers -/

def digit (n : Nat) : Symbol := .char (Char.ofNat (48 + n % 10))

def decimal (n : Nat) : Text :=
  if n < 10 then [digit n] else decimal (n / 10) ++ [digit n]
termination_by n
decreasing_by omega

def twoDigits (n : Nat) : Text := [digit (n / 10), digit n]

def integer : Int → Text
  | .ofNat n => decimal n
  | .negSucc n => .char '-' :: decimal (n + 1)

/-! ## Laws -/

@[simp] theorem ranks_nil : ranks [] = [] := rfl

@[simp] theorem ranks_cons (c : Symbol) (t : Text) : ranks (c :: t) = c.rank :: ranks t := rfl

@[simp] theorem splitLast_nil (mark : Symbol) : splitLast mark [] = none := rfl

theorem splitLast_append (mark : Symbol) (before after : Text) (clear : mark ∉ after) :
    splitLast mark (before ++ mark :: after) = some (before, after) := by
  have none_of_clear : ∀ t : Text, mark ∉ t → splitLast mark t = none := by
    intro t
    induction t with
    | nil => intro _; rfl
    | cons c rest ih =>
      intro h
      simp only [List.mem_cons, not_or] at h
      simp [splitLast, ih h.2, Ne.symm h.1]
  induction before with
  | nil => simp [splitLast, none_of_clear after clear]
  | cons c rest ih => simp [splitLast, ih]

theorem startsWith_iff (t stem : Text) : t.startsWith stem = true ↔ ∃ rest, t = stem ++ rest := by
  simp only [startsWith, List.isPrefixOf_iff_prefix]
  exact ⟨fun ⟨r, h⟩ => ⟨r, h.symm⟩, fun ⟨r, h⟩ => ⟨r, h.symm⟩⟩

end Text

end AccountRelay
