import AccountRelay.Expression.Quotation
import AccountRelay.Text.Quoted
import AccountRelay.Text.Word
/-!
# Tokens

The words, numerals, quotations and signs of an expression. Each token knows its line and how many
brackets are open behind it. Blanks and comments stand between tokens. A line ends the expression
unless a bracket is open or a backslash stands at its end.

The last token says how the text ends: properly, with an open bracket, at a backslash within a line,
or at something that is no token.
-/

namespace AccountRelay.Expression

inductive NumeralKind where
  | decimal
  | hexadecimal
  | octal
  | binary
  | imaginary
  deriving DecidableEq, Repr

def NumeralKind.word : NumeralKind → Text
  | decimal => "decimal"
  | hexadecimal => "hexadecimal"
  | octal => "octal"
  | binary => "binary"
  | imaginary => "imaginary"

inductive TokenFault where
  /-- The line is the one where the quotation should have ended. -/
  | unclosedQuotation (line : Nat)
  | unclosedLongQuotation (line : Nat)
  | unmatched (bracket : Char)
  /-- The line of the opening bracket is given if it is another one. -/
  | mismatched (closing opening : Char) (line : Option Nat)
  | tooManyBrackets
  | malformedNumeral (kind : NumeralKind)
  | digitTooLarge (digit : Char) (kind : NumeralKind)
  | leadingZero
  | strangeCharacter (c : Char)
  deriving DecidableEq, Repr

namespace TokenFault

def single (c : Char) : Text := [.char (Char.ofNat 39), .char c, .char (Char.ofNat 39)]

def codePoint (c : Char) : Text :=
  let digits := (Nat.toDigits 16 c.toNat).map Char.toUpper
  "U+" ++ (List.replicate (4 - digits.length) '0' ++ digits).map Symbol.char

def message : TokenFault → Text
  | unclosedQuotation line =>
    "unterminated string literal (detected at line " ++ Text.decimal line ++ ")"
  | unclosedLongQuotation line =>
    "unterminated triple-quoted string literal (detected at line " ++ Text.decimal line ++ ")"
  | unmatched bracket => "unmatched " ++ single bracket
  | mismatched closing opening line =>
    "closing parenthesis " ++ single closing ++ " does not match opening parenthesis "
      ++ single opening
      ++ match line with
        | none => []
        | some line => " on line " ++ Text.decimal line
  | tooManyBrackets => "too many nested parentheses"
  | malformedNumeral kind => "invalid " ++ kind.word ++ " literal"
  | digitTooLarge digit kind => "invalid digit " ++ single digit ++ " in " ++ kind.word ++ " literal"
  | leadingZero =>
    "leading zeros in decimal integer literals are not permitted; use an 0o prefix for octal integers"
  | strangeCharacter c =>
    if Text.unprinted.has (.char c) then "invalid non-printable character " ++ codePoint c
    else "invalid character " ++ single c ++ " (" ++ codePoint c ++ ")"

end TokenFault

abbrev Bracket := Char × Nat

inductive Lexeme where
  | word (t : String)
  | numeral (isImaginary : Bool)
  | quotation (q : Quotation)
  | sign (t : String)
  | lineEnd
  /-- The blanks before the first token of a line. -/
  | indent
  | stop
  | openBracket (b : Bracket)
  /-- A backslash with something behind it, inside the given bracket. -/
  | strayBackslash (b : Option Bracket)
  | fault (f : TokenFault)
  deriving DecidableEq, Repr

structure Token where
  lexeme : Lexeme
  line : Nat
  depth : Nat
  deriving DecidableEq, Repr

/-! ## Characters -/

def isQuote (c : Char) : Bool := c.toNat = 34 || c.toNat = 39

def isBlank (c : Char) : Bool := c = ' ' || c = '\t' || c.toNat = 12

/-- Characters that go on with a word or a numeral. Which of those that are not ASCII may stand in a
word is checked at its end. -/
def continuesWord (c : Char) : Bool := c.isAlphanum || c = '_' || 128 ≤ c.toNat

def startsWord (c : Char) : Bool := continuesWord c && !c.isDigit

/-! ## Numerals -/

namespace Numeral

/-- Some words may follow a numeral at once. After three of them a word may even go on. -/
def isFollowed (t : List Char) : Bool :=
  ["if", "in", "is"].any (fun w => w.toList.isPrefixOf t)
    || ["and", "else", "for", "or", "not"].any fun w =>
      w.toList.isPrefixOf t && !(t.drop w.length).head?.any continuesWord

def checkEnd (kind : NumeralKind) (t : List Char) : Except TokenFault (List Char) :=
  match t with
  | [] => .ok t
  | c :: _ =>
    if c.toNat < 128 && continuesWord c && !isFollowed t then .error (.malformedNumeral kind)
    else .ok t

/-- What follows more digits, between which underscores may stand one by one. -/
def digits : List Char → Except TokenFault (List Char)
  | '_' :: c :: rest => if c.isDigit then digits rest else .error (.malformedNumeral .decimal)
  | ['_'] => .error (.malformedNumeral .decimal)
  | c :: rest => if c.isDigit then digits rest else .ok (c :: rest)
  | [] => .ok []

def refuse {α : Type} (kind : NumeralKind) : List Char → Except TokenFault α
  | c :: _ =>
    if c.isDigit && kind ≠ .hexadecimal then .error (.digitTooLarge c kind)
    else .error (.malformedNumeral kind)
  | [] => .error (.malformedNumeral kind)

def basedDigits (kind : NumeralKind) (accept : Char → Bool) :
    List Char → Except TokenFault (List Char)
  | '_' :: c :: rest =>
    if accept c then basedDigits kind accept rest else refuse kind (c :: rest)
  | ['_'] => refuse kind []
  | c :: rest =>
    if accept c then basedDigits kind accept rest
    else if c.isDigit then refuse kind (c :: rest)
    else .ok (c :: rest)
  | [] => .ok []

def based (kind : NumeralKind) (accept : Char → Bool) (t : List Char) :
    Except TokenFault (List Char) := do
  let t := match t with
    | '_' :: rest => rest
    | t => t
  match t with
  | c :: rest =>
    if accept c then checkEnd kind (← basedDigits kind accept rest) else refuse kind (c :: rest)
  | [] => refuse kind []

def imaginaryEnd : List Char → Except TokenFault (Bool × List Char)
  | c :: rest =>
    if c = 'j' ∨ c = 'J' then return (true, ← checkEnd .imaginary rest)
    else return (false, ← checkEnd .decimal (c :: rest))
  | [] => .ok (false, [])

def exponent : List Char → Except TokenFault (Bool × List Char)
  | e :: rest =>
    if e = 'e' ∨ e = 'E' then
      match rest with
      | c :: d :: after =>
        if c.isDigit then do imaginaryEnd (← digits (d :: after))
        else if c = '+' ∨ c = '-' then
          if d.isDigit then do imaginaryEnd (← digits after) else .error (.malformedNumeral .decimal)
        else do return (false, ← checkEnd .decimal (e :: rest))
      | [c] =>
        if c.isDigit then .ok (false, [])
        else if c = '+' ∨ c = '-' then .error (.malformedNumeral .decimal)
        else do return (false, ← checkEnd .decimal (e :: rest))
      | [] => do return (false, ← checkEnd .decimal [e])
    else imaginaryEnd (e :: rest)
  | [] => .ok (false, [])

def fraction : List Char → Except TokenFault (Bool × List Char)
  | c :: rest => if c.isDigit then do exponent (← digits rest) else exponent (c :: rest)
  | [] => .ok (false, [])

def afterDigits : List Char → Except TokenFault (Bool × List Char)
  | '.' :: rest => fraction rest
  | t => exponent t

def zeros : List Char → Except TokenFault (List Char)
  | '_' :: c :: rest =>
    if c = '0' then zeros rest
    else if c.isDigit then .ok (c :: rest)
    else .error (.malformedNumeral .decimal)
  | ['_'] => .error (.malformedNumeral .decimal)
  | '0' :: rest => zeros rest
  | t => .ok t

/-- The rest of a numeral that starts with zeros. Without a point, an exponent or a `j` only zeros may
follow. -/
def afterZeros (t : List Char) : Except TokenFault (Bool × List Char) := do
  match ← zeros t with
  | c :: rest =>
    if c.isDigit then
      let after ← digits rest
      match after with
      | d :: _ =>
        if d = '.' || d = 'e' || d = 'E' || d = 'j' || d = 'J' then afterDigits after
        else .error .leadingZero
      | [] => .error .leadingZero
    else afterDigits (c :: rest)
  | [] => return (false, [])

def read (first : Char) (t : List Char) : Except TokenFault (Bool × List Char) := do
  if first ≠ '0' then afterDigits (← digits t)
  else match t with
    | c :: rest =>
      if c = 'x' ∨ c = 'X' then
        return (false, ← based .hexadecimal (fun c => (Quotation.hexValue? c).isSome) rest)
      else if c = 'o' ∨ c = 'O' then
        return (false, ← based .octal (fun c => '0' ≤ c && c ≤ '7') rest)
      else if c = 'b' ∨ c = 'B' then
        return (false, ← based .binary (fun c => c = '0' || c = '1') rest)
      else afterZeros t
    | [] => return (false, [])

end Numeral

/-! ## Quotations -/

namespace Quotation

def shortContent? (quote : Char) : List Char → Option (List Char × List Char)
  | [] => none
  | '\n' :: _ => none
  | ['\\'] => none
  | '\\' :: c :: rest => (shortContent? quote rest).map fun (t, after) => ('\\' :: c :: t, after)
  | c :: rest =>
    if c = quote then some ([], rest)
    else (shortContent? quote rest).map fun (t, after) => (c :: t, after)

def longContent? (quote : Char) : List Char → Option (List Char × List Char)
  | [] => none
  | ['\\'] => none
  | '\\' :: c :: rest => (longContent? quote rest).map fun (t, after) => ('\\' :: c :: t, after)
  | c :: rest =>
    match [quote, quote].isPrefixOf rest && c = quote with
    | true => some ([], rest.drop 2)
    | false => (longContent? quote rest).map fun (t, after) => (c :: t, after)

/-- The line ends in a quotation before the one that it cannot hold. -/
def escapedLineEnds : List Char → Nat
  | '\n' :: _ => 0
  | '\\' :: '\n' :: rest => escapedLineEnds rest + 1
  | '\\' :: _ :: rest => escapedLineEnds rest
  | _ :: rest => escapedLineEnds rest
  | [] => 0

/-- A quotation with the letters before it, and what follows it. Nothing if there is none. -/
def read? (line : Nat) (t : List Char) : Option (Except TokenFault (Quotation × List Char)) :=
  let letters := (t.take 3).takeWhile (!isQuote ·)
  match ofLetters? letters, t.drop letters.length with
  | some q, quote :: rest =>
    if !isQuote quote then none
    else if [quote, quote].isPrefixOf rest then
      some <| match longContent? quote (rest.drop 2) with
        | some (content, after) => .ok ({ q with content }, after)
        | none => .error (.unclosedLongQuotation (line + rest.count '\n'))
    else
      some <| match shortContent? quote rest with
        | some (content, after) => .ok ({ q with content }, after)
        | none => .error (.unclosedQuotation (line + escapedLineEnds rest))
  | _, _ => none

end Quotation

/-! ## Signs -/

def longSigns : List String :=
  ["**=", "...", "//=", "<<=", ">>=", "!=", "%=", "&=", "**", "*=", "+=", "-=", "->", "//", "/=", ":=",
    "<<", "<=", "<>", "==", ">=", ">>", "@=", "^=", "|="]

def signOf (c : Char) (rest : List Char) : String :=
  (longSigns.find? fun s => s.toList.isPrefixOf (c :: rest)).getD (String.singleton c)

def closes (opening closing : Char) : Bool :=
  (opening = '(' && closing = ')') || (opening = '[' && closing = ']')
    || (opening = '\x7b' && closing = '\x7d')

def isOpening (c : Char) : Bool := c = '(' || c = '[' || c = '\x7b'

def isClosing (c : Char) : Bool := c = ')' || c = ']' || c = '\x7d'

/-- So many brackets may be open. -/
def bracketBound : Nat := 200

/-! ## Scanning -/

structure Layout where
  line : Nat
  brackets : List Bracket
  busy : Bool

namespace Layout

def token (s : Layout) (lexeme : Lexeme) : Token := ⟨lexeme, s.line, s.brackets.length⟩

def bracketsAfter (s : Layout) (c : Char) : Except TokenFault (List Bracket) :=
  if isOpening c then
    if s.brackets.length < bracketBound then .ok ((c, s.line) :: s.brackets)
    else .error .tooManyBrackets
  else if isClosing c then
    match s.brackets with
    | [] => .error (.unmatched c)
    | (opening, line) :: outer =>
      if closes opening c then .ok outer
      else .error (.mismatched c opening (if line = s.line then none else some line))
  else .ok s.brackets

def lastToken (s : Layout) : Token :=
  s.token <| match s.brackets with
    | [] => .stop
    | b :: _ => .openBracket b

def isIndented (t : List Char) : Bool :=
  let blanks := t.takeWhile isBlank
  let column := blanks.reverse.takeWhile (·.toNat ≠ 12)
  match t.drop blanks.length with
  | [] => false
  | c :: _ => !column.isEmpty && c ≠ '#' && c ≠ '\n'

end Layout

def wordFault? : List Char → Option TokenFault
  | [] => none
  | c :: rest =>
    if !Text.isNameStart (.char c) then some (.strangeCharacter c)
    else (rest.find? fun d => !Text.isNamePart (.char d)).map .strangeCharacter

/-- The lexeme at the beginning of a text that starts neither a line nor a comment nor with a blank,
and what follows it. -/
def lexeme (line : Nat) (c : Char) (rest : List Char) : Except TokenFault (Lexeme × List Char) :=
  match Quotation.read? line (c :: rest) with
  | some r => r.map fun (q, after) => (.quotation q, after)
  | none =>
    if startsWord c then
      let word := (c :: rest).takeWhile continuesWord
      match wordFault? word with
      | some fault => .error fault
      | none => .ok (.word (String.ofList word), rest.drop (word.length - 1))
    else if c.isDigit then (Numeral.read c rest).map fun (i, after) => (.numeral i, after)
    else if c = '.' && rest.head?.any Char.isDigit then
      (Numeral.fraction rest).map fun (i, after) => (.numeral i, after)
    else
      let sign := signOf c rest
      if sign.length = 1 && Text.unprinted.has (.char c) then .error (.strangeCharacter c)
      else .ok (.sign sign, rest.drop (sign.length - 1))

def scan (s : Layout) : List Char → List Token
  | [] => [s.lastToken]
  | c :: rest =>
    if isBlank c then scan s rest
    else if c = '#' then
      let comment := (rest.takeWhile (· ≠ '\n')).length
      scan s (rest.drop comment)
    else if c = '\n' then
      let next := { s with line := s.line + 1 }
      if s.brackets.isEmpty then
        (if s.busy then [s.token .lineEnd] else [])
          ++ (if Layout.isIndented rest then [next.token .indent] else [])
          ++ scan { next with busy := false } rest
      else scan next rest
    else if c = '\\' then
      if rest.head? = some '\n' then scan { s with line := s.line + 1 } (rest.drop 1)
      else [s.token (.strayBackslash s.brackets.head?)]
    else
      match s.bracketsAfter c, lexeme s.line c rest with
      | .ok brackets, .ok (found, after) =>
        let used := rest.length - after.length
        { s with brackets }.token found
          :: scan { line := s.line + (rest.take used).count '\n', brackets, busy := true }
            (rest.drop used)
      | .error f, _ => [s.token (.fault f)]
      | _, .error f => [s.token (.fault f)]
termination_by t => t.length
decreasing_by all_goals (simp only [List.length_cons, List.length_drop]; omega)

def lineFeeds : List Char → List Char
  | '\r' :: '\n' :: rest => '\n' :: lineFeeds rest
  | '\r' :: rest => '\n' :: lineFeeds rest
  | c :: rest => c :: lineFeeds rest
  | [] => []

def tokens (t : List Char) : List Token := scan ⟨1, [], false⟩ (lineFeeds t)

end AccountRelay.Expression
