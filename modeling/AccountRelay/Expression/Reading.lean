import AccountRelay.Expression.Grammar
import Std.Data.HashMap
/-!
# Reading expressions

Tokens are read by the grammar. A text that is no expression is read twice, the second time with the
rules for complaints, and it is unexpected where these find nothing to complain about.

Whether a bracket is open at the end is noticed where the reading gets there. It is noticed too if the
reading stops in a later line than the one of the bracket.
-/

namespace AccountRelay.Expression

/-- Trees that have been matched, and the position behind them. -/
abbrev Match := List Tree × Nat

structure Notes where
  seen : Nat
  known : Std.HashMap (Rule × Nat) (Option Match)

abbrev Reading (α : Type) := ExceptT Complaint (StateM Notes) α

inductive Outcome where
  | matched (m : Match)
  | failed
  /-- No other way is tried. -/
  | stopped

namespace Outcome

def ofOption : Option Match → Outcome
  | some m => matched m
  | none => failed

def toOption : Outcome → Option Match
  | matched m => some m
  | _ => none

end Outcome

namespace Reading

def on {α : Type} (reading : Reading α) (notes : Notes) : Except Complaint α × Notes := reading notes

def reserved : List String :=
  ["False", "None", "True", "and", "as", "assert", "async", "await", "break", "class", "continue",
    "def", "del", "elif", "else", "except", "finally", "for", "from", "global", "if", "import", "in",
    "is", "lambda", "nonlocal", "not", "or", "pass", "raise", "return", "try", "while", "with",
    "yield"]

/-- The token at a position. Where the text does not end properly, there is none. -/
def look (tokens : Array Token) (position : Nat) : Reading (Option Token) := do
  modify fun notes => { notes with seen := max notes.seen (min tokens.size (position + 1)) }
  match tokens[position]? with
  | none => return none
  | some token =>
    match token.lexeme with
    | .openBracket (bracket, _) => throw (.neverClosed bracket)
    | .strayBackslash _ => throw .strayBackslash
    | .fault f => throw (.token f)
    | _ => return some token

def token (tokens : Array Token) (position : Nat) (trees? : Lexeme → Option (List Tree)) :
    Reading Outcome := do
  match (← look tokens position).bind fun t => trees? t.lexeme with
  | some trees => return .matched (trees, position + 1)
  | none => return .failed

def when (test : Bool) : Option (List Tree) := if test then some [] else none

def quotationsFrom (tokens : Array Token) : Nat → Nat → Reading (List Quotation)
  | 0, _ => return []
  | limit + 1, position => do
    match (← look tokens position).map Token.lexeme with
    | some (.quotation q) => return q :: (← quotationsFrom tokens limit (position + 1))
    | _ => return []

def quotations (tokens : Array Token) (position : Nat) : Reading Outcome := do
  let row ← quotationsFrom tokens tokens.size position
  if row.isEmpty then return .failed
  match Quotation.rowFault? none row with
  | some f => throw (.quotation f)
  | none =>
    let tree : Tree := if row.any Quotation.isFilled then .other "f-string expression" else .quotation
    return .matched ([tree], position + row.length)

/-- Matches a form at a position, in at most so many steps into it. -/
def run (tokens : Array Token) : Nat → Bool → Form → Nat → Reading Outcome
  | 0, _, _, _ => return .failed
  | steps + 1, detailed, form, position => do
    let run := run tokens steps
    match form with
    | .word t => token tokens position fun
        | .word s => when (s == t)
        | _ => none
    | .sign t => token tokens position fun
        | .sign s => when (s == t)
        | _ => none
    | .name => token tokens position fun
        | .word s => if reserved.contains s then none else some [.name s]
        | _ => none
    | .softWord => token tokens position fun
        | .word s => when (Rule.softWords.contains s)
        | _ => none
    | .numeral => token tokens position fun
        | .numeral i => some [.numeral i]
        | _ => none
    | .quotation => token tokens position fun
        | .quotation _ => some []
        | _ => none
    | .quotations => quotations tokens position
    | .lineEnd => token tokens position fun l => when (l == .lineEnd)
    | .stop => token tokens position fun l => when (l == .stop)
    | .rule r =>
      match (← get).known.get? (r, position) with
      | some m => return .ofOption m
      | none =>
        let m := (← run detailed r.form position).toOption
        if r.isRemembered then
          modify fun notes => { notes with known := notes.known.insert (r, position) m }
        return .ofOption m
    | .seq [] => return .matched ([], position)
    | .seq (.commit :: rest) =>
      match ← run detailed (.seq rest) position with
      | .matched m => return .matched m
      | _ => return .stopped
    | .seq (f :: rest) =>
      match ← run detailed f position with
      | .matched (first, next) =>
        match ← run detailed (.seq rest) next with
        | .matched (others, last) => return .matched (first ++ others, last)
        | r => return r
      | r => return r
    | .choice [] => return .failed
    | .choice (f :: rest) =>
      match ← run detailed f position with
      | .matched m => return .matched m
      | .failed => run detailed (.choice rest) position
      | .stopped => return .failed
    | .optional f =>
      match ← run detailed f position with
      | .matched m => return .matched m
      | _ => return .matched ([], position)
    | .many f =>
      match ← run detailed f position with
      | .matched (first, next) =>
        match ← run detailed (.many f) next with
        | .matched (others, last) => return .matched (first ++ others, last)
        | r => return r
      | _ => return .matched ([], position)
    | .ahead f =>
      match ← run detailed f position with
      | .matched _ => return .matched ([], position)
      | _ => return .failed
    | .notAhead f =>
      match ← run detailed f position with
      | .matched _ => return .failed
      | _ => return .matched ([], position)
    | .commit => return .matched ([], position)
    | .build make f =>
      match ← run detailed f position with
      | .matched (trees, next) => return .matched ([make trees], next)
      | r => return r
    | .keep test f =>
      match ← run detailed f position with
      | .matched (trees, next) => return if trees.all test then .matched (trees, next) else .failed
      | r => return r
    | .chain join first next =>
      match ← run detailed first position with
      | .matched ([left], middle) =>
        match ← run detailed next middle with
        | .matched (parts, last) =>
          run detailed (.chain join (.build (fun _ => join left parts) (.seq [])) next) last
        | _ => return .matched ([left], middle)
      | r => return r
    | .detailed f => if detailed then run detailed f position else return .failed
    | .plainly f => run false f position
    | .complain why f =>
      match ← run detailed f position with
      | .matched (trees, next) =>
        match (tokens[next - 1]?).bind fun last => why last trees with
        | some c => throw c
        | none => return .stopped
      | r => return r

def stepsPerToken : Nat := 400

def whole (tokens : Array Token) (detailed : Bool) : Reading (Option Tree) := do
  match ← run tokens (stepsPerToken * (tokens.size + 1)) detailed (.rule .whole) 0 with
  | .matched (tree :: _, _) => return some tree
  | _ => return none

def openBracket? (tokens : Array Token) : Option Bracket :=
  match tokens.back?.map Token.lexeme with
  | some (.openBracket b) => some b
  | some (.strayBackslash b) => b
  | _ => none

/-- Whether it is known that nothing follows the tokens that have been looked at. The end of a
quotation is known without looking at what follows it. -/
def endIsKnown (tokens : Array Token) (seen : Nat) : Bool :=
  match (tokens[seen - 1]?).map Token.lexeme, (tokens[seen]?).map Token.lexeme with
  | some (.quotation q), some (.openBracket _) => q.content.isEmpty
  | _, some (.openBracket _) => true
  | _, _ => false

/-- What a reading that has stopped complains about, given what it complains about so far and how many
tokens it has looked at. -/
def withRest (tokens : Array Token) (seen : Nat) (c : Complaint) : Complaint :=
  match tokens.back?.map Token.lexeme with
  | some (.fault f) => .token f
  | _ =>
    match openBracket? tokens, tokens[seen - 1]? with
    | some (bracket, line), some last => if line < last.line then .neverClosed bracket else c
    | _, _ => c

def raised (tokens : Array Token) (seen : Nat) (c : Complaint) : Complaint :=
  if c = .strayBackslash || endIsKnown tokens seen then c else withRest tokens seen c

def complaint (tokens : Array Token) (seen : Nat) : Complaint :=
  match (whole tokens true).on ⟨seen, ∅⟩ with
  | (.error c, notes) => raised tokens notes.seen c
  | (.ok _, notes) =>
    match (tokens[seen - 1]?).map Token.lexeme with
    | some .indent => .indent
    | _ => withRest tokens notes.seen .unexpected

def tree (t : List Char) : Except Complaint Tree :=
  let tokens := (Expression.tokens t).toArray
  match (whole tokens false).on ⟨0, ∅⟩ with
  | (.ok (some tree), _) => .ok tree
  | (.ok none, notes) => .error (complaint tokens notes.seen)
  | (.error c, notes) => .error (raised tokens notes.seen c)

end Reading

end AccountRelay.Expression
