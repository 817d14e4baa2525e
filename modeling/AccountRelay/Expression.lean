import AccountRelay.Expression.Reading
import AccountRelay.Text.Blank
/-!
# Parameters

The parameters of a tag are a literal. The name of what handles the tag may stand before a literal in
brackets, and without one it handles nothing. Faults cite the parameters as they were given, and
where these are no expression, also what has been read as one.
-/

namespace AccountRelay

inductive ParametersFault where
  | malformed (read given : Text) (c : Expression.Complaint)
  /-- The stray bytes from the first to the last position. -/
  | encoding (given : Text) (first : Symbol) (start stop : Nat)
  | nul (given : Text)
  | literal (given : Text) (f : Expression.Tree.LiteralFault)
  deriving DecidableEq, Repr

namespace ParametersFault

def message : ParametersFault → Text
  | malformed read given c =>
    "error parsing " ++ read.quoted ++ " in " ++ given.quoted ++ "; " ++ c.message
  | encoding given first start stop =>
    "error parsing " ++ given.quoted ++ "; 'utf-8' codec can't encode character"
      ++ (if start = stop then " " ++ Text.quoted [first] ++ " in position " ++ Text.decimal start
        else "s in position " ++ Text.decimal start ++ "-" ++ Text.decimal stop)
      ++ ": surrogates not allowed"
  | nul given => "error parsing " ++ given.quoted ++ "; source code string cannot contain null bytes"
  | literal given f => "error parsing " ++ given.quoted ++ "; " ++ f.message

end ParametersFault

namespace Parameters

def literalPart (t : Text) : Text :=
  let rest : Text := t.dropWhile fun c => Text.isWord c || c = .char '.'
  if rest = [] then "()"
  else if Text.startsWith rest "(" && rest.getLast? = some (.char ')') && .char '\n' ∉ rest then rest
  else t

def isStray : Symbol → Bool
  | .char _ => false
  | .byte _ => true

/-- Refuses stray bytes, given how many symbols stand before the text. -/
def checkEncoding (given : Text) (position : Nat) : Text → Except ParametersFault Unit
  | [] => .ok ()
  | c :: rest =>
    if isStray c then
      .error (.encoding given c position (position + (rest.takeWhile isStray).length))
    else checkEncoding given (position + 1) rest

def check (given : Text) : Except ParametersFault Unit := do
  let read := literalPart (Text.trim given)
  checkEncoding given 0 read
  if .char (Char.ofNat 0) ∈ read then throw (.nul given)
  let tree ← (Expression.Reading.tree (read.chars?.getD [])).mapError (.malformed read given)
  let _ ← tree.literal.mapError (.literal given)

end Parameters

end AccountRelay
