import AccountRelay.Text.Quoted
/-!
# Expression trees

What an expression is made of, as far as it matters to whether it is a literal and to what messages
call it. Literals are numbers, texts, truth values and tuples, sets and dictionaries of literals; a
number may have a sign, and an imaginary number may be added to a real one. A set has no dictionaries
and sets as its members, nor has a dictionary as its keys.
-/

namespace AccountRelay.Expression

inductive Tree where
  | name (t : String)
  | none
  | truth (b : Bool)
  | ellipsis
  | numeral (isImaginary : Bool)
  | quotation
  | tuple (items : List Tree)
  | set (items : List Tree)
  /-- The entries are pairs and spreads. -/
  | dictionary (entries : List Tree)
  | pair (key value : Tree)
  | spread (t : Tree)
  | signed (t : Tree)
  | sum (left right : Tree)
  | call (function : Tree) (hasArguments : Bool)
  | starred (t : Tree)
  | membership (left : Tree)
  | other (label : String)
  deriving Repr, Inhabited

namespace Tree

def label : Tree → String
  | name _ => "name"
  | none => "None"
  | truth true => "True"
  | truth false => "False"
  | ellipsis => "ellipsis"
  | numeral _ => "literal"
  | quotation => "literal"
  | tuple _ => "tuple"
  | set _ => "set display"
  | dictionary _ => "dict literal"
  | pair _ _ => "expression"
  | spread _ => "expression"
  | signed _ => "expression"
  | sum _ _ => "expression"
  | call _ _ => "function call"
  | starred _ => "starred"
  | membership _ => "comparison"
  | other label => label

mutual

/-- The first part of the place for the members of a loop that nothing can be assigned to. -/
def unassignable? : Tree → Option Tree
  | name _ => Option.none
  | tuple items => unassignableAmong? items
  | starred t => t.unassignable?
  | membership left => left.unassignable?
  | other "attribute" => Option.none
  | t => some t

def unassignableAmong? : List Tree → Option Tree
  | [] => Option.none
  | t :: rest => t.unassignable? <|> unassignableAmong? rest

end

/-! ## Literals -/

/-- What a literal stands for, as far as it matters to what may be made of it. -/
inductive Meaning where
  | real
  | imaginary
  | plain
  | mutable (label : String)
  deriving DecidableEq, Repr

inductive LiteralFault where
  | notLiteral
  | spread
  | noMember (label : String)
  deriving DecidableEq, Repr

def LiteralFault.message : LiteralFault → Text
  | notLiteral => "malformed node or string"
  | spread => "malformed node or string: None"
  | noMember label => "unhashable type: " ++ (Text.ofString label).quoted

def number : Tree → Except LiteralFault Meaning
  | numeral false => .ok .real
  | numeral true => .ok .imaginary
  | _ => .error .notLiteral

def signedNumber : Tree → Except LiteralFault Meaning
  | signed t => t.number
  | t => t.number

def Meaning.checkMember : Meaning → Except LiteralFault Unit
  | .mutable label => .error (.noMember label)
  | _ => .ok ()

mutual

def literal : Tree → Except LiteralFault Meaning
  | none => .ok .plain
  | truth _ => .ok .plain
  | ellipsis => .ok .plain
  | quotation => .ok .plain
  | numeral i => number (numeral i)
  | signed t => t.number
  | sum left right => do
    match ← left.signedNumber, ← right.number with
    | .real, .imaginary => return .plain
    | _, _ => throw .notLiteral
  | tuple items => tupleLiteral items
  | set items => do
    checkMembers items
    return .mutable "set"
  | dictionary entries => do
    checkEntries entries
    return .mutable "dict"
  | call (name "set") false => .ok (.mutable "set")
  | _ => .error .notLiteral

/-- A tuple is a member of sets if all its items are. -/
def tupleLiteral : List Tree → Except LiteralFault Meaning
  | [] => .ok .plain
  | t :: rest => do
    let first ← t.literal
    let others ← tupleLiteral rest
    match first with
    | .mutable label => return .mutable label
    | _ => return others

def checkMembers : List Tree → Except LiteralFault Unit
  | [] => .ok ()
  | t :: rest => do
    (← t.literal).checkMember
    checkMembers rest

def checkEntries : List Tree → Except LiteralFault Unit
  | [] => .ok ()
  | pair key value :: rest => do
    let meaning ← key.literal
    let _ ← value.literal
    meaning.checkMember
    checkEntries rest
  | _ :: _ => .error .spread

end

end Tree

end AccountRelay.Expression
