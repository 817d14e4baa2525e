import AccountRelay.Expression.Token
import AccountRelay.Expression.Tree
/-!
# The grammar of expressions

A grammar gives each of its rules a form, and a form says which tokens it matches from a position on
and which trees it makes of them. Of several ways to match, the first one that matches counts, and a
later one is not tried even if what follows does not match.

Some rules match what is no expression but resembles one. They are tried only when a text is known to
be no expression, and they say what is wrong with it.
-/

namespace AccountRelay.Expression

/-! ## Complaints -/

inductive ParameterComplaint where
  | defaultMissing
  | plainAfterDefault
  | bracketed
  | slashFirst
  | slashTwice
  | slashAfterStar
  | slashBeforeStar
  | bareStar
  | starDefault
  | starTwice
  | spreadDefault
  | afterSpread
  deriving DecidableEq, Repr

def ParameterComplaint.message : ParameterComplaint → Text
  | defaultMissing => "expected default value expression"
  | plainAfterDefault => "non-default argument follows default argument"
  | bracketed => "Lambda expression parameters cannot be parenthesized"
  | slashFirst => "at least one argument must precede /"
  | slashTwice => "/ may appear only once"
  | slashAfterStar => "/ must be ahead of *"
  | slashBeforeStar => "expected comma between / and *"
  | bareStar => "named arguments must follow bare *"
  | starDefault => "var-positional argument cannot have default value"
  | starTwice => "* argument may appear only once"
  | spreadDefault => "var-keyword argument cannot have default value"
  | afterSpread => "arguments cannot follow var-keyword argument"

inductive Complaint where
  | token (f : TokenFault)
  | quotation (f : QuotationFault)
  | neverClosed (bracket : Char)
  | strayBackslash
  | indent
  | unexpected
  | commaMissing
  | elseMissing
  /-- A word that would have to be called. -/
  | statement (word : String)
  | singleEquals
  /-- What is assigned to is given by its label, here and below. -/
  | comparedWithEquals (label : String)
  | assigned (label : String)
  | named (label : String)
  | starred
  | doubleStarred
  | loneStar
  | starredInLoop
  | bareTuple
  | spreadInLoop
  | starredValue
  | valueMissing
  | colonMissing
  | starAfterSpread
  | bareLoop
  | positionAfterName
  | positionAfterSpread
  | assignedArgument
  | parameter (p : ParameterComplaint)
  deriving DecidableEq, Repr

def Complaint.message : Complaint → Text
  | token f => f.message
  | quotation f => f.message
  | neverClosed bracket => TokenFault.single bracket ++ " was never closed"
  | strayBackslash => "unexpected character after line continuation character"
  | indent => "unexpected indent"
  | unexpected => "invalid syntax"
  | commaMissing => "invalid syntax. Perhaps you forgot a comma?"
  | elseMissing => "expected 'else' after 'if' expression"
  | statement word =>
    "Missing parentheses in call to '" ++ Text.ofString word ++ "'. Did you mean "
      ++ Text.ofString word ++ "(...)?"
  | singleEquals => "invalid syntax. Maybe you meant '==' or ':=' instead of '='?"
  | comparedWithEquals label =>
    "cannot assign to " ++ Text.ofString label ++ " here. Maybe you meant '==' instead of '='?"
  | assigned label => "cannot assign to " ++ Text.ofString label
  | named label => "cannot use assignment expressions with " ++ Text.ofString label
  | starred => "cannot use starred expression here"
  | doubleStarred => "cannot use double starred expression here"
  | loneStar => "Invalid star expression"
  | starredInLoop => "iterable unpacking cannot be used in comprehension"
  | bareTuple => "did you forget parentheses around the comprehension target?"
  | spreadInLoop => "dict unpacking cannot be used in dict comprehension"
  | starredValue => "cannot use a starred expression in a dictionary value"
  | valueMissing => "expression expected after dictionary key and ':'"
  | colonMissing => "':' expected after dictionary key"
  | starAfterSpread => "iterable argument unpacking follows keyword argument unpacking"
  | bareLoop => "Generator expression must be parenthesized"
  | positionAfterName => "positional argument follows keyword argument"
  | positionAfterSpread => "positional argument follows keyword argument unpacking"
  | assignedArgument => "expression cannot contain assignment, perhaps you meant \"==\"?"
  | parameter p => p.message

/-! ## Forms -/

inductive Rule where
  | whole
  | list
  | expression
  | disjunction
  | conjunction
  | inversion
  | comparison
  | bitwiseOr
  | bitwiseXor
  | bitwiseAnd
  | shift
  | sum
  | term
  | factor
  | power
  | awaited
  | primary
  | atom
  | tuple
  | group
  | generator
  | dictionary
  | set
  | dictionaryLoop
  | setLoop
  | entry
  | member
  | members
  | named
  | assignment
  | lambda
  | yielded
  | starExpression
  | starList
  | starArgument
  | arguments
  | argumentList
  | namedArguments
  | loops
  | target
  | targets
  | expressionComplaint
  | statementComplaint
  | namedComplaint
  | groupComplaint
  | loopComplaint
  | dictionaryLoopComplaint
  | entriesComplaint
  | entryComplaint
  | argumentsComplaint
  | keywordComplaint
  | targetComplaint
  deriving DecidableEq, Hashable, Repr

inductive Form where
  | word (t : String)
  | sign (t : String)
  | name
  | softWord
  | numeral
  | quotation
  | quotations
  | lineEnd
  | stop
  | rule (r : Rule)
  | seq (parts : List Form)
  | choice (ways : List Form)
  | optional (f : Form)
  | many (f : Form)
  | ahead (f : Form)
  | notAhead (f : Form)
  /-- Behind this in a sequence, no other way is tried. -/
  | commit
  | build (make : List Tree → Tree) (f : Form)
  | keep (test : Tree → Bool) (f : Form)
  /-- Something that any number of parts go on with, joined from the left. -/
  | chain (join : Tree → List Tree → Tree) (first next : Form)
  /-- Is tried only for complaints. -/
  | detailed (f : Form)
  /-- Is tried without complaints. -/
  | plainly (f : Form)
  /-- What is wrong where the form matches, given the last token and the trees. -/
  | complain (why : Token → List Tree → Option Complaint) (f : Form)

namespace Form

def separated (f : Form) (mark : String) : Form := seq [f, many (seq [sign mark, f])]

/-- Is only a part of a tree that nothing more is known about. -/
def labelled (label : String) (f : Form) : Form := build (fun _ => .other label) f

def always (c : Complaint) (f : Form) : Form := complain (fun _ _ => some c) f

def operations (operators : List String) (operand : Rule) : Form :=
  chain (fun _ _ => .other "expression") (rule operand)
    (choice (operators.map fun t => seq [sign t, rule operand]))

def joined (connective : String) (operand : Rule) : Form :=
  chain (fun _ _ => .other "expression") (rule operand) (seq [word connective, rule operand])

end Form

/-! ## Rules -/

namespace Rule

open Form

def softWords : List String := ["_", "case", "match"]

def statementWords : List String := ["print", "exec"]

def isStatementWord : Tree → Bool
  | .name t => statementWords.contains t
  | _ => false

/-- Several things with commas between or behind them make a tuple. -/
def listOf (item : Form) : Form :=
  choice [build .tuple (seq [item, sign ",", optional (seq [separated item ",", optional (sign ",")])]),
    item]

def comparisonPart (first second : Form) : Form :=
  labelled "comparison" (seq [first, second, rule bitwiseOr])

def comparisonParts : List Form :=
  ["==", "!=", "<=", "<", ">=", ">"].map (fun t => comparisonPart (sign t) (seq []))
    ++ [comparisonPart (word "not") (word "in"),
      build (fun _ => .membership .none) (seq [word "in", rule bitwiseOr]),
      comparisonPart (word "is") (word "not"), comparisonPart (word "is") (seq [])]

def compared : List Tree → Tree
  | [left] => left
  | left :: .membership _ :: _ => .membership left
  | _ => .other "comparison"

def extended (left : Tree) : List Tree → Tree
  | [.call _ hasArguments] => .call left hasArguments
  | _ => .other "attribute"

def isTarget : Tree → Bool
  | .name _ => true
  | .other label => label == "attribute"
  | _ => false

def pairOf : List Tree → Tree
  | [key, value] => .pair key value
  | _ => .none

def only (wrap : Tree → Tree) : List Tree → Tree
  | [t] => wrap t
  | _ => .none

def itemsOf : Tree → List Tree
  | .tuple items => items
  | _ => []

def isSpread : Tree → Bool
  | .spread _ => true
  | _ => false

def isNamed : Tree → Bool
  | .pair _ _ => true
  | _ => false

def aboutFirst (why : Tree → Option Complaint) (_ : Token) : List Tree → Option Complaint
  | t :: _ => why t
  | [] => none

/-- Two expressions in a row lack a comma if a bracket is open, and if the first is no statement. -/
def commaComplaint (last : Token) : List Tree → Option Complaint
  | t :: _ => if isStatementWord t || last.depth = 0 then none else some .commaMissing
  | [] => none

def statementComplaintOf : Tree → Option Complaint
  | .name t => if statementWords.contains t then some (.statement t) else none
  | _ => none

/-- A generator among other arguments needs brackets. -/
def generatorComplaintOf (arguments : Tree) : Option Complaint :=
  let positional := (itemsOf arguments).filter fun t => !isNamed t && !isSpread t
  if positional.length ≤ 1 then none else some .bareLoop

/-- Arguments without a name come first. -/
def orderComplaintOf (arguments : Tree) : Option Complaint :=
  some (if (itemsOf arguments).any isSpread then .positionAfterSpread else .positionAfterName)

def constants : List Form :=
  [build (fun _ => .truth true) (word "True"), build (fun _ => .truth false) (word "False"),
    build (fun _ => .none) (word "None")]

def conditional : Form :=
  labelled "conditional expression"
    (seq [rule disjunction, word "if", rule disjunction, word "else", rule expression])

def unnamed : Form := seq [rule expression, notAhead (sign ":=")]

def keyAndValue : Form := build pairOf (seq [rule expression, sign ":", rule expression])

def valueComplaints : List Form :=
  [always .starredValue (seq [rule expression, sign ":", sign "*", rule bitwiseOr]),
    always .valueMissing
      (seq [rule expression, sign ":", ahead (choice [sign "\x7d", sign ","])])]

def loop : Form :=
  choice [
    seq [optional (word "async"), word "for", rule targets, word "in", commit, rule disjunction,
      many (seq [word "if", rule disjunction])],
    detailed (rule targetComplaint)]

def namedArgument (otherwise : Form) : Form :=
  choice [detailed (rule keywordComplaint),
    build (fun _ => .pair .none .none) (seq [name, sign "=", rule expression]), otherwise]

def starOrNamed : Form := namedArgument (rule starArgument)

def spreadOrNamed : Form :=
  namedArgument (build (only .spread) (seq [sign "**", rule expression]))

def noFurtherEquals : Form := notAhead (choice [sign "=", sign ":="])

/-! ### Parameters of functions -/

def repeated (f : Form) : Form := seq [f, many f]

/-- A parameter ends at a comma or before the colon behind all parameters. -/
def parameterEnd : Form := choice [sign ",", ahead (sign ":")]

def default : Form :=
  choice [seq [sign "=", rule expression],
    detailed (always (.parameter .defaultMissing)
      (seq [sign "=", ahead (choice [sign ")", sign ","])]))]

def plainParameter : Form := seq [name, parameterEnd]

def defaultParameter : Form := seq [name, default, parameterEnd]

def anyParameter : Form := seq [name, optional default, parameterEnd]

def plainParametersBeforeSlash : Form := seq [repeated plainParameter, sign "/", parameterEnd]

def parametersBeforeSlash : Form :=
  seq [many plainParameter, repeated defaultParameter, sign "/", parameterEnd]

def spreadParameter : Form :=
  choice [
    detailed (choice [
      always (.parameter .spreadDefault) (seq [sign "**", name, sign "="]),
      always (.parameter .afterSpread) (seq [sign "**", name, sign ",", name]),
      always (.parameter .afterSpread)
        (seq [sign "**", name, sign ",", choice [sign "*", sign "**", sign "/"]])]),
    seq [sign "**", plainParameter]]

def starParameters : Form :=
  choice [
    detailed (choice [
      always (.parameter .bareStar)
        (seq [sign "*", choice [sign ":", seq [sign ",", choice [sign ":", sign "**"]]]]),
      always (.parameter .starDefault) (seq [sign "*", name, sign "="]),
      always (.parameter .starTwice)
        (seq [sign "*", choice [plainParameter, sign ","], many anyParameter, sign "*",
          choice [plainParameter, sign ","]])]),
    seq [sign "*", plainParameter, many anyParameter, optional spreadParameter],
    seq [sign "*", sign ",", repeated anyParameter, optional spreadParameter],
    spreadParameter]

def parametersComplaint : Form :=
  let beforeSlash := choice [plainParametersBeforeSlash, parametersBeforeSlash]
  choice [
    always (.parameter .plainAfterDefault)
      (seq [many plainParameter, choice [parametersBeforeSlash, repeated defaultParameter],
        plainParameter]),
    always (.parameter .bracketed)
      (seq [many plainParameter, sign "(", separated name ",", optional (sign ","), sign ")"]),
    always (.parameter .slashFirst) (seq [sign "/", sign ","]),
    always (.parameter .slashTwice) (seq [beforeSlash, many anyParameter, sign "/"]),
    always (.parameter .slashAfterStar)
      (seq [optional beforeSlash, many anyParameter, sign "*", choice [sign ",", plainParameter],
        many anyParameter, sign "/"]),
    always (.parameter .slashBeforeStar) (seq [repeated anyParameter, sign "/", sign "*"])]

def parameters : Form :=
  choice [detailed parametersComplaint,
    seq [plainParametersBeforeSlash, many plainParameter, many defaultParameter,
      optional starParameters],
    seq [parametersBeforeSlash, many defaultParameter, optional starParameters],
    seq [repeated plainParameter, many defaultParameter, optional starParameters],
    seq [repeated defaultParameter, optional starParameters],
    starParameters]

/-! ### All rules -/

def form : Rule → Form
  | whole => seq [rule list, many lineEnd, stop]
  | list => listOf (rule expression)
  | expression =>
    choice [detailed (rule expressionComplaint), detailed (rule statementComplaint), conditional,
      rule disjunction, rule lambda]
  | disjunction => joined "or" conjunction
  | conjunction => joined "and" inversion
  | inversion =>
    choice [labelled "expression" (seq [word "not", rule inversion]), rule comparison]
  | comparison => build compared (seq [rule bitwiseOr, many (choice comparisonParts)])
  | bitwiseOr => operations ["|"] bitwiseXor
  | bitwiseXor => operations ["^"] bitwiseAnd
  | bitwiseAnd => operations ["&"] shift
  | shift => operations ["<<", ">>"] sum
  | sum =>
    chain (fun left parts => .sum left (parts.headD .none)) (rule term)
      (choice [seq [sign "+", rule term], seq [sign "-", rule term]])
  | term => operations ["*", "/", "//", "%", "@"] factor
  | factor =>
    choice [build (only .signed) (seq [sign "+", rule factor]),
      build (only .signed) (seq [sign "-", rule factor]),
      labelled "expression" (seq [sign "~", rule factor]), rule power]
  | power =>
    choice [labelled "expression" (seq [rule awaited, sign "**", rule factor]), rule awaited]
  | awaited => choice [labelled "await expression" (seq [word "await", rule primary]), rule primary]
  | primary =>
    chain extended (rule atom)
      (choice [labelled "attribute" (seq [sign ".", name]),
        build (fun _ => .call .none true) (rule generator),
        build (fun ts => .call .none (!ts.isEmpty))
          (seq [sign "(", optional (rule arguments), sign ")"])])
  | atom =>
    choice <| [name] ++ constants
      ++ [quotations, numeral,
        seq [ahead (sign "("), choice [rule tuple, rule group, rule generator]],
        seq [ahead (sign "\x7b"),
          choice [rule dictionary, rule set, rule dictionaryLoop, rule setLoop]],
        build (fun _ => .ellipsis) (sign "...")]
  | tuple =>
    build .tuple
      (seq [sign "(", optional (seq [rule member, sign ",", optional (rule members)]), sign ")"])
  | group =>
    choice [seq [sign "(", choice [rule yielded, rule named], sign ")"], detailed (rule groupComplaint)]
  | generator =>
    choice [
      labelled "generator expression"
        (seq [sign "(", choice [rule assignment, unnamed], rule loops, sign ")"]),
      detailed (rule loopComplaint)]
  | dictionary =>
    choice [
      build .dictionary
        (seq [sign "\x7b", optional (seq [separated (rule entry) ",", optional (sign ",")]),
          sign "\x7d"]),
      seq [sign "\x7b", rule entriesComplaint, sign "\x7d"]]
  | set => build .set (seq [sign "\x7b", rule members, sign "\x7d"])
  | dictionaryLoop =>
    choice [
      labelled "dict comprehension" (seq [sign "\x7b", keyAndValue, rule loops, sign "\x7d"]),
      detailed (rule dictionaryLoopComplaint)]
  | setLoop =>
    choice [labelled "set comprehension" (seq [sign "\x7b", rule named, rule loops, sign "\x7d"]),
      detailed (rule loopComplaint)]
  | entry => choice [build (only .spread) (seq [sign "**", rule bitwiseOr]), keyAndValue]
  | member => choice [build (only .starred) (seq [sign "*", rule bitwiseOr]), rule named]
  | members => seq [separated (rule member) ",", optional (sign ",")]
  | named => choice [rule assignment, detailed (rule namedComplaint), unnamed]
  | assignment =>
    labelled "named expression" (seq [name, sign ":=", commit, rule expression])
  | lambda =>
    labelled "lambda"
      (seq [word "lambda", optional parameters, sign ":", rule expression])
  | yielded =>
    labelled "yield expression"
      (choice [seq [word "yield", word "from", rule expression],
        seq [word "yield", optional (rule starList)]])
  | starExpression =>
    choice [build (only .starred) (seq [sign "*", rule bitwiseOr]), rule expression]
  | starList => listOf (rule starExpression)
  | starArgument =>
    choice [build (only .starred) (seq [sign "*", rule expression]), always .loneStar (sign "*")]
  | arguments =>
    choice [seq [rule argumentList, optional (sign ","), ahead (sign ")")],
      detailed (rule argumentsComplaint)]
  | argumentList =>
    build .tuple
      (choice [
        seq [
          separated (choice [rule starArgument,
            seq [choice [rule assignment, unnamed], notAhead (sign "=")]]) ",",
          optional (seq [sign ",", rule namedArguments])],
        rule namedArguments])
  | namedArguments =>
    choice [seq [separated starOrNamed ",", sign ",", separated spreadOrNamed ","],
      separated starOrNamed ",", separated spreadOrNamed ","]
  | loops => labelled "loops" (seq [loop, many loop])
  | target =>
    choice [build (only .starred) (seq [sign "*", notAhead (sign "*"), rule target]),
      keep isTarget (rule primary), seq [sign "(", rule targets, sign ")"],
      build .tuple (seq [sign "(", sign ")"])]
  | targets => listOf (rule target)
  | expressionComplaint =>
    choice [
      complain commaComplaint
        (seq [notAhead (choice [seq [name, quotation], softWord]), rule disjunction,
          plainly (choice [conditional, rule disjunction, rule lambda])]),
      always .elseMissing
        (seq [rule disjunction, word "if", rule disjunction,
          notAhead (choice [word "else", sign ":"])])]
  | statementComplaint =>
    complain (aboutFirst statementComplaintOf) (seq [name, notAhead (sign "("), rule starList])
  | namedComplaint =>
    choice [
      complain (aboutFirst fun t => some (.named t.label))
        (seq [rule expression, sign ":=", rule expression]),
      always .singleEquals (seq [name, sign "=", rule bitwiseOr, noFurtherEquals]),
      complain (aboutFirst fun t => some (.comparedWithEquals t.label))
        (seq [notAhead (choice ([rule tuple, rule generator] ++ constants)), rule bitwiseOr, sign "=",
          rule bitwiseOr, noFurtherEquals])]
  | groupComplaint =>
    choice [always .starred (seq [sign "(", rule starArgument, sign ")"]),
      always .doubleStarred (seq [sign "(", sign "**", rule expression, sign ")"])]
  | loopComplaint =>
    choice [
      always .starredInLoop
        (seq [choice [sign "(", sign "\x7b"], rule starArgument, rule loops]),
      always .bareTuple
        (seq [sign "\x7b", rule member, sign ",", rule members, rule loops]),
      always .bareTuple (seq [sign "\x7b", rule member, sign ",", rule loops])]
  | dictionaryLoopComplaint =>
    always .spreadInLoop
      (seq [sign "\x7b", sign "**", rule bitwiseOr, rule loops, sign "\x7d"])
  | entriesComplaint =>
    choice (seq [separated (rule entry) ",", sign ",", rule entryComplaint] :: valueComplaints)
  | entryComplaint =>
    choice (always .colonMissing (seq [rule expression, notAhead (sign ":")]) :: valueComplaints)
  | argumentsComplaint =>
    choice [always .starAfterSpread (seq [rule argumentList, sign ",", sign "*"]),
      always .bareLoop
        (seq [rule expression, rule loops, sign ",",
          optional (choice [rule argumentList, seq [rule expression, rule loops]])]),
      always .singleEquals (seq [name, sign "=", rule expression, rule loops]),
      complain (aboutFirst generatorComplaintOf) (seq [rule argumentList, rule loops]),
      always .bareLoop (seq [rule argumentList, sign ",", rule expression, rule loops]),
      complain (aboutFirst orderComplaintOf)
        (seq [rule argumentList, sign ",", rule argumentList])]
  | keywordComplaint =>
    choice [
      complain (aboutFirst fun t => some (.assigned t.label)) (seq [choice constants, sign "="]),
      always .singleEquals (seq [name, sign "=", rule expression, rule loops]),
      always .assignedArgument
        (seq [notAhead (seq [name, sign "="]), rule expression, sign "="])]
  | targetComplaint =>
    complain (aboutFirst fun t => t.unassignable?.map fun t => .assigned t.label)
      (seq [optional (word "async"), word "for", rule starList])

/-- Rules whose matches are remembered, since several ways of other rules start with them. -/
def isRemembered : Rule → Bool
  | expression | disjunction | conjunction | inversion | bitwiseOr | bitwiseXor | bitwiseAnd => true
  | shift | sum | term | factor | awaited | primary | arguments | starExpression | target => true
  | namedComplaint => true
  | _ => false

end Rule

end AccountRelay.Expression
