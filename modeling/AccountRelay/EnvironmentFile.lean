import AccountRelay.Text.Blank
/-!
# The environment file

An environment file assigns values to variables, one on each line: `NAME=value`, or a name alone. A
word `export` may stand before the name, and a comment after the value. Values may be quoted.
Quoted values may go on over several lines, and a backslash gives some symbols of theirs another
meaning. A line that cannot be read is skipped.

A value may refer to variables, those of the environment and those of the lines before it. A
reference may hold a default for a variable that does not exist.
-/

namespace AccountRelay

/-- Variables in the order in which they are set. A variable may be named and have no value. -/
abbrev Variables := List (Text × Option Text)

namespace EnvironmentFile

/-! ## Lines -/

def withNewlines : Text → Text
  | [] => []
  | .char '\r' :: .char '\n' :: rest => .char '\n' :: withNewlines rest
  | .char '\r' :: rest => .char '\n' :: withNewlines rest
  | c :: rest => c :: withNewlines rest

def isNewline (c : Symbol) : Bool := c = .char '\n'

def isGap (c : Symbol) : Bool := Text.isBlank c && !isNewline c

def nextLine (t : Text) : Text := (t.dropWhile fun c => !isNewline c).drop 1

/-- What follows a line of which at most a comment is left; nothing if something else is. -/
def endLine? (t : Text) : Option Text :=
  match t.dropWhile isGap with
  | [] => some []
  | .char '\n' :: rest => some rest
  | .char '#' :: rest => some (nextLine rest)
  | _ => none

/-! ## Values -/

/-- What stands before the closing quote, and what follows it. A quote behind a backslash does not
close, unless no other one does. -/
def closing? (quote : Symbol) : Text → Option (Text × Text)
  | [] => none
  | c :: rest =>
    if c = quote then some ([], rest)
    else match c, rest with
      | .char '\\', d :: after =>
        if d = quote then
          match closing? quote after with
          | some (value, after) => some (c :: d :: value, after)
          | none => some ([c], after)
        else (closing? quote (d :: after)).map fun (value, after) => (c :: value, after)
      | c, rest => (closing? quote rest).map fun (value, after) => (c :: value, after)

def doubleEscape? : Symbol → Option Symbol
  | .char '\\' => some (.char '\\')
  | .char '\'' => some (.char '\'')
  | .char '"' => some (.char '"')
  | .char 'a' => some (.char '\x07')
  | .char 'b' => some (.char '\x08')
  | .char 'f' => some (.char '\x0c')
  | .char 'n' => some (.char '\n')
  | .char 'r' => some (.char '\r')
  | .char 't' => some (.char '\t')
  | .char 'v' => some (.char '\x0b')
  | _ => none

def singleEscape? : Symbol → Option Symbol
  | .char '\\' => some (.char '\\')
  | .char '\'' => some (.char '\'')
  | _ => none

def unescape (escape? : Symbol → Option Symbol) : Text → Text
  | [] => []
  | [c] => [c]
  | .char '\\' :: c :: rest =>
    match escape? c with
    | some d => d :: unescape escape? rest
    | none => .char '\\' :: unescape escape? (c :: rest)
  | c :: d :: rest => c :: unescape escape? (d :: rest)

/-- A bare value ends before a number sign that follows a blank. -/
def beforeComment : Text → Text
  | [] => []
  | c :: .char '#' :: rest => if Text.isBlank c then [] else c :: beforeComment (.char '#' :: rest)
  | c :: rest => c :: beforeComment rest

/-- The value behind an equals sign, and what follows it. Nothing if a quote is not closed. -/
def value? (t : Text) : Option (Text × Text) :=
  match t.dropWhile isGap with
  | .char '\'' :: rest =>
    (closing? (.char '\'') rest).map fun (value, after) => (unescape singleEscape? value, after)
  | .char '"' :: rest =>
    (closing? (.char '"') rest).map fun (value, after) => (unescape doubleEscape? value, after)
  | _ =>
    let (line, after) := t.span fun c => !isNewline c
    some (Text.trim (beforeComment line), after)

/-! ## Assignments -/

def name? : Text → Option (Text × Text)
  | .char '\'' :: rest =>
    match rest.span (· ≠ .char '\'') with
    | (c :: name, _ :: after) => some (c :: name, after)
    | _ => none
  | t =>
    match t.span fun c => !Text.isBlank c && c ≠ .char '=' && c ≠ .char '#' with
    | ([], _) => none
    | (name, after) => some (name, after)

/-- What follows the word `export`, if it is there and a gap separates it from something. -/
def skipExport (t : Text) : Text :=
  if t.startsWith "export" then
    let rest := t.drop 6
    if rest.head?.any isGap then rest.dropWhile isGap else t
  else t

def assignment? (t : Text) : Option ((Text × Option Text) × Text) := do
  let (name, rest) ← name? (skipExport t)
  match rest.dropWhile isGap with
  | .char '=' :: rest =>
    let (value, rest) ← value? rest
    return ((name, some value), ← endLine? rest)
  | rest => return ((name, none), ← endLine? rest)

/-- Where reading goes on after an assignment that cannot be read: behind the line that the fault is
on. -/
def afterFault (t : Text) : Text :=
  let t := skipExport t
  match name? t with
  | none => nextLine t
  | some (_, rest) =>
    match rest.dropWhile isGap with
    | .char '=' :: rest =>
      match value? rest with
      | none => nextLine (rest.dropWhile isGap)
      | some (_, rest) => nextLine rest
    | rest => nextLine rest

def assignmentsFrom : Nat → Text → Variables
  | 0, _ => []
  | steps + 1, t =>
    match t.dropWhile Text.isBlank with
    | [] => []
    | .char '#' :: rest => assignmentsFrom steps (nextLine rest)
    | t => match assignment? t with
      | some (assignment, rest) => assignment :: assignmentsFrom steps rest
      | none => assignmentsFrom steps (afterFault t)

/-- The assignments of a file. A byte order mark before them does not count. -/
def assignments (content : Text) : Variables :=
  let t := withNewlines content
  assignmentsFrom (t.length + 1) (if t.head? = some (.char (Char.ofNat 0xFEFF)) then t.drop 1 else t)

/-! ## References -/

def reference? (t : Text) : Option ((Text × Option Text) × Text) :=
  match t.span fun c => c ≠ .char '\x7d' && c ≠ .char ':' with
  | (name, .char '\x7d' :: after) => some ((name, none), after)
  | (name, .char ':' :: .char '-' :: rest) =>
    match rest.span (· ≠ .char '\x7d') with
    | (default, _ :: after) => some ((name, some default), after)
    | _ => none
  | _ => none

/-- What a variable is set to. A variable of the file hides that of the environment, even if it has
no value. -/
def lookup (environment file : Variables) (name : Text) : Option (Option Text) :=
  file.lookup name <|> environment.lookup name

def resolve (environment file : Variables) (name : Text) (default : Option Text) : Text :=
  match lookup environment file name with
  | some value => value.getD []
  | none => default.getD []

def expandFrom (environment file : Variables) : Nat → Text → Text
  | 0, t => t
  | _, [] => []
  | steps + 1, .char '$' :: .char '\x7b' :: rest =>
    match reference? rest with
    | some ((name, default), after) =>
      resolve environment file name default ++ expandFrom environment file steps after
    | none => .char '$' :: .char '\x7b' :: expandFrom environment file steps rest
  | steps + 1, c :: rest => c :: expandFrom environment file steps rest

def expand (environment file : Variables) (value : Text) : Text :=
  expandFrom environment file (value.length + 1) value

/-- Sets a variable, which keeps its place if it is there already. -/
def set (vars : Variables) (name : Text) (value : Option Text) : Variables :=
  if vars.any fun var => var.1 = name then
    vars.map fun var => if var.1 = name then (name, value) else var
  else vars ++ [(name, value)]

def evaluate (environment : Variables) (content : Text) : Variables :=
  (assignments content).foldl (fun file (name, value) =>
    set file name (value.map (expand environment file))) []

end EnvironmentFile

end AccountRelay
