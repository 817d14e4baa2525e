import AccountRelay.Text
/-!
# Command line arguments

Arguments are options and operands. A long option may carry its value behind an equals sign; short
ones may be joined, and the first of them that takes a value takes the rest of the argument. An
option without a value of its own takes the next argument, whatever that looks like. Two hyphens end
the options.

Where options and operands must not mix, the first operand ends the options, and everything from
there on is left to a subcommand.
-/

namespace AccountRelay

structure OptionSpec where
  key : String
  on : List Text
  off : List Text
  takesValue : Bool
  deriving Repr

inductive Given where
  | flag (b : Bool)
  | value (t : Text)
  deriving DecidableEq, Repr

structure Arguments where
  options : List (String × Given)
  operands : List Text
  deriving DecidableEq, Repr

namespace Arguments

/-- The options in one argument, and the option that takes its value from the next argument. -/
structure Reading where
  options : List (String × Given)
  waiting : Option String

def named? (specs : List OptionSpec) (name : Text) : Option (OptionSpec × Bool) :=
  specs.findSome? fun spec =>
    if name ∈ spec.on then some (spec, true)
    else if name ∈ spec.off then some (spec, false)
    else none

def readLong (specs : List OptionSpec) (arg : Text) : Option Reading :=
  let (name, value?) := match arg.splitFirst (.char '=') with
    | some (name, value) => (name, some value)
    | none => (arg, none)
  match named? specs name, value? with
  | none, _ => none
  | some (spec, set), none =>
    if spec.takesValue then some ⟨[], some spec.key⟩ else some ⟨[(spec.key, .flag set)], none⟩
  | some (spec, _), some value =>
    if spec.takesValue then some ⟨[(spec.key, .value value)], none⟩ else none

def readShort (specs : List OptionSpec) : Text → Option Reading
  | [] => some ⟨[], none⟩
  | letter :: rest =>
    match named? specs [.char '-', letter] with
    | none => none
    | some (spec, set) =>
      if spec.takesValue then
        if rest = [] then some ⟨[], some spec.key⟩ else some ⟨[(spec.key, .value rest)], none⟩
      else (readShort specs rest).map fun r => { r with options := (spec.key, .flag set) :: r.options }

def add (options : List (String × Given)) (operands : List Text) (a : Arguments) : Arguments :=
  ⟨options ++ a.options, operands ++ a.operands⟩

/-- Reads all arguments, or none if one of them is no option or lacks its value. -/
def parse (specs : List OptionSpec) (mixed : Bool) : List Text → Option Arguments
  | [] => some ⟨[], []⟩
  | arg :: rest =>
    match arg with
    | [.char '-', .char '-'] => some ⟨[], rest⟩
    | .char '-' :: c :: letters =>
      match if c = .char '-' then readLong specs arg else readShort specs (c :: letters) with
      | none => none
      | some ⟨options, none⟩ => (parse specs mixed rest).map (add options [])
      | some ⟨options, some key⟩ =>
        match rest with
        | [] => none
        | value :: rest => (parse specs mixed rest).map (add (options ++ [(key, .value value)]) [])
    | _ => if mixed then (parse specs mixed rest).map (add [] [arg]) else some ⟨[], arg :: rest⟩

def given? (a : Arguments) (key : String) : Option Given :=
  (a.options.reverse.find? fun option => option.1 == key).map Prod.snd

def flag (a : Arguments) (key : String) : Bool := a.given? key = some (.flag true)

def value? (a : Arguments) (key : String) : Option Text :=
  match a.given? key with
  | some (.value t) => some t
  | _ => none

end Arguments

end AccountRelay
