import AccountRelay.EnvironmentFile
import AccountRelay.Issue
import AccountRelay.Text.Case
/-!
# Settings

Each setting comes from the first of four sources that has it: an argument, an environment variable,
a variable of the environment file, the default. Arguments are named after the setting, variables
too but behind `KRB5_SYNC_`, both in letters of any case; of several such names the last one counts.

Settings are validated as a whole and do not change afterwards.
-/

namespace AccountRelay

structure Settings where
  queueDir : Option Text
  queueOnly : Bool
  realm : Option Text
  delivery : Option Text
  adInstances : List Text
  adBaseInstance : Option Text
  debug : Bool
  logLevel : Text
  deriving DecidableEq, Repr

/-- The last of some named things whose name is the given one in any case. -/
def lastNamed? {α : Type} (name : String) (things : List (Text × α)) : Option α :=
  (things.reverse.find? fun thing => Text.lower thing.1 = Text.ofString name).map Prod.snd

def Variables.value? (vars : Variables) (setting : String) : Option Text :=
  (lastNamed? ("krb5_sync_" ++ setting) vars).join

def Record.argument? (r : Record) (setting : String) : Option Value :=
  lastNamed? setting (r.map fun (name, v) => (Text.ofString name, v))

/-! ## Validation -/

namespace Checked

def boolOfWord? (t : Text) : Option Bool :=
  let word := Text.lower t
  if word ∈ (["1", "true", "t", "yes", "y", "on"].map Text.ofString) then some true
  else if word ∈ (["0", "false", "f", "no", "n", "off"].map Text.ofString) then some false
  else none

/-- Whole numbers are looked at only if they fit into 64 bits. -/
def wholeBound : Int := 0x8000000000000000

/-- The whole number that a value is, if it is one that is looked at. A decimal may not be the least
of them. -/
def whole? : Value → Option Int
  | .whole n => if -wholeBound ≤ n ∧ n < wholeBound then some n else none
  | .decimal d => d.whole?.filter fun n => -wholeBound < n ∧ n < wholeBound
  | _ => none

def bool (name : String) : Value → Checked Bool
  | .bool b => .ok b
  | .text t => match boolOfWord? t with
    | some b => .ok b
    | none => fail [.field name] .unreadableBool
  | v => match whole? v with
    | some 0 => .ok false
    | some 1 => .ok true
    | some _ => fail [.field name] .unreadableBool
    | none => fail [.field name] .notBool

def text (name : String) : Value → Checked Text
  | .text t => .ok t
  | _ => fail [.field name] .notText

/-- A list of texts, or one text with blanks between its words. -/
def words (name : String) : Value → Checked (List Text)
  | .text t => .ok (Text.words t)
  | v => texts name v

end Checked

namespace Settings

def names : List String :=
  ["queue_dir", "queue_only", "realm", "delivery", "ad_instances", "ad_base_instance", "debug",
    "log_level"]

/-- The settings that the given values make, each with its default. -/
def check (value? : String → Option Value) : Checked Settings :=
  let get name default := (value? name).getD default
  let fields :=
    (Checked.optionalText "queue_dir" (get "queue_dir" .null)).and <|
    (Checked.bool "queue_only" (get "queue_only" (.bool false))).and <|
    (Checked.optionalText "realm" (get "realm" .null)).and <|
    (Checked.optionalText "delivery" (get "delivery" .null)).and <|
    (Checked.words "ad_instances" (get "ad_instances" (.list []))).and <|
    (Checked.optionalText "ad_base_instance" (get "ad_base_instance" .null)).and <|
    (Checked.bool "debug" (get "debug" (.bool false))).and <|
    Checked.text "log_level" (get "log_level" (.text "INFO"))
  fields.map fun (queueDir, queueOnly, realm, delivery, adInstances, adBaseInstance, debug, logLevel) =>
    { queueDir, queueOnly, realm, delivery, adInstances, adBaseInstance, debug, logLevel }

def load (arguments : Record) (environment file : Variables) : Checked Settings :=
  check fun name =>
    arguments.argument? name <|> (environment.value? name).map .text <|> (file.value? name).map .text

def importPath? (s : Settings) : Option Text :=
  match s.delivery with
  | some [] => none
  | delivery => delivery

/-- Settings cannot be assigned to. Names that start with an underscore name no setting, and what is
assigned to them is not kept among the settings. -/
def assign (s : Settings) (name : String) (_ : Value) : Checked Settings :=
  if (Text.ofString name).startsWith "_" then .ok s else .fail [.field name] .frozen

end Settings

end AccountRelay
