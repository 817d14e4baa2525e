import AccountRelay.Decimal
import AccountRelay.Text.Quoted
/-!
# Values before validation

Settings and the fields of a change arrive as values of any type. A value is checked field by field,
and an empty text counts as a missing value wherever a model says so.

Messages show values. A text is shown as it is, but quoted inside a list or a record.
-/

namespace AccountRelay

inductive Value where
  | null
  | bool (b : Bool)
  | whole (n : Int)
  | decimal (d : Decimal)
  | text (t : Text)
  | list (items : List Value)
  | record (fields : List (String × Value))
  deriving Repr, Inhabited

abbrev Record := List (String × Value)

def Record.get? (r : Record) (name : String) : Option Value :=
  (r.find? fun field => field.1 == name).map Prod.snd

namespace Value

def nullIfEmpty : Value → Value
  | text [] => null
  | v => v

/-- Values that say nothing: no value, false, zero, and texts, lists and records without content. -/
def isVoid : Value → Bool
  | null => true
  | bool b => !b
  | whole n => n = 0
  | decimal d => d.digits = 0
  | text t => t.isEmpty
  | list items => items.isEmpty
  | record fields => fields.isEmpty

/-- Whether calculations accept the value. Truth values count as one and zero. -/
def isNumeric : Value → Bool
  | bool _ => true
  | whole _ => true
  | decimal _ => true
  | _ => false

/-! ## Showing -/

mutual

def quoted : Value → Text
  | null => "None"
  | bool true => "True"
  | bool false => "False"
  | whole n => Text.integer n
  | decimal d => d.toText
  | text t => t.quoted
  | list items => "[" ++ Text.join ", " (quotedItems items) ++ "]"
  | record fields => "\x7b" ++ Text.join ", " (quotedFields fields) ++ "\x7d"

def quotedItems : List Value → List Text
  | [] => []
  | v :: rest => v.quoted :: quotedItems rest

def quotedFields : List (String × Value) → List Text
  | [] => []
  | (name, v) :: rest =>
    ((Text.ofString name).quoted ++ ": " ++ v.quoted) :: quotedFields rest

end

def toText : Value → Text
  | text t => t
  | v => v.quoted

end Value

end AccountRelay
