import AccountRelay.Principal
/-!
# Names of queue entries

An entry is a file named `<user>-<domain>-<class>-<second>-<sequence>`. Everything up to the second
is the conflict key: changes with the same key have to be delivered in the order they were made, and
the names of one key in ascending order are that order. The user part may hold hyphens, so a name is
taken apart from its end.
-/

namespace AccountRelay

def keyOf (user : Text) (domain : Domain) (changeClass : ChangeClass) : Text :=
  user ++ "-" ++ domain.word ++ "-" ++ changeClass.word ++ "-"

/-- The conflict key of a principal and two words. The domain is checked first, then the name, then
the operation. -/
def conflictKey (who : Who) (domain operation : Text) : Except Fault Text := do
  let some known := Domain.ofWord? domain | throw (.unknownDomain domain)
  let principal ← who.principal?
  return keyOf principal.user known (← ChangeClass.ofWord operation)

def sequenceBound : Nat := 100

namespace EntryName

def compose (key second : Text) (sequence : Nat) : Text :=
  key ++ second ++ "-" ++ Text.twoDigits sequence

def compose? (key second : Text) (sequence : Int) : Except Fault Text :=
  if 0 ≤ sequence ∧ sequence < sequenceBound then .ok (compose key second sequence.toNat)
  else .error (.sequenceRange sequence)

/-- The conflict key, without its last hyphen, the second and the sequence of a name. -/
def parts? (name : Text) : Option (Text × Text × Text) := do
  let (rest, sequence) ← Text.splitLast (.char '-') name
  let (stem, second) ← Text.splitLast (.char '-') rest
  return (stem, second, sequence)

def key? (name : Text) : Except Fault Text :=
  match parts? name with
  | some (stem, _, _) => .ok (stem ++ "-")
  | none => .error (.malformedEntryName name)

/-- Names that start with a dot, such as that of the lock file, are no entries. -/
def isListed (name : Text) : Bool := !name.startsWith "."

end EntryName

end AccountRelay
