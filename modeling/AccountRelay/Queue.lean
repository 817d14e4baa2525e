import AccountRelay.Entry
import AccountRelay.Lock
import AccountRelay.Text.Numeral
/-!
# The queue

A queue keeps changes that could not, or should not yet, be delivered. It is a directory with one
file for each change. Searching the directory and creating an entry happen under the directory lock.
Entries are created under names that did not exist, are never modified, and are removed one by one.

Within a second, the entries of one key are numbered from zero. A new entry takes the number after
the highest that is there, so that names in ascending order are in the order of creation.
-/

namespace AccountRelay

structure Queue where
  /-- The configured directory, if there is one. -/
  configured : Option Path
  deriving DecidableEq, Repr

namespace Queue

def entryMode : Nat := 0o600

def ofText (directory : Option Text) : Queue := ⟨directory.map Path.ofText⟩

def directory (q : Queue) : Act Path :=
  match q.configured with
  | some directory => pure directory
  | none => throw (.config .queueMissing)

def path (q : Queue) (name : Text) : Act Path := do return (← q.directory).join name

def display (q : Queue) : Text :=
  "<QueueStore(" ++ ((q.configured.map Path.toText).getD "None") ++ ")>"

/-! ## Conflicts -/

def scan (directory : Path) (key : Text) : Act Bool := do
  return (← Act.search directory).any fun (name, _) => name.startsWith key

def hasPending (q : Queue) (key : Text) : Act Bool := do
  let directory ← q.directory
  withLock directory (scan directory key)

def isPending (q : Queue) (who : Who) (domain operation : Text) : Act Bool := do
  q.hasPending (← Act.orFault (conflictKey who domain operation))

/-! ## New entries -/

/-- The sequence number after that of a name, if the name is the stem and a numeral. -/
def sequenceAfter (stem name : Text) : Except Fault Nat :=
  let suffix : Text := name.drop stem.length
  if name.startsWith stem ∧ suffix.isNumeral then
    match suffix.number? with
    | some n => .ok (n + 1)
    | none => .error (.notANumber suffix)
  else .ok 0

/-- The first sequence number above those of all names with the stem. -/
def sequenceAmong (stem : Text) : List Text → Except Fault Nat
  | [] => .ok 0
  | name :: rest => do return max (← sequenceAfter stem name) (← sequenceAmong stem rest)

def freeSequence (directory : Path) (key second : Text) : Act Nat := do
  let found ← Act.search directory
  Act.orFault (sequenceAmong (key ++ second ++ "-") (found.map Prod.fst))

/-- Creates the entry under the first free sequence number, of which `tries` are left. -/
def createFrom (directory : Path) (key second : Text) (content : Bytes) (sequence : Nat) :
    Nat → Act Text
  | 0 => throw (.storage (.tooMany (key ++ second)))
  | tries + 1 => do
    let entry := directory.join (EntryName.compose key second sequence)
    Act.record (.creating entry)
    match (← Act.ask Host.files).create entryMode content entry with
    | .ok files =>
      Act.change fun h => { h with files := files }
      return entry.name
    -- The directory was read before, and the number may have been taken since.
    | .error .alreadyExists => createFrom directory key second content (sequence + 1) tries
    | .error e => throw (.storage (.createEntry entry e))

def content? (c : Change) : Option Bytes :=
  Text.encode? (c.lines.flatMap fun line => line ++ [.char '\n'])

/-- Writes an entry for the change, with the lock held. Without a moment it is now. -/
def write (directory : Path) (c : Change) (moment : Option Moment) : Act Text := do
  let some content := content? c | throw (.storage (.encoding c.account))
  let some second := (moment.getD (← Act.ask Host.clock)).stamp? | throw .dateRange
  let sequence ← freeSequence directory c.key second
  createFrom directory c.key second content sequence (sequenceBound - sequence)

def enqueue (q : Queue) (c : Change) (moment : Option Moment) : Act Text := do
  let directory ← q.directory
  let name ← withLock directory (write directory c moment)
  Act.log .info ("Queued " ++ c.operation.word.cited ++ " for " ++ c.account.cited)
  return name

/-- Puts the change into the queue if there is an entry with its key. -/
def enqueueBehind (q : Queue) (c : Change) (moment : Option Moment) : Act (Option Text) := do
  let directory ← q.directory
  let name ← withLock directory do
    if ← scan directory c.key then return some (← write directory c moment) else return none
  if name.isSome then
    Act.log .info ("Queued " ++ c.operation.word.cited ++ " for " ++ c.account.cited
      ++ " behind pending change")
  return name

/-! ## Entries -/

def listed (found : List (Text × Node)) : List Text :=
  let names := found.filterMap fun (name, node) =>
    match node with
    | .file _ _ => if EntryName.isListed name then some name else none
    | .directory => none
  Text.sort names

def entries (q : Queue) : Act (List Text) := do
  let directory ← q.directory
  withLock directory do return listed (← Act.search directory)

def read (q : Queue) (name : Text) : Act Entry := do Entry.read (← q.path name)

def delete (q : Queue) (name : Text) : Act Unit := do Entry.remove (← q.path name)

end Queue

end AccountRelay
