import AccountRelay.Change
import AccountRelay.Failure
import AccountRelay.Host
/-!
# Queue entries

A queue entry is a file with one field on each line: account, domain, operation and, for a password
change, the password. What follows the last field is not looked at.

A line ends at a newline or at a carriage return, whichever comes first, and one after the other ends
one line. Fields have to end at a newline, so a field may hold one carriage return, as its last
symbol. A file is read and decoded one chunk at a time, as far as its fields reach. Bytes that cannot
be decoded matter if they stand in one of these chunks, and a character that the last chunk cuts off
matters only to a field that goes on behind it.
-/

namespace AccountRelay

structure Entry where
  path : Path
  account : Text
  domain : Domain
  operation : Operation
  password : Option Text
  deriving DecidableEq, Repr

namespace Entry

def name (e : Entry) : Text := e.path.name

def key? (e : Entry) : Except Fault Text := EntryName.key? e.name

def display (e : Entry) : Text := "<QueueEntry(" ++ e.name ++ ")>"

/-! ## Reading -/

inductive Line where
  | complete (line rest : Text)
  | broken
  /-- No end was found. A carriage return at the end of the text could still be followed by a
  newline. -/
  | unfinished
  deriving DecidableEq, Repr

def Line.extend (c : Symbol) : Line → Line
  | complete line rest => complete (c :: line) rest
  | broken => broken
  | unfinished => unfinished

def Line.first : Text → Line
  | [] => unfinished
  | .char '\n' :: rest => complete [] rest
  | .char '\r' :: .char '\n' :: rest => complete [.char '\r'] rest
  | [.char '\r'] => unfinished
  | .char '\r' :: _ :: _ => broken
  | c :: rest => (first rest).extend c

def chunkSize : Nat := 8192

/-- The bytes in chunks, of which only the last one may be shorter than the others. -/
def chunks (bytes : Bytes) : List Bytes :=
  let count := (bytes.length + (chunkSize - 1)) / chunkSize
  (List.range count).map fun n => (bytes.drop (n * chunkSize)).take chunkSize

/-- What is left of a file: the text that has been decoded and not yet taken, what has been read of the
character behind it, and the chunks behind that. -/
structure Unread where
  text : Text
  held : Option Text.Partial
  chunks : List Bytes

def Unread.ofBytes (bytes : Bytes) : Unread := ⟨[], none, Entry.chunks bytes⟩

def atEnd (file : Path) (text : Text) : Option Text.Partial → ParseProblem
  | some p => .undecodable file p.atEnd
  | none => if text = [] then .missingLine file else .unterminatedLine file

/-- Takes the first line, for which as many chunks are decoded as it needs. -/
def lineFrom (file : Path) :
    Text → Option Text.Partial → List Bytes → Except ParseProblem (Text × Unread)
  | text, held, chunks =>
    match Line.first text, chunks with
    | .complete line rest, chunks => .ok (line, ⟨rest, held, chunks⟩)
    | .broken, _ => .error (.unterminatedLine file)
    | .unfinished, [] => .error (atEnd file text held)
    | .unfinished, chunk :: chunks =>
      match Text.decodeFrom held chunk with
      | .error f => .error (.undecodable file f)
      | .ok (more, held) => lineFrom file (text ++ more) held chunks

def nextLine (file : Path) (u : Unread) : Except ParseProblem (Text × Unread) :=
  lineFrom file u.text u.held u.chunks

def fields (file : Path) (bytes : Bytes) : Except ParseProblem Entry := do
  let (account, unread) ← nextLine file (.ofBytes bytes)
  let (word, unread) ← nextLine file unread
  let some domain := Domain.ofWord? word | throw (.unknownDomain word file)
  let (word, unread) ← nextLine file unread
  let some operation := Operation.ofWord? word | throw (.unknownOperation word file)
  match operation with
  | .password =>
    let (password, _) ← nextLine file unread
    return ⟨file, account, domain, operation, if password = [] then none else some password⟩
  | _ => return ⟨file, account, domain, operation, none⟩

/-- The entry that a file holds. Its account has to be there. -/
def ofBytes (file : Path) (bytes : Bytes) : Except Failure Entry :=
  match fields file bytes with
  | .error p => .error (.parse p)
  | .ok e => if e.account = [] then .error (.invalid [⟨[.field "account"], .notText⟩]) else .ok e

def read (file : Path) : Act Entry := do Act.ofResult (ofBytes file (← Act.readFile file))

def remove (file : Path) (refusal : FileSystem.Refusal := .never) : Act Unit :=
  Act.unlink file file.toText refusal

def leadsToDirectory (written : Text) : Bool :=
  match written.reverse with
  | .char '/' :: _ => true
  | .char '.' :: .char '/' :: _ => true
  | _ => false

/-- Removes the file at a written path, which is taken literally: an empty one leads nowhere, and one
that ends in a slash does not lead to a file. -/
def removeAt (written : Text) : Act Unit := do
  let path := Path.ofText written
  Act.requireName path
  if written = [] then throw (.storage (.unlinkEntry written .notFound))
  if FileSystem.maxPath < written.byteLength then
    throw (.storage (.unlinkEntry written .nameTooLong))
  if leadsToDirectory written then
    match (← Act.ask Host.files).unlink path with
    | .ok _ => throw (.storage (.unlinkEntry written .notDirectory))
    | .error e => throw (.storage (.unlinkEntry written e))
  Act.unlink path written

end Entry

end AccountRelay
