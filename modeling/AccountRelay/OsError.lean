import AccountRelay.Value
/-!
# Errors of the operating system

The file system refuses a request for one of six reasons, each with its usual text. A delivery
backend may report further errors, given by two to five fields: a number, a reason, a file, a field
without meaning, and a second file. Only a whole number tells the kind of an error. Fields of any
other count are nothing but a description.

What an error says is its reason, or the description made of all fields where the reason is missing
or says nothing.
-/

namespace AccountRelay

inductive OsError where
  | notFound
  | alreadyExists
  | isDirectory
  | notDirectory
  | nameTooLong
  | accessDenied
  deriving DecidableEq, Repr

inductive OsKind where
  | notFound
  | permission
  | alreadyExists
  | isDirectory
  | notDirectory
  | wouldBlock
  | interrupted
  | noProcess
  | noChild
  | brokenPipe
  | connectionAborted
  | connectionReset
  | connectionRefused
  | timedOut
  | other
  deriving DecidableEq, Repr

structure OsFailure where
  kind : OsKind
  reason : Option Text
  description : Text
  deriving DecidableEq, Repr

namespace OsError

def kind : OsError → OsKind
  | notFound => .notFound
  | alreadyExists => .alreadyExists
  | isDirectory => .isDirectory
  | notDirectory => .notDirectory
  | nameTooLong => .other
  | accessDenied => .permission

def reason : OsError → Text
  | notFound => "No such file or directory"
  | alreadyExists => "File exists"
  | isDirectory => "Is a directory"
  | notDirectory => "Not a directory"
  | nameTooLong => "File name too long"
  | accessDenied => "Permission denied"

def failure (e : OsError) : OsFailure := ⟨e.kind, some e.reason, e.reason⟩

end OsError

def OsKind.ofNumber : Int → OsKind
  | 1 => .permission
  | 2 => .notFound
  | 3 => .noProcess
  | 4 => .interrupted
  | 10 => .noChild
  | 11 => .wouldBlock
  | 13 => .permission
  | 17 => .alreadyExists
  | 20 => .notDirectory
  | 21 => .isDirectory
  | 32 => .brokenPipe
  | 103 => .connectionAborted
  | 104 => .connectionReset
  | 108 => .brokenPipe
  | 110 => .timedOut
  | 111 => .connectionRefused
  | 114 => .wouldBlock
  | 115 => .wouldBlock
  | _ => .other

namespace OsFailure

/-- The kind that the first field tells. A truth value counts as a number. -/
def kindOf : Value → OsKind
  | .whole n => .ofNumber n
  | .bool true => .ofNumber 1
  | _ => .other

def given? (fields : List Value) (n : Nat) : Option Value :=
  match fields[n]? with
  | some .null => none
  | field => field

/-- The file that an error is about. Where it is that a request would have to wait, a number in its
place counts the bytes that were written. -/
def file? (kind : OsKind) (fields : List Value) : Option Value :=
  (given? fields 2).filter fun file => kind ≠ .wouldBlock || !file.isNumeric

/-- The files that an error is about, the second one only behind the first. -/
def filesText (kind : OsKind) (fields : List Value) : Text :=
  match file? kind fields with
  | none => []
  | some file => ": " ++ file.quoted ++ match given? fields 4 with
    | none => []
    | some second => " -> " ++ second.quoted

def ofFields : List Value → OsFailure
  | [] => ⟨.other, none, []⟩
  | [field] => ⟨.other, none, field.toText⟩
  | number :: reason :: rest =>
    let fields := number :: reason :: rest
    if rest.length ≤ 3 then {
      kind := kindOf number
      reason := if reason.isVoid then none else some reason.toText
      description := "[Errno " ++ number.toText ++ "] " ++ reason.toText
        ++ filesText (kindOf number) fields }
    else ⟨.other, none, "(" ++ Text.join ", " (Value.quotedItems fields) ++ ")"⟩

def text (e : OsFailure) : Text := e.reason.getD e.description

end OsFailure

end AccountRelay
