import AccountRelay.Console.Fault
import AccountRelay.Issue
import AccountRelay.OsError
import AccountRelay.Path
import AccountRelay.Text.Quoted
import AccountRelay.Text.Utf8
/-!
# Failures

A failure ends an operation. It is one of the causes below, each with its own text; `kind` is the
class by which callers decide what to do about it. Failures that involve the operating system carry
its error, whose text follows the message.

Backends report failures of their own, as a kind and a message.
-/

namespace AccountRelay

inductive ConfigProblem where
  | queueMissing
  | deliveryMissing
  /-- The text does not name a module and a member of it. -/
  | importPath (text : Text)
  /-- `missing` is the first part of the module's name that is no module, and `parent` the module
  that would have to hold it. -/
  | noModule (name missing : Text) (parent : Option Text)
  | notCallable (text : Text)
  deriving DecidableEq, Repr

def ConfigProblem.message : ConfigProblem → Text
  | queueMissing => "configuration setting queue_dir missing"
  | deliveryMissing => "configuration setting delivery missing"
  | importPath text => "Invalid delivery import path: " ++ text.cited
  | noModule name missing parent =>
    "Cannot import delivery module " ++ name.cited ++ ": No module named " ++ missing.quoted
      ++ match parent with
        | none => []
        | some parent => "; " ++ parent.quoted ++ " is not a package"
  | notCallable text => "Delivery " ++ text.cited ++ " is not callable"

inductive StorageProblem where
  | lockFile (path : Path) (e : OsError)
  | openDirectory (path : Path) (e : OsError)
  | openOutput (path : Path) (e : OsError)
  | createEntry (path : Path) (e : OsError)
  | readEntry (path : Path) (e : OsError)
  /-- The file is cited as it was given. -/
  | unlinkEntry (file : Text) (e : OsError)
  /-- All sequence numbers of a key and second are taken. -/
  | tooMany (keyAndSecond : Text)
  | encoding (account : Text)
  /-- The caller itself holds the lock that it waits for. -/
  | lockHeld (path : Path)
  deriving DecidableEq, Repr

namespace StorageProblem

def message : StorageProblem → Text
  | lockFile path _ => "cannot open lock file " ++ path.toText
  | openDirectory path _ => "cannot open " ++ path.toText
  | openOutput path _ => "cannot open " ++ path.toText
  | createEntry path _ => "cannot create queue file " ++ path.toText
  | readEntry path _ => "cannot read queue file " ++ path.toText
  | unlinkEntry file _ => "unable to unlink queue file " ++ file
  | tooMany keyAndSecond => "too many queue files for " ++ keyAndSecond
  | encoding account => "cannot encode change for " ++ account
  | lockHeld path => "waiting for lock file " ++ path.toText

def osError? : StorageProblem → Option OsError
  | lockFile _ e => some e
  | openDirectory _ e => some e
  | openOutput _ e => some e
  | createEntry _ e => some e
  | readEntry _ e => some e
  | unlinkEntry _ e => some e
  | tooMany _ => none
  | encoding _ => none
  | lockHeld _ => none

end StorageProblem

inductive ParseProblem where
  | missingLine (file : Path)
  | unterminatedLine (file : Path)
  | unknownDomain (word : Text) (file : Path)
  | unknownOperation (word : Text) (file : Path)
  | undecodable (file : Path) (f : Text.DecodeFault)
  | account (account : Text) (f : Fault)
  | principal (name : Text) (f : Fault)
  | change (operation name : Text) (problems : List Problem)
  deriving DecidableEq, Repr

def ParseProblem.message : ParseProblem → Text
  | missingLine file => "missing line in queue file " ++ file.toText
  | unterminatedLine file => "unterminated line in queue file " ++ file.toText
  | unknownDomain word file =>
    "unknown target system " ++ word ++ " in queue file " ++ file.toText
  | unknownOperation word file => "unknown action " ++ word ++ " in queue file " ++ file.toText
  | undecodable file f => "cannot decode queue file " ++ file.toText ++ ": " ++ f.message
  | account name f => "cannot parse user " ++ name ++ " into principal: " ++ f.message
  | principal name f => "cannot parse " ++ name ++ " into principal: " ++ f.message
  | change operation name problems =>
    "invalid " ++ operation ++ " change for " ++ name ++ ": "
      ++ Text.join "; " (problems.map Problem.message)

inductive FailureKind where
  | value
  | overflow
  | validation
  | config
  | system
  | parse
  | delivery
  | sync
  | runtime
  | type
  | markup
  deriving DecidableEq, Repr

def FailureKind.label : FailureKind → Text
  | value => "ValueError"
  | overflow => "OverflowError"
  | validation => "ValidationError"
  | config => "ConfigError"
  | system => "SyncSystemError"
  | parse => "ParseError"
  | delivery => "DeliveryError"
  | sync => "SyncError"
  | runtime => "RuntimeError"
  | type => "TypeError"
  | markup => "MarkupError"

inductive Failure where
  | fault (f : Fault)
  /-- A moment whose UTC date the calendar does not have. -/
  | dateRange
  | invalid (issues : List Issue)
  | config (p : ConfigProblem)
  /-- The name of a module that is to be found from another one, where there is no other one. -/
  | relativeModule (name : Text)
  | storage (p : StorageProblem)
  | parse (p : ParseProblem)
  | undelivered (count : Nat)
  | unprintable (f : Console.MarkupFault)
  | reported (kind : FailureKind) (message : Text) (cause : Option OsFailure)
  deriving DecidableEq, Repr

def FailureKind.isSync : FailureKind → Bool
  | config => true
  | system => true
  | parse => true
  | delivery => true
  | sync => true
  | _ => false

namespace Failure

def kind : Failure → FailureKind
  | fault _ => .value
  | dateRange => .overflow
  | invalid _ => .validation
  | config _ => .config
  | relativeModule _ => .type
  | storage _ => .system
  | parse _ => .parse
  | undelivered _ => .delivery
  | unprintable (.style _) => .value
  | unprintable _ => .markup
  | reported kind _ _ => kind

def message : Failure → Text
  | fault f => f.message
  | dateRange => "date value out of range"
  | invalid issues => Text.join "; " (issues.map fun issue => issue.problem.message)
  | config p => p.message
  | relativeModule name =>
    "the 'package' argument is required to perform a relative import for " ++ name.quoted
  | storage p => p.message
  | parse p => p.message
  | undelivered count => Text.decimal count ++ " queued change(s) failed"
  | unprintable f => f.message
  | reported _ message _ => message

def cause? : Failure → Option OsFailure
  | storage p => p.osError?.map OsError.failure
  | reported _ _ cause => cause
  | _ => none

def text (e : Failure) : Text :=
  match e.cause? with
  | none => e.message
  | some cause => e.message ++ ": " ++ cause.text

def report (e : Failure) : Text := e.kind.label ++ ": " ++ e.text

end Failure

end AccountRelay
