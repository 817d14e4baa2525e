import AccountRelay.Arguments
import AccountRelay.Console
import AccountRelay.Destination
import AccountRelay.Propagate
import AccountRelay.Replay
/-!
# The command line

Subcommands deliver a change or one queue file directly (`sync`), propagate a change (`propagate`),
and list, query and drain the queue (`queue ls`, `queue check`, `queue drain`). Options before the
subcommand show the version or the settings and choose the queue directory.

The arguments of a subcommand are read after the settings have been loaded. What goes wrong while a
subcommand runs is reported on the console.
-/

namespace AccountRelay

inductive Command where
  | syncFile (file : Text)
  | sync (user : Text) (enabled : Option Bool) (password : Option Text)
  | propagate (user : Text) (enabled : Option Bool) (password : Option Text)
  | list (output : Text)
  | check (user domain operation : Text)
  | drain
  deriving DecidableEq, Repr

inductive Ending where
  | done
  | shown (text : Text)
  | usage (message : Option Text)
  | failed (kind : FailureKind)
  deriving DecidableEq, Repr

def Ending.exitCode : Ending → Nat
  | done => 0
  | shown _ => 0
  | failed _ => 1
  | usage _ => 2

namespace Command

def version : Text := "0.1.0"

def helpText : Text :=
  "Usage: krb5-sync [--version] [--settings] [--queue-dir DIR] COMMAND\n\n"
    ++ "  sync [-e | -d] [-p PASSWORD] USER       deliver a change directly\n"
    ++ "  sync -f FILE                            replay one queue file\n"
    ++ "  propagate [-e | -d] [-p PASSWORD] USER  deliver a change or queue it\n"
    ++ "  queue ls [-o FILE]                      list pending entries\n"
    ++ "  queue check [--operation OPERATION] [--domain DOMAIN] USER\n"
    ++ "  queue drain                             replay all pending entries\n"

def settingsText (s : Settings) : Text :=
  let optional (t : Option Text) : Text := t.getD []
  let truth (b : Bool) : Text := if b then "true" else "false"
  "queue_dir=" ++ optional s.queueDir ++ "\nqueue_only=" ++ truth s.queueOnly
    ++ "\nrealm=" ++ optional s.realm ++ "\ndelivery=" ++ optional s.delivery
    ++ "\nad_instances=" ++ Text.join " " s.adInstances
    ++ "\nad_base_instance=" ++ optional s.adBaseInstance
    ++ "\ndebug=" ++ truth s.debug ++ "\nlog_level=" ++ s.logLevel ++ "\n"

/-! ## Reading the arguments -/

def option (key : String) (on : List Text) (takesValue : Bool) : OptionSpec :=
  ⟨key, on, [], takesValue⟩

def helpOption : OptionSpec := option "help" ["--help"] false

def programOptions : List OptionSpec :=
  [helpOption, ⟨"version", ["--version"], ["--no-version"], false⟩,
    ⟨"settings", ["--settings"], ["--no-settings"], false⟩,
    option "queue_dir" ["--queue-dir"] true]

def changeOptions : List OptionSpec :=
  [helpOption, option "enable" ["-e", "--enable"] false, option "disable" ["-d", "--disable"] false,
    option "password" ["-p", "--password"] true]

def syncOptions : List OptionSpec := option "file" ["-f", "--file"] true :: changeOptions

def listOptions : List OptionSpec := [helpOption, option "output" ["-o"] true]

def checkOptions : List OptionSpec :=
  [helpOption, option "operation" ["--operation"] true, option "domain" ["--domain"] true]

/-- Reads the arguments of a subcommand that has at most `limit` operands. -/
def readArguments (specs : List OptionSpec) (limit : Nat) (args : List Text) :
    Except Ending Arguments :=
  match Arguments.parse specs true args with
  | none => .error (.usage none)
  | some a =>
    if a.flag "help" then .error (.shown helpText)
    else if limit < a.operands.length then .error (.usage none)
    else .ok a

def usage {α : Type} (message : Text) : Except Ending α := .error (.usage (some message))

/-- The change of status that the options ask for, once it is clear that they ask for something. -/
def status (a : Arguments) : Except Ending (Option Bool) :=
  match a.flag "enable", a.flag "disable" with
  | true, true => usage "cannot specify both -d and -e"
  | true, false => .ok (some true)
  | false, true => .ok (some false)
  | false, false =>
    if (a.value? "password").isSome then .ok none else usage "no action specified"

def hasNul (t : Text) : Bool := (Path.ofText t).hasNul

def readSync (args : List Text) : Except Ending Command := do
  let a ← readArguments syncOptions 1 args
  if (a.value? "file").any hasNul then throw (.usage none)
  match a.value? "file", a.operands with
  | some _, _ :: _ => usage "Usage: krb5-sync sync -f <file>"
  | some file, [] =>
    if a.flag "enable" || a.flag "disable" || (a.value? "password").isSome then
      usage "must specify queue file or action, not both"
    else return .syncFile file
  | none, [] => usage "Usage: krb5-sync sync [-d | -e] [-p <pass>] <user>"
  | none, user :: _ => return .sync user (← status a) (a.value? "password")

def readPropagate (args : List Text) : Except Ending Command := do
  let a ← readArguments changeOptions 1 args
  match a.operands with
  | [] => throw (.usage none)
  | user :: _ => return .propagate user (← status a) (a.value? "password")

def readList (args : List Text) : Except Ending Command := do
  let a ← readArguments listOptions 0 args
  return .list ((a.value? "output").getD "-")

def readCheck (args : List Text) : Except Ending Command := do
  let a ← readArguments checkOptions 1 args
  match a.operands with
  | [] => throw (.usage none)
  | user :: _ =>
    return .check user ((a.value? "domain").getD Domain.ad.word)
      ((a.value? "operation").getD Operation.password.word)

def readDrain (args : List Text) : Except Ending Command := do
  let _ ← readArguments [helpOption] 0 args
  return .drain

def readQueue (args : List Text) : Except Ending Command :=
  match Arguments.parse [helpOption] false args with
  | none => .error (.usage none)
  | some a =>
    if a.flag "help" then .error (.shown helpText)
    else match a.operands with
      | [] => .error (.usage none)
      | name :: rest =>
        if name = "ls" then readList rest
        else if name = "check" then readCheck rest
        else if name = "drain" then readDrain rest
        else .error (.usage none)

def reader? (name : Text) : Option (List Text → Except Ending Command) :=
  if name = "sync" then some readSync
  else if name = "propagate" then some readPropagate
  else if name = "queue" then some readQueue
  else none

/-! ## Running a command -/

def print (line : Text) : Act Unit := do
  Act.print (← Act.ofResult ((Console.shown line).mapError .unprintable))

def backend? (modules : List Module) (s : Settings) : Act (Option Backend) :=
  match s.importPath? with
  | none => return none
  | some path => return some (← Act.ofResult (loadBackend modules path))

def backend (modules : List Module) (s : Settings) : Act Backend := do
  match ← backend? modules s with
  | some b => return b
  | none => throw (.config .deliveryMissing)

def realm (s : Settings) : Text := s.realm.getD []

def prepare (path : Path) (change : FileSystem → Path → Except OsError FileSystem) : Act Unit := do
  let files ← Act.inspect path .openOutput change
  Act.change fun h => { h with files := files }

/-- Replaces what a file holds, creating the file if needed. -/
def putFile (path : Path) (content : Bytes) : Act Unit :=
  prepare path fun files path => files.write 0o644 content path

/-- Lists the queue to a destination. A file is emptied first, and created in new directories if these
are missing. -/
def listTo (q : Queue) (destination : Destination) : Act Unit := do
  let lines (names : List Text) : Bytes :=
    Text.toBytes (names.flatMap fun name => name ++ [.char '\n'])
  match destination with
  | .standardOutput => Act.record (.emitted (lines (← q.entries)))
  | .memory =>
    let _ ← q.entries
  | .file path =>
    prepare path.parent FileSystem.makeDirectories
    putFile path []
    putFile path (lines (← q.entries))

def run (modules : List Module) (s : Settings) : Command → Act Unit
  | .syncFile file => do
    let entry ← replay (← backend modules s) (realm s) (Path.ofText file)
    print ("Replayed " ++ entry.operation.word.cited ++ " from " ++ entry.name)
  | .sync user enabled password => do
    let backend ← backend modules s
    let account := (← Act.orFault (Principal.parse user (realm s))).unparse
    match password with
    | none => pure ()
    | some password =>
      backend.deliver ⟨account, .password, some password⟩
      print ("AD password change for " ++ user ++ " succeeded")
    match enabled with
    | none => pure ()
    | some enabled =>
      backend.deliver ⟨account, if enabled then .enable else .disable, none⟩
      print ("AD status change for " ++ user ++ " succeeded")
  | .propagate user enabled password => do
    let relay := Relay.ofSettings s (← backend? modules s) none
    let principal ← Act.orFault (Principal.parse user (realm s))
    match password with
    | none => pure ()
    | some password =>
      let result ← relay.changePassword (.principal principal) (some password)
      print ("password: " ++ result.word)
    match enabled with
    | none => pure ()
    | some enabled =>
      let result ← relay.changeStatus (.principal principal) enabled
      print ("status: " ++ result.word)
  | .list output => do
    listTo (Queue.ofText s.queueDir) (← Act.orFault (Destination.ofText output))
  | .check user domain operation => do
    let conflict ← (Queue.ofText s.queueDir).isPending (.name user) domain operation
    print (if conflict then "true" else "false")
  | .drain => do
    let backend ← backend modules s
    let result ← AccountRelay.drain backend (realm s) (some (Queue.ofText s.queueDir))
    let number (names : List Text) := Text.decimal names.length
    print ("replayed: " ++ number result.replayed ++ ", failed: " ++ number result.failed
      ++ ", skipped: " ++ number result.skipped)
    if !result.ok then throw (.undelivered result.failed.length)

def report (e : Failure) : Text :=
  "[red][bold]" ++ e.kind.label ++ "[/bold]: " ++ e.text ++ "[/red]"

/-- Runs a command to its end, and reports what went wrong. -/
def finish (act : Act Unit) : StateM Host Ending := fun h =>
  match act.on h with
  | (.ok (), h) => (.done, h)
  | (.error e, h) =>
    match (print (report e)).on h with
    | (.ok (), h) => (.failed e.kind, h)
    | (.error e, h) => (.failed e.kind, h)

/-! ## The program -/

/-- The variables of the environment file, which may refer to those of the environment. -/
def environmentFile (environment : Variables) (files : FileSystem) : Variables :=
  match files.read (Path.ofText ".env") with
  | .ok content => EnvironmentFile.evaluate environment (Text.ofBytes content)
  | .error _ => []

inductive Plan where
  | stop (ending : Ending)
  | showVersion
  | carryOut (s : Settings) (command : Command)
  deriving DecidableEq, Repr

/-- What the options before the subcommand ask for; with the settings it goes on as `next` says. -/
def Plan.ofOptions (environment : Variables) (files : FileSystem) (a : Arguments)
    (next : Settings → Plan) : Plan :=
  if a.flag "version" then showVersion
  else
    let arguments : Record := match a.value? "queue_dir" with
      | none => []
      | some [] => []
      | some t => [("queue_dir", .text t)]
    match Settings.load arguments environment (environmentFile environment files) with
    | .error _ => stop (.failed .validation)
    | .ok s => if a.flag "settings" then stop (.shown (settingsText s)) else next s

def Plan.ofArguments (environment : Variables) (files : FileSystem) (args : List Text) : Plan :=
  match Arguments.parse programOptions false args with
  | none => stop (.usage none)
  | some a =>
    if args = [] then stop (.usage none)
    else if a.flag "help" then stop (.shown helpText)
    else match a.operands with
      | [] => ofOptions environment files a fun _ => stop .done
      | name :: rest =>
        match reader? name with
        | none => stop (.usage none)
        | some reader => ofOptions environment files a fun s =>
          match reader rest with
          | .error ending => stop ending
          | .ok command => carryOut s command

def Plan.paths : Plan → List Path
  | stop _ => []
  | showVersion => []
  | carryOut s command =>
    let named : List Path := match command with
      | .syncFile file => [Path.ofText file]
      | .list output => match Destination.ofText output with
        | .ok (.file path) => [path]
        | _ => []
      | _ => []
    s.queueDir.toList.map Path.ofText ++ named

def program (modules : List Module) (environment : Variables) (args : List Text) :
    StateM Host Ending := fun h =>
  match Plan.ofArguments environment h.files args with
  | .stop ending => (ending, h)
  | .showVersion => finish (print version) h
  | .carryOut s command => finish (run modules s command) h

end Command

end AccountRelay
