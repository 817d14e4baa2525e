import AccountRelay.Command
import Std.Time.DateTime.Timestamp
/-!
# The program on a machine

The files that a run is about are read into a file system, the run takes place on that, and what it
changed is written back. A run that takes the directory lock takes the lock of the machine first and
then reads the files again. No backend is built in, so modules cannot be found here.
-/

namespace AccountRelay.Machine

def pathOf (t : Text) : String := String.ofList (t.filterMap fun
  | .char c => some c
  | .byte _ => none)

def stringOf (l : Location) : String := pathOf ("/" ++ Text.join [.char '/'] l)

def locationOf (home : Location) (p : Path) : Location :=
  p.parts.foldl (fun l name => if name = Text.ofString ".." then l.dropLast else l ++ [name])
    (if p.root = [] then home else [])

def homeLocation : IO Location := do
  return (Path.ofText (Text.ofString (← IO.currentDir).toString)).parts

def node? (l : Location) : IO (Option Node) := do
  let here := (← IO.currentDir) / stringOf l
  if !(← here.pathExists) then return none
  if ← here.isDir then return some .directory
  return some (.file 0o644 (← IO.FS.readBinFile here).toList)

def addNode (files : FileSystem) (l : Location) : IO FileSystem := do
  match ← node? l with
  | none => return files
  | some node => return files.set l node

def addLocation (files : FileSystem) (l : Location) : IO FileSystem := do
  let mut files := files
  for above in Module.beginnings l do
    files ← addNode files above
  if files.get? l = some .directory then
    for entry in ← ((← IO.currentDir) / stringOf l).readDir do
      files ← addNode files (l ++ [Text.ofString entry.fileName])
  return files

def load (home : Location) (paths : List Path) : IO FileSystem := do
  let mut files := FileSystem.empty home
  files ← addNode files home
  for above in Module.beginnings home do
    files ← addNode files above
  for path in paths do
    files ← addLocation files (locationOf home path)
  return files

def rights (digit : Nat) : IO.AccessRight :=
  ⟨digit / 4 % 2 = 1, digit / 2 % 2 = 1, digit % 2 = 1⟩

def store (before after : FileSystem) : IO Unit := do
  for (l, node) in after.nodes do
    match node with
    | .directory => if (before.get? l).isNone then IO.FS.createDirAll (stringOf l)
    | .file mode content =>
      if before.get? l ≠ some node then
        IO.FS.writeBinFile (stringOf l) (ByteArray.mk content.toArray)
        if (before.get? l).isNone then
          IO.setAccessRights (stringOf l) ⟨rights (mode / 64), rights (mode / 8), rights mode⟩
  for (l, _) in before.nodes do
    if (after.get? l).isNone then IO.FS.removeFile (stringOf l)

def variablesOf (shown : Bytes) : Variables :=
  ((Text.ofBytes shown).splitAll (.char (Char.ofNat 0))).filterMap fun entry =>
    (entry.splitFirst (.char '=')).map fun (name, v) => (name, some v)

/-- The environment. Of a machine that does not show it, only the variables of settings. -/
def environment : IO Variables := do
  try
    return variablesOf (← IO.FS.readBinFile "/proc/self/environ").toList
  catch _ =>
    let found ← Settings.names.mapM fun name => do
      let key := "KRB5_SYNC_" ++ name.toUpper
      return (← IO.getEnv key).map fun v => (Text.ofString key, some (Text.ofString v))
    return found.filterMap id

def clock : IO Moment := do
  let seconds := (← Std.Time.Timestamp.now).toSecondsSinceUnixEpoch.val.toNat
  match Moment.ofSeconds seconds with
  | some m => return m
  | none => throw (IO.userError "the clock is out of range")

/-- Locks the files that a run locks; they stay locked until the program ends. -/
def lockAll (j : Journal) : IO (List IO.FS.Handle) :=
  j.filterMapM fun
    | .acquired l => do
      let handle ← IO.FS.Handle.mk (stringOf l) .append
      handle.lock
      return some handle
    | _ => return none

def finish (ending : Ending) (h : Host) : IO UInt32 := do
  (← IO.getStdout).write (ByteArray.mk h.journal.output.toArray)
  (← IO.getStderr).write (ByteArray.mk (Text.toBytes h.journal.console).toArray)
  match ending with
  | .shown t => IO.print (pathOf t)
  | .usage message => IO.eprintln (pathOf (message.getD Command.helpText))
  | _ => pure ()
  return UInt32.ofNat ending.exitCode

def run (args : List Text) : IO UInt32 := do
  let home ← homeLocation
  let environment ← environment
  let environmentFile := Path.ofText ".env"
  let first ← load home [environmentFile]
  let paths := environmentFile :: (Command.Plan.ofArguments environment first args).paths
  let clock ← clock
  let attempt (files : FileSystem) : Ending × Host :=
    Command.program [] environment args ⟨files, [], clock, []⟩
  let before ← load home paths
  let (ending, h) := attempt before
  let locks ← lockAll h.journal.eraseDups
  if locks.isEmpty then
    store before h.files
    finish ending h
  else
    let before ← load home paths
    let (ending, h) := attempt before
    store before h.files
    finish ending h

end AccountRelay.Machine

def main (args : List String) : IO UInt32 := AccountRelay.Machine.run (args.map AccountRelay.Text.ofString)
