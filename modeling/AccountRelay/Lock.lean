import AccountRelay.Host
/-!
# The directory lock

The file `.lock` of a queue directory is locked while the directory is searched or an entry created.
It is created on first use and never removed. Taking the lock waits until no one else holds it; who
holds it already and takes it again would wait forever, and that is a failure here.
-/

namespace AccountRelay

structure QueueLock where
  path : Path
  /-- The location of the locked file, while the lock is held. -/
  held : Option Location
  deriving DecidableEq, Repr

namespace QueueLock

def fileMode : Nat := 0o644

def ofDirectory (directory : Path) : QueueLock := ⟨directory.join ".lock", none⟩

def lockFile (path : Path) : Act Location := do
  Act.requireName path
  match (← Act.ask Host.files).openOrCreate fileMode path with
  | .error e => throw (.storage (.lockFile path e))
  | .ok (l, files) =>
    Act.change fun h => { h with files := files }
    if l ∈ (← Act.ask Host.locked) then throw (.storage (.lockHeld path))
    Act.change fun h => { h with locked := h.locked ++ [l] }
    Act.record (.acquired l)
    return l

def acquire (lock : QueueLock) : Act QueueLock := do
  return { lock with held := some (← lockFile lock.path) }

def release (lock : QueueLock) : Act QueueLock := do
  match lock.held with
  | none => return lock
  | some l =>
    Act.change (Host.unlock l)
    return { lock with held := none }

def display (lock : QueueLock) : Text := "<DirectoryLock(" ++ lock.path.toText ++ ")>"

end QueueLock

/-- Does something while the lock of a directory is held, and gives the lock back however it ends. -/
def withLock {α : Type} (directory : Path) (act : Act α) : Act α := do
  let l ← QueueLock.lockFile (QueueLock.ofDirectory directory).path
  act.ensuring (Host.unlock l)

end AccountRelay
