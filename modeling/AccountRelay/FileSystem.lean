import AccountRelay.OsError
import AccountRelay.Path
/-!
# The file system

A file system is a set of files and directories, each at its location: the list of names that leads
to it from the root. Relative paths start at the home location. A path is followed name by name, so
every name but the last has to lead to a directory, and the first that does not decides which error
is reported.

`get?` is the view through which the operations are described: each changes what one location holds.

Owners and permissions are not part of it, so a file that is there can be read and replaced. Whether
it may be removed is told apart: an operation that removes a file can be given what the system refuses.
-/

namespace AccountRelay

inductive Node where
  | file (mode : Nat) (content : Bytes)
  | directory
  deriving DecidableEq, Repr

structure FileSystem where
  nodes : List (Location × Node)
  home : Location
  /-- A location holds one thing at most. -/
  distinct : (nodes.map Prod.fst).Nodup
  deriving DecidableEq, Repr

namespace FileSystem

def empty (home : Location) : FileSystem := ⟨[], home, List.nodup_nil⟩

/-- What a location holds. The root is always there. -/
def get? (fs : FileSystem) (l : Location) : Option Node :=
  if l = [] then some .directory
  else (fs.nodes.find? fun node => node.1 = l).map Prod.snd

def restrict (fs : FileSystem) (keep : Location → Bool) : FileSystem where
  nodes := fs.nodes.filter fun n => keep n.1
  home := fs.home
  distinct := fs.distinct.sublist (List.filter_sublist.map Prod.fst)

def erase (fs : FileSystem) (l : Location) : FileSystem := fs.restrict fun m => m ≠ l

def set (fs : FileSystem) (l : Location) (node : Node) : FileSystem where
  nodes := (fs.erase l).nodes ++ [(l, node)]
  home := fs.home
  distinct := by
    rw [List.map_append, List.nodup_append]
    refine ⟨(fs.erase l).distinct, by simp, ?_⟩
    intro m hm k hk heq
    simp only [List.map_cons, List.map_nil, List.mem_singleton] at hk
    obtain ⟨n, hn, rfl⟩ := List.mem_map.1 hm
    have hne := (List.mem_filter.1 hn).2
    simp [heq, hk] at hne

/-! ## Following a path -/

/-- File names have at most 255 bytes, and a path at most 4095. -/
def maxName : Nat := 255

def maxPath : Nat := 4095

def step (fs : FileSystem) (l : Location) (name : Text) : Except OsError Location :=
  match fs.get? l with
  | none => .error .notFound
  | some (.file _ _) => .error .notDirectory
  | some .directory =>
    if name = ".." then .ok l.dropLast
    else if maxName < name.byteLength then .error .nameTooLong
    else .ok (l ++ [name])

def follow (fs : FileSystem) : Location → List Text → Except OsError Location
  | l, [] => .ok l
  | l, name :: rest => (fs.step l name).bind fun next => fs.follow next rest

/-- The location that a path leads to, whether or not it holds anything. -/
def locate (fs : FileSystem) (p : Path) : Except OsError Location :=
  if maxPath < p.byteLength then .error .nameTooLong
  else fs.follow (if p.root = [] then fs.home else []) p.parts

/-! ## Operations -/

def read (fs : FileSystem) (p : Path) : Except OsError Bytes := do
  match fs.get? (← fs.locate p) with
  | none => throw .notFound
  | some .directory => throw .isDirectory
  | some (.file _ content) => return content

/-- Opens a file, creating it empty where there is none. -/
def openOrCreate (fs : FileSystem) (mode : Nat) (p : Path) : Except OsError (Location × FileSystem) := do
  let l ← fs.locate p
  match fs.get? l with
  | none => return (l, fs.set l (.file mode []))
  | some .directory => throw .isDirectory
  | some (.file _ _) => return (l, fs)

def create (fs : FileSystem) (mode : Nat) (content : Bytes) (p : Path) : Except OsError FileSystem := do
  let l ← fs.locate p
  match fs.get? l with
  | none => return fs.set l (.file mode content)
  | some _ => throw .alreadyExists

/-- Puts content into a file, creating it where there is none. -/
def write (fs : FileSystem) (mode : Nat) (content : Bytes) (p : Path) : Except OsError FileSystem := do
  let l ← fs.locate p
  match fs.get? l with
  | none => return fs.set l (.file mode content)
  | some .directory => throw .isDirectory
  | some (.file old _) => return fs.set l (.file old content)

/-- Why the system does not let the file at a location be removed, unless it does. -/
abbrev Refusal := FileSystem → Location → Option OsError

def Refusal.never : Refusal := fun _ _ => none

def unlink (fs : FileSystem) (p : Path) (refusal : Refusal := .never) : Except OsError FileSystem := do
  let l ← fs.locate p
  match fs.get? l with
  | none => throw .notFound
  | some .directory => throw .isDirectory
  | some (.file _ _) =>
    match refusal fs l with
    | some e => throw e
    | none => return fs.erase l

def childName? : Location → Location → Option Text
  | [], [name] => some name
  | a :: rest, b :: below => if a = b then childName? rest below else none
  | _, _ => none

/-- The names in a directory, each with what it holds. -/
def entries (fs : FileSystem) (l : Location) : List (Text × Node) :=
  fs.nodes.filterMap fun node => (childName? l node.1).map fun name => (name, node.2)

def list (fs : FileSystem) (p : Path) : Except OsError (List (Text × Node)) := do
  let l ← fs.locate p
  match fs.get? l with
  | none => throw .notFound
  | some (.file _ _) => throw .notDirectory
  | some .directory => return fs.entries l

def makeBelow (fs : FileSystem) : Location → List Text → Except OsError FileSystem
  | _, [] => .ok fs
  | l, name :: rest => do
    let next ← fs.step l name
    match fs.get? next with
    | none => makeBelow (fs.set next .directory) next rest
    | some .directory => makeBelow fs next rest
    | some (.file _ _) => throw (if rest.isEmpty then .alreadyExists else .notDirectory)

def makeDirectories (fs : FileSystem) (p : Path) : Except OsError FileSystem :=
  fs.makeBelow (if p.root = [] then fs.home else []) p.parts

/-- Removes a file, or a directory with everything below it. -/
def removeAll (fs : FileSystem) (p : Path) : Except OsError FileSystem := do
  let l ← fs.locate p
  return fs.restrict fun m => !l.isPrefixOf m

/-! ## Laws -/

theorem get?_restrict (fs : FileSystem) (keep : Location → Bool) {l : Location} (h : l ≠ []) :
    (fs.restrict keep).get? l = if keep l then fs.get? l else none := by
  simp only [get?, restrict, if_neg h, List.find?_filter]
  cases hk : keep l with
  | true =>
    congr 2
    funext n
    by_cases hn : n.1 = l <;> simp [hn, hk]
  | false =>
    have gone : fs.nodes.find? (fun n => decide (keep n.1 = true ∧ decide (n.1 = l) = true)) = none := by
      rw [List.find?_eq_none]
      intro n _ hn
      simp only [decide_eq_true_eq] at hn
      rw [hn.2, hk] at hn
      exact absurd hn.1 (by decide)
    rw [gone]
    rfl

theorem get?_erase_self (fs : FileSystem) {l : Location} (h : l ≠ []) :
    (fs.erase l).get? l = none := by
  simp [erase, get?_restrict _ _ h]

theorem get?_erase_of_ne (fs : FileSystem) {l m : Location} (h : m ≠ l) :
    (fs.erase l).get? m = fs.get? m := by
  by_cases hm : m = []
  · simp [get?, hm]
  · simp [erase, get?_restrict _ _ hm, h]

theorem get?_set_self (fs : FileSystem) {l : Location} (node : Node) (h : l ≠ []) :
    (fs.set l node).get? l = some node := by
  have none_before := get?_erase_self fs h
  simp only [get?, if_neg h, Option.map_eq_none_iff] at none_before
  simp only [get?, set, if_neg h, List.find?_append, none_before]
  simp

theorem get?_set_of_ne (fs : FileSystem) {l m : Location} (node : Node) (h : m ≠ l) :
    (fs.set l node).get? m = fs.get? m := by
  by_cases hm : m = []
  · simp [get?, hm]
  · have none_after : [(l, node)].find? (fun n => n.1 = m) = none := by simp [Ne.symm h]
    rw [← get?_erase_of_ne fs h]
    simp only [get?, set, if_neg hm, List.find?_append, none_after, Option.or_none]

end FileSystem

end AccountRelay
