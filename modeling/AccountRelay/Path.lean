import AccountRelay.Text.Utf8
/-!
# Paths

A path is a root and a list of parts. Repeated and trailing slashes and parts that are a single dot
say nothing and vanish; two dots stay, because only the file system knows what they lead to. The
empty path is written as a single dot. Two slashes at the start, and no more, make a root of their
own.
-/

namespace AccountRelay

/-- Where a file is: the names that lead to it from the root. -/
abbrev Location := List Text

structure Path where
  root : Text
  parts : List Text
  deriving DecidableEq, Repr

namespace Path

def rootOf : Text → Text
  | .char '/' :: .char '/' :: .char '/' :: _ => "/"
  | .char '/' :: .char '/' :: _ => "//"
  | .char '/' :: _ => "/"
  | _ => []

def ofText (t : Text) : Path where
  root := rootOf t
  parts := (t.splitAll (.char '/')).filter fun part => part ≠ [] ∧ part ≠ [.char '.']

def toText (p : Path) : Text :=
  match p.root ++ Text.join [.char '/'] p.parts with
  | [] => [.char '.']
  | t => t

/-- A path below another one; a path with a root replaces it. -/
def join (p : Path) (name : Text) : Path :=
  let q := ofText name
  if q.root = [] then ⟨p.root, p.parts ++ q.parts⟩ else q

def name (p : Path) : Text := p.parts.getLastD []

def parent (p : Path) : Path := ⟨p.root, p.parts.dropLast⟩

/-- No file has a name with a NUL character. -/
def hasNul (p : Path) : Bool := p.parts.any fun part => part.contains (.char '\x00')

def byteLength (p : Path) : Nat := p.toText.byteLength

end Path

end AccountRelay
