import AccountRelay.Fault
/-!
# Principals

A principal is a list of name components and a realm; an empty realm means that there is none. The
written form puts a slash between the components and an at sign before the realm. A backslash makes
the next symbol an ordinary one, or, before `n`, `t`, `b` and `0`, the control character that has no
written form of its own.

The first bare at sign starts the realm. After it slashes and further at signs are ordinary, so
components escape both and a realm escapes only the second.
-/

namespace AccountRelay

structure Principal where
  components : List Text
  realm : Text
  deriving DecidableEq, Repr

namespace Principal

/-! ## Writing -/

def letterOf? : Symbol → Option Symbol
  | .char '\n' => some (.char 'n')
  | .char '\t' => some (.char 't')
  | .char '\x08' => some (.char 'b')
  | .char '\x00' => some (.char '0')
  | _ => none

def escapeSymbol (special : List Symbol) (c : Symbol) : Text :=
  match letterOf? c with
  | some letter => [.char '\\', letter]
  | none => if c ∈ special ∨ c = .char '\\' then [.char '\\', c] else [c]

def escape (special : List Symbol) (t : Text) : Text := t.flatMap (escapeSymbol special)

def name (p : Principal) : Text :=
  Text.join [.char '/'] (p.components.map (escape [.char '/', .char '@']))

def unparse (p : Principal) : Text :=
  match p.realm with
  | [] => p.name
  | realm => p.name ++ [.char '@'] ++ escape [.char '@'] realm

def instance? (p : Principal) : Option Text := p.components[1]?

/-! ## Reading -/

def denoted : Symbol → Symbol
  | .char 'n' => .char '\n'
  | .char 't' => .char '\t'
  | .char 'b' => .char '\x08'
  | .char '0' => .char '\x00'
  | c => c

/-- Reads a realm to the end; nothing if a backslash is left over. -/
def scanRealm : Text → Option Text
  | [] => some []
  | .char '\\' :: [] => none
  | .char '\\' :: c :: rest => (scanRealm rest).map (denoted c :: ·)
  | c :: rest => (scanRealm rest).map (c :: ·)

/-- What has been read of a name: the component that a symbol before it would extend, the later
components, and the realm if there was an at sign. -/
structure Scan where
  head : Text
  tail : List Text
  realm : Option Text

def Scan.push (c : Symbol) (s : Scan) : Scan := { s with head := c :: s.head }

def scan : Text → Option Scan
  | [] => some ⟨[], [], none⟩
  | .char '\\' :: [] => none
  | .char '\\' :: c :: rest => (scan rest).map (Scan.push (denoted c))
  | .char '/' :: rest => (scan rest).map fun s => ⟨[], s.head :: s.tail, s.realm⟩
  | .char '@' :: rest => (scanRealm rest).map fun realm => ⟨[], [], some realm⟩
  | c :: rest => (scan rest).map (Scan.push c)

/-- Reads a written name. A name without an at sign is in the default realm. -/
def parse (name defaultRealm : Text) : Except Fault Principal :=
  match scan name with
  | none => .error (.trailingEscape name)
  | some ⟨[], _, _⟩ => .error (.emptyPrincipal name)
  | some ⟨head, tail, realm⟩ => .ok ⟨head :: tail, realm.getD defaultRealm⟩

end Principal

/-- A written name up to the first bare at sign, escapes untouched. -/
def withoutRealm : Text → Text
  | [] => []
  | .char '\\' :: [] => [.char '\\']
  | .char '\\' :: c :: rest => .char '\\' :: c :: withoutRealm rest
  | .char '@' :: _ => []
  | c :: rest => c :: withoutRealm rest

/-- The account as queue files have it: the written form without the realm. -/
def Principal.account (p : Principal) : Text := withoutRealm p.unparse

/-- The account as file names have it, where a slash cannot stand. -/
def Principal.user (p : Principal) : Text := p.account.replace (.char '/') (.char '.')

inductive Who where
  | name (text : Text)
  | principal (p : Principal)
  deriving DecidableEq, Repr

def Who.principal? : Who → Except Fault Principal
  | name text => Principal.parse text []
  | principal p => .ok p

/-- How messages show it: a name as it came, a principal in its written form. -/
def Who.display : Who → Text
  | name text => text
  | principal p => p.unparse

end AccountRelay
