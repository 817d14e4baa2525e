import AccountRelay.Fault
import AccountRelay.HostAddress
import AccountRelay.Path
import AccountRelay.Text.Blank
/-!
# Destinations

Output goes to where a text says: a hyphen is the standard output, and anything else is the path of a
file or a location with a scheme. The scheme of a location is what stands before its first colon, and
a location is percent-encoded, which a path is not. Where two slashes follow the colon, the scheme
is a protocol, and few protocols are known.

Two colons in a row join locations. Only the first of these is written to, but all of them have to be
known. A location that is a single word of small letters is the name of a protocol.
-/

namespace AccountRelay

inductive Destination where
  | standardOutput
  | file (path : Path)
  | memory
  deriving DecidableEq, Repr

namespace Destination

/-! ## Locations -/

/-- A location as its scheme is looked for: without control characters and spaces before it, and
without tabs and line ends inside it. -/
def stripped (t : Text) : Text :=
  (t.dropWhile fun c => c.rank ≤ 32).filter fun c =>
    c ≠ .char '\t' && c ≠ .char '\r' && c ≠ .char '\n'

def isLetter : Symbol → Bool
  | .char c => c.isAlpha
  | .byte _ => false

def isSchemeSymbol : Symbol → Bool
  | .char c => c.isAlphanum || c = '+' || c = '-' || c = '.'
  | .byte _ => false

def afterScheme (t : Text) : Bool × Text :=
  match t.splitFirst (.char ':') with
  | some (c :: scheme, after) =>
    if isLetter c && (c :: scheme).all isSchemeSymbol then (true, after) else (false, t)
  | _ => (false, t)

def host? : Text → Option Text
  | .char '/' :: .char '/' :: rest =>
    some (rest.takeWhile fun c => c ≠ .char '/' && c ≠ .char '?' && c ≠ .char '#')
  | _ => none

/-- A host in brackets has to be an address. -/
def checkBracketed (address : Text) : Except Fault Unit :=
  match address with
  | .char 'v' :: rest =>
    match Text.splitFirst (.char '.') rest with
    | some (version, _ :: _) =>
      if !version.isEmpty && version.all (fun c => (Text.hexDigit? c).isSome) then .ok ()
      else .error .futureAddress
    | _ => .error .futureAddress
  | _ =>
    if HostAddress.isFourth address then .error .bracketedFourth
    else if HostAddress.isSixth address then .ok ()
    else .error (.notAnAddress address)

def checkHost (host : Text) : Except Fault Unit :=
  match host.contains (.char '['), host.contains (.char ']') with
  | false, false => .ok ()
  | true, true =>
    let inside := (host.dropWhile (· ≠ Symbol.char '[')).drop 1
    checkBracketed (inside.takeWhile (· ≠ Symbol.char ']'))
  | _, _ => .error .unmatchedBracket

/-! ## Protocols -/

inductive Protocol where
  | file
  | memory
  | content
  deriving DecidableEq, Repr

def Protocol.named? (name : Text) : Option Protocol :=
  if name = "file" ∨ name = "local" then some .file
  else if name = "memory" then some .memory
  else if name = "data" then some .content
  else none

/-- What stands before the first colon that two slashes follow. -/
def beforeSlashes : Text → Option Text
  | [] => none
  | .char ':' :: .char '/' :: .char '/' :: _ => some []
  | c :: rest => (beforeSlashes rest).map (c :: ·)

/-- The name of a protocol has more than one letter, since one letter may be that of a drive. -/
def protocolName? (location : Text) : Option Text :=
  match beforeSlashes location with
  | some (c :: d :: name) => some (c :: d :: name)
  | _ => if location.startsWith "data:" then some "data" else none

def protocol (location : Text) : Except Fault Protocol :=
  match protocolName? location with
  | none => .ok .file
  | some name =>
    match Protocol.named? name with
    | some p => .ok p
    | none => .error (.unknownProtocol name)

def localPath (location : Text) : Path :=
  let path? := (["file://", "file:", "local://", "local:"].map Text.ofString).findSome? fun mark =>
    if location.startsWith mark then some (location.drop mark.length) else none
  Path.ofText (path?.getD location)

/-! ## Joined locations -/

def splitPairs : Text → List Text
  | [] => [[]]
  | .char ':' :: .char ':' :: rest => [] :: splitPairs rest
  | c :: rest =>
    match splitPairs rest with
    | [] => [[c]]
    | piece :: pieces => (c :: piece) :: pieces

def isWord (t : Text) : Bool :=
  t.all fun
    | .char c => 'a' ≤ c && c ≤ 'z'
    | .byte _ => false

def completed (piece : Text) : Text := if isWord piece then piece ++ "://" else piece

/-- The protocol of the first of some locations, once those behind it are known. -/
def checkAll (first : Text) : List Text → Except Fault Protocol
  | [] => protocol first
  | next :: rest => do
    let _ ← checkAll next rest
    protocol first

def ofProtocol (p : Protocol) (location : Text) : Except Fault Destination :=
  match p with
  | .file => .ok (.file (localPath location))
  | .memory => .ok .memory
  | .content => .error .readOnly

def ofLocation (t : Text) : Except Fault Destination :=
  match splitPairs t with
  | [] => ofProtocol .file t
  | [location] => do ofProtocol (← protocol location) location
  | first :: rest => do
    let p ← checkAll (completed first) (rest.map completed)
    ofProtocol p (completed first)

/-- The destination that a path names. Pairs of colons join locations here too, and the first of them
is a path. -/
def ofPath (t : Text) : Except Fault Destination := do
  let path := Text.ofBytesLossy (Path.ofText t).toText.toBytes
  match splitPairs path with
  | [] => return .file (Path.ofText path)
  | first :: rest =>
    match rest.map completed with
    | [] => return .file (Path.ofText first)
    | next :: rest => do
      let _ ← checkAll next rest
      return .file (Path.ofText first)

def ofText (t : Text) : Except Fault Destination := do
  if Text.trim t = [] then throw (.emptyLocation t)
  if t = "-" then return .standardOutput
  let (hasScheme, rest) := afterScheme (stripped t)
  match host? rest with
  | some host => checkHost host
  | none => pure ()
  if hasScheme then ofLocation t.percentDecoded else ofPath t

end Destination

end AccountRelay
