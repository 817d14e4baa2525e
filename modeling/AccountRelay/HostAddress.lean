import AccountRelay.Text.Percent
/-!
# Host addresses

An address of the fourth version has four decimal numbers with dots between them. An address of the
sixth has eight groups of up to four hexadecimal digits with colons between them. One stretch of
groups may be left out, an address of the fourth version may stand for the last two groups, and a
zone may follow behind a percent sign.
-/

namespace AccountRelay.HostAddress

def isOctet (t : Text) : Bool :=
  !t.isEmpty && t.length ≤ 3 && t.all (fun c => Text.isAscii c && (Text.hexDigit? c).any (· < 10))
    && (t.length = 1 || t.head? ≠ some (.char '0'))
    && t.foldl (fun n c => n * 10 + (Text.hexDigit? c).getD 0) 0 < 256

def isFourth (t : Text) : Bool :=
  let octets := t.splitAll (.char '.')
  octets.length = 4 && octets.all isOctet

def isGroup (t : Text) : Bool :=
  !t.isEmpty && t.length ≤ 4 && t.all fun c => (Text.hexDigit? c).isSome

/-- The groups with the last one, if it is an address of the fourth version, counted as two. -/
def expandLast (groups : List Text) : Option (List Text) :=
  match groups.getLast? with
  | none => none
  | some last =>
    if last.contains (.char '.') then
      if isFourth last then
        some (groups.dropLast ++ [Text.ofString "0", Text.ofString "0"])
      else none
    else some groups

def fitsAround (before after : List Text) : Bool :=
  before.all isGroup && after.all isGroup && before.length + after.length ≤ 7

/-- Whether groups make up an address: eight of them, or fewer around one gap, which an empty group
stands for. At either end the gap takes two empty groups. -/
def areGroups (groups : List Text) : Bool :=
  match groups.span fun g => !g.isEmpty with
  | (before, []) => before.length = 8 && before.all isGroup
  | ([], _ :: [] :: after) =>
    match after with
    | [[]] => true
    | after => fitsAround [] after
  | ([], _) => false
  | (_, [_]) => false
  | (before, _ :: [[]]) => fitsAround before []
  | (before, _ :: after) => fitsAround before after

def isSixth (t : Text) : Bool :=
  let address? : Option Text := match t.splitFirst (.char '%') with
    | none => some t
    | some (address, zone) =>
      if zone.isEmpty || zone.contains (.char '%') then none else some address
  match address? with
  | none => false
  | some address =>
    let groups := address.splitAll (.char ':')
    3 ≤ groups.length && (expandLast groups).any areGroups

end AccountRelay.HostAddress
