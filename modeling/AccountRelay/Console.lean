import AccountRelay.Console.Column
import AccountRelay.Console.Fault
import AccountRelay.Console.Markup
import AccountRelay.Console.Picture
import AccountRelay.Console.Style
/-!
# The console

Lines for the console are marked up: a tag styles what follows it up to its closing tag. The console
is plain, so tags vanish; but a line whose tags are not in order is unprintable. A closing tag closes
the latest open tag whose style it names, under whatever definition of that style, and without a name
the latest open tag of all.

In the text between tags the names of pictures between colons give way to the pictures. Control
characters without a place on the screen are left out, and tabs become spaces.
-/

namespace AccountRelay.Console

def takeNamed? (name : Text) : List Tag → Option (Tag × List Tag)
  | [] => none
  | tag :: others =>
    if tag.name = name then some (tag, others)
    else (takeNamed? name others).map fun (found, rest) => (found, tag :: rest)

def closed (name : Text) (openTags : List Tag) : Except MarkupFault (Tag × List Tag) := do
  match Text.trim name with
  | [] =>
    match openTags with
    | [] => throw .nothingOpen
    | tag :: others => return (tag, others)
  | name =>
    match takeNamed? (← (Style.nameOf name).mapError .style) openTags with
    | some found => return found
    | none => throw (.unmatched name)

/-- The parameters of an action are looked at when its tag is closed. -/
def checkClosed (tag : Tag) : Except MarkupFault Unit :=
  match tag.isAction, tag.parameters with
  | true, some (c :: rest) => (Parameters.check (c :: rest)).mapError .parameters
  | _, _ => .ok ()

/-- What some pieces show and the tags that they open, given the open tags, the latest first. -/
def shownFrom : List Tag → List Piece → Except MarkupFault (Text × List Tag)
  | _, [] => return ([], [])
  | openTags, .plain t :: rest => do
    let (shown, opened) ← shownFrom openTags rest
    return (withPictures t ++ shown, opened)
  | openTags, .escaped body :: rest => do
    let (shown, opened) ← shownFrom openTags rest
    return (withPictures (.char '[' :: body ++ [.char ']']) ++ shown, opened)
  | openTags, .tag body :: rest => do
    let tag := Tag.ofBody body
    match tag.name with
    | .char '/' :: name =>
      let (tag, others) ← closed name openTags
      checkClosed tag
      shownFrom others rest
    | name =>
      let tag := { tag with name := ← (Style.nameOf name).mapError .style }
      let (shown, opened) ← shownFrom (tag :: openTags) rest
      return (shown, tag :: opened)

def isControl : Symbol → Bool
  | .char c => c.toNat = 7 || c.toNat = 8 || c.toNat = 11 || c.toNat = 12 || c.toNat = 13
  | .byte _ => false

def showSymbol : Symbol → Text
  | .char c => [.char c]
  | .byte low => "\\udc" ++ Text.hexDigits 2 (128 + low)

/-- A tag that is no style changes nothing, but it may have a fault. -/
def checkStyle (tag : Tag) : Except MarkupFault Unit :=
  ((Style.ofText tag.toText).map fun _ => ()).mapError .style

def shown (line : Text) : Except MarkupFault Text := do
  let (t, opened) ← shownFrom [] (pieces line)
  opened.forM checkStyle
  return (expandTabs 0 (t.filter fun c => !isControl c)).flatMap showSymbol

end AccountRelay.Console
