import AccountRelay.Text.Utf8
/-!
# Percent encoding

A percent sign and two hexadecimal digits stand for a byte. The bytes of a stretch of ASCII
characters, written in either way, are read as UTF-8, and what they do not encode is replaced. A
percent sign without two digits behind it stands for itself.
-/

namespace AccountRelay.Text

def hexDigit? : Symbol → Option Nat
  | .char c =>
    if '0' ≤ c ∧ c ≤ '9' then some (c.toNat - 48)
    else if 'a' ≤ c ∧ c ≤ 'f' then some (c.toNat - 87)
    else if 'A' ≤ c ∧ c ≤ 'F' then some (c.toNat - 55)
    else none
  | .byte _ => none

def hexByte? (high low : Symbol) : Option UInt8 := do
  return UInt8.ofNat ((← hexDigit? high) * 16 + (← hexDigit? low))

def unescapedBytes : Text → Bytes
  | [] => []
  | .char '%' :: high :: low :: rest =>
    match hexByte? high low with
    | some b => b :: unescapedBytes rest
    | none => 37 :: unescapedBytes (high :: low :: rest)
  | c :: rest => toBytes [c] ++ unescapedBytes rest

def isAscii : Symbol → Bool
  | .char c => c.toNat < 128
  | .byte _ => false

/-- Decodes a text of at most `steps` stretches. -/
def percentDecodedFrom : Nat → Text → Text
  | 0, _ => []
  | _, [] => []
  | steps + 1, c :: rest =>
    if isAscii c then
      let (stretch, after) := (c :: rest).span isAscii
      ofBytesLossy (unescapedBytes stretch) ++ percentDecodedFrom steps after
    else c :: percentDecodedFrom steps rest

def percentDecoded (t : Text) : Text := percentDecodedFrom t.length t

end AccountRelay.Text
