import AccountRelay.Operation
import AccountRelay.Text.Quoted
/-!
# Faults

A fault is a reason to refuse an argument: a name, a word, a number or a password.
-/

namespace AccountRelay

inductive Fault where
  | unknownOperation (word : Text)
  | unknownDomain (word : Text)
  | trailingEscape (name : Text)
  | emptyPrincipal (name : Text)
  | sequenceRange (sequence : Int)
  | malformedEntryName (name : Text)
  /-- The numeral holds a digit without a place value. -/
  | notANumber (numeral : Text)
  | nulInPath
  | passwordMissing
  | passwordNewline
  | passwordEncoding
  | passwordUnexpected (operation : Operation)
  | emptyLocation (location : Text)
  | unknownProtocol (name : Text)
  /-- The host of a location has an opening or a closing bracket and not the other one. -/
  | unmatchedBracket
  | bracketedFourth
  | futureAddress
  | notAnAddress (address : Text)
  | readOnly
  deriving DecidableEq, Repr

def citedNumeral : Nat := 200

def Fault.message : Fault → Text
  | unknownOperation word => "Invalid operation: " ++ word.cited
  | unknownDomain word => "Invalid domain: " ++ word.cited
  | trailingEscape name => "Trailing escape in principal: " ++ name.cited
  | emptyPrincipal name => "Invalid principal: " ++ name.cited
  | sequenceRange sequence => "Invalid sequence: " ++ (Text.integer sequence).cited
  | malformedEntryName name => "Invalid queue entry name: " ++ name.cited
  | notANumber numeral =>
    "invalid literal for int() with base 10: " ++ numeral.quoted.take citedNumeral
  | nulInPath => "embedded null byte"
  | passwordMissing => "Password change without password"
  | passwordNewline => "Password must not contain a newline"
  | passwordEncoding => "Password is not valid UTF-8"
  | passwordUnexpected operation => "Unexpected password for " ++ operation.word.cited
  | emptyLocation location => "Invalid uri: " ++ location.cited
  | unknownProtocol name => "Protocol not known: " ++ name
  | unmatchedBracket => "Invalid IPv6 URL"
  | bracketedFourth => "An IPv4 address cannot be in brackets"
  | futureAddress => "IPvFuture address is invalid"
  | notAnAddress address => address.quoted ++ " does not appear to be an IPv4 or IPv6 address"
  | readOnly => "Read only filesystem"

def ChangeClass.ofWord (word : Text) : Except Fault ChangeClass :=
  match Operation.ofWord? word with
  | some operation => .ok operation.changeClass
  | none => .error (.unknownOperation word)

end AccountRelay
