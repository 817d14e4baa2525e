import AccountRelay.Expression
import AccountRelay.Fault
/-!
# Unprintable lines

A line for the console is refused for a closing tag that closes nothing, for parameters of an action
that are no literal, and for a style with an empty number.
-/

namespace AccountRelay.Console

inductive MarkupFault where
  | unmatched (name : Text)
  | nothingOpen
  | parameters (f : ParametersFault)
  | style (f : Fault)
  deriving DecidableEq, Repr

def MarkupFault.message : MarkupFault → Text
  | unmatched name => "closing tag '[/" ++ name ++ "]' doesn't match any open tag"
  | nothingOpen => "closing tag '[/]' has nothing to close"
  | parameters f => f.message
  | style f => f.message

end AccountRelay.Console
