import AccountRelay.Principal
/-!
# The grammar of written names

A written name is a list of tokens. A token is a backslash with the symbol behind it, or a single
bare symbol. The first bare at sign ends the components, which bare slashes separate, and all tokens
behind it spell the realm. This is the reading that `Principal.parse` carries out in one pass.
-/

namespace AccountRelay.Principal

inductive Token where
  | escaped (c : Symbol)
  | bare (c : Symbol)
  deriving DecidableEq, Repr

namespace Token

def ofText? : Text → Option (List Token)
  | [] => some []
  | .char '\\' :: [] => none
  | .char '\\' :: c :: rest => (ofText? rest).map (escaped c :: ·)
  | c :: rest => (ofText? rest).map (bare c :: ·)

def value : Token → Symbol
  | escaped c => denoted c
  | bare c => c

/-- The tokens before the first bare at sign, and those behind it. -/
def splitRealm (tokens : List Token) : List Token × Option (List Token) :=
  match tokens.span (· ≠ bare (.char '@')) with
  | (before, []) => (before, none)
  | (before, _ :: after) => (before, some after)

end Token

def spelled (name defaultRealm : Text) : Option Principal :=
  (Token.ofText? name).bind fun tokens =>
    let (before, after) := Token.splitRealm tokens
    let components := (before.splitOn (Token.bare (.char '/'))).map (·.map Token.value)
    let realm := (after.map (·.map Token.value)).getD defaultRealm
    if components.head? = some [] then none else some ⟨components, realm⟩

end AccountRelay.Principal
