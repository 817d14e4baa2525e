import AccountRelay.Text
/-!
# Operations, change classes and domains

Three operations are known. Enabling and disabling an account undo each other, so they share a
class, and it is the class that decides which changes have to wait for one another. There is one
downstream system, Active Directory.
-/

namespace AccountRelay

inductive Operation where
  | password
  | enable
  | disable
  deriving DecidableEq, Repr

inductive ChangeClass where
  | password
  | enable
  deriving DecidableEq, Repr

inductive Domain where
  | ad
  deriving DecidableEq, Repr

namespace Operation

def word : Operation → Text
  | password => "password"
  | enable => "enable"
  | disable => "disable"

def ofWord? (t : Text) : Option Operation :=
  if t = word password then some password
  else if t = word enable then some enable
  else if t = word disable then some disable
  else none

def changeClass : Operation → ChangeClass
  | password => .password
  | enable => .enable
  | disable => .enable

/-- What messages about a delivered change call it. -/
def noun : Operation → Text
  | password => "password"
  | enable => "status"
  | disable => "status"

@[simp] theorem ofWord?_word (o : Operation) : ofWord? o.word = some o := by
  cases o <;> rfl

theorem word_of_ofWord? {t : Text} {o : Operation} (h : ofWord? t = some o) : t = o.word := by
  unfold ofWord? at h
  split at h
  · cases h; assumption
  · split at h
    · cases h; assumption
    · split at h
      · cases h; assumption
      · cases h

end Operation

namespace ChangeClass

def word : ChangeClass → Text
  | password => "password"
  | enable => "enable"

end ChangeClass

namespace Domain

def word : Domain → Text
  | ad => "ad"

def ofWord? (t : Text) : Option Domain :=
  if t = word ad then some ad else none

@[simp] theorem ofWord?_word (d : Domain) : ofWord? d.word = some d := by
  cases d; rfl

theorem word_of_ofWord? {t : Text} {d : Domain} (h : ofWord? t = some d) : t = d.word := by
  unfold ofWord? at h
  split at h
  · cases h; assumption
  · cases h

end Domain

end AccountRelay
