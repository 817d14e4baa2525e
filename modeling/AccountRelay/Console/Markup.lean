import AccountRelay.Text
/-!
# Markup

A marked up line is made of plain text and tags. A tag stands in square brackets and starts with a
small letter or one of three signs; other brackets are plain. Two backslashes before a tag stand for
one, and one left over makes the tag plain. Before any other opening bracket one backslash vanishes.
-/

namespace AccountRelay.Console

inductive Piece where
  | plain (t : Text)
  | escaped (body : Text)
  | tag (body : Text)
  deriving DecidableEq, Repr

/-- A tag starts with a small letter or with one of three signs. -/
def opensTag : Symbol → Bool
  | .char c => ('a' ≤ c && c ≤ 'z') || c = '#' || c = '/' || c = '@'
  | .byte _ => false

def tagRest : Text → Option (Text × Text)
  | [] => none
  | .char '[' :: _ => none
  | .char ']' :: rest => some ([], rest)
  | c :: rest => (tagRest rest).map fun (body, after) => (c :: body, after)

def tag? : Text → Option (Text × Text)
  | [] => none
  | c :: rest =>
    if opensTag c then (tagRest rest).map fun (body, after) => (c :: body, after) else none

theorem length_of_tagRest {t body after : Text} (h : tagRest t = some (body, after)) :
    after.length < t.length := by
  fun_induction tagRest t generalizing body with
  | case1 => simp at h
  | case2 => simp at h
  | case3 rest => simp_all
  | case4 c rest _ _ ih =>
    obtain ⟨⟨b, a⟩, hrest, heq⟩ := Option.map_eq_some_iff.1 h
    simp only [Prod.mk.injEq] at heq
    obtain ⟨_, rfl⟩ := heq
    have := ih hrest
    simp only [List.length_cons]
    omega

theorem length_of_tag? {t body after : Text} (h : tag? t = some (body, after)) :
    after.length < t.length := by
  cases t with
  | nil => simp [tag?] at h
  | cons c rest =>
    simp only [tag?] at h
    split at h
    · obtain ⟨⟨b, a⟩, hrest, heq⟩ := Option.map_eq_some_iff.1 h
      simp only [Prod.mk.injEq] at heq
      obtain ⟨_, rfl⟩ := heq
      have := length_of_tagRest hrest
      simp only [List.length_cons]
      omega
    · simp at h

def backslashes (n : Nat) : Text := List.replicate n (.char '\\')

/-- The pieces of a line, of which `escapes` backslashes have just been read, with its plain text in
bits. -/
def bits (escapes : Nat) : Text → List Piece
  | [] => [.plain (backslashes escapes)]
  | .char '\\' :: rest => bits (escapes + 1) rest
  | .char '[' :: rest =>
    match _h : tag? rest with
    | some (body, after) =>
      .plain (backslashes (escapes / 2))
        :: (if escapes % 2 = 0 then .tag body else .escaped body) :: bits 0 after
    | none => .plain (backslashes (escapes - 1) ++ [.char '[']) :: bits 0 rest
  | c :: rest => .plain (backslashes escapes ++ [c]) :: bits 0 rest
termination_by t => t.length
decreasing_by
  · simp
  · have := length_of_tag? _h
    simp only [List.length_cons]
    omega
  · simp
  · simp

def Piece.before (bit : Piece) (pieces : List Piece) : List Piece :=
  match bit, pieces with
  | .plain s, .plain t :: rest => .plain (s ++ t) :: rest
  | bit, pieces => bit :: pieces

/-- The pieces of a line, with its plain text in pieces that are as long as possible. -/
def pieces (line : Text) : List Piece := (bits 0 line).foldr Piece.before []

/-! ## Tags -/

structure Tag where
  name : Text
  parameters : Option Text
  deriving DecidableEq, Repr

namespace Tag

def ofBody (body : Text) : Tag :=
  match body.splitFirst (.char '=') with
  | some (name, parameters) => ⟨name, some parameters⟩
  | none => ⟨body, none⟩

def toText (tag : Tag) : Text :=
  match tag.parameters with
  | none => tag.name
  | some parameters => tag.name ++ " " ++ parameters

/-- Tags for actions do not style what follows them. -/
def isAction (tag : Tag) : Bool := tag.name.head? = some (.char '@')

end Tag

end AccountRelay.Console
