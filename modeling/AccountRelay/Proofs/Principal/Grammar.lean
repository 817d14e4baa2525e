import Mathlib.Data.List.TakeDrop
import AccountRelay.Principal.Grammar
import AccountRelay.Proofs.Principal.Written
/-!
# Which names can be read

The reader takes a name apart in one pass over its symbols. The grammar takes it apart in three
steps: into tokens, at the first bare at sign, and at the bare slashes before it. Both come to the
same, because a pass over the symbols is a pass over the tokens (`scan_eq_map_ofTokens`), and there
each token is put where the grammar has it.
-/

namespace AccountRelay.Principal

/-! ## Tokens -/

namespace Token

/-- The text, read from the left, is these tokens. -/
inductive Spell : List Token → Text → Prop where
  | nil : Spell [] []
  | escaped {tokens : List Token} {rest : Text} (c : Symbol) (after : Spell tokens rest) :
    Spell (escaped c :: tokens) (.char '\\' :: c :: rest)
  | bare {c : Symbol} {tokens : List Token} {rest : Text} (plain : c ≠ .char '\\')
    (after : Spell tokens rest) : Spell (bare c :: tokens) (c :: rest)

/-- The text, read from the left, ends in a backslash that no symbol follows. -/
inductive EndsInside : Text → Prop where
  | backslash : EndsInside [.char '\\']
  | escaped {rest : Text} (c : Symbol) (after : EndsInside rest) :
    EndsInside (.char '\\' :: c :: rest)
  | bare {c : Symbol} {rest : Text} (plain : c ≠ .char '\\') (after : EndsInside rest) :
    EndsInside (c :: rest)

/-- The tokens before the first bare slash or at sign. -/
def leading (tokens : List Token) : List Token :=
  tokens.takeWhile fun token => token ≠ bare (.char '/') ∧ token ≠ bare (.char '@')

/-- A text goes on with a token or is at its end, which may be a backslash. -/
@[elab_as_elim]
theorem text_induction {motive : Text → Prop} (nil : motive [])
    (backslash : motive [.char '\\'])
    (escaped : ∀ c rest, motive rest → motive (.char '\\' :: c :: rest))
    (bare : ∀ c rest, c ≠ .char '\\' → motive rest → motive (c :: rest)) (t : Text) : motive t := by
  fun_induction ofText? t with
  | case1 => exact nil
  | case2 => exact backslash
  | case3 c rest ih => exact escaped c rest ih
  | case4 c rest single follows ih =>
    refine bare c rest ?_ ih
    rintro rfl
    cases rest with
    | nil => exact single rfl rfl
    | cons d rest => exact follows d rest rfl rfl

variable {tokens : List Token} {t : Text}

theorem ofText?_of_bare {c : Symbol} (rest : Text) (backslash : c ≠ .char '\\') :
    ofText? (c :: rest) = (ofText? rest).map (bare c :: ·) := by
  rw [ofText?]
  · intro h _; exact backslash h
  · intro _ _ h _; exact backslash h

theorem Spell.ofText? (spell : Spell tokens t) : ofText? t = some tokens := by
  induction spell with
  | nil => rfl
  | escaped c after ih =>
    change (Token.ofText? _).map _ = _
    rw [ih]
    rfl
  | bare plain after ih =>
    rw [ofText?_of_bare _ plain, ih]
    rfl

theorem EndsInside.ofText? (ends : EndsInside t) : ofText? t = none := by
  induction ends with
  | backslash => rfl
  | escaped c after ih =>
    change (Token.ofText? _).map _ = _
    rw [ih]
    rfl
  | bare plain after ih =>
    rw [ofText?_of_bare _ plain, ih]
    rfl

theorem spell_or_endsInside (t : Text) : (∃ tokens, Spell tokens t) ∨ EndsInside t := by
  induction t using text_induction with
  | nil => exact Or.inl ⟨[], .nil⟩
  | backslash => exact Or.inr .backslash
  | escaped c rest ih =>
    obtain ⟨tokens, after⟩ | after := ih
    · exact Or.inl ⟨_, .escaped c after⟩
    · exact Or.inr (.escaped c after)
  | bare c rest plain ih =>
    obtain ⟨tokens, after⟩ | after := ih
    · exact Or.inl ⟨_, .bare plain after⟩
    · exact Or.inr (.bare plain after)

theorem ofText?_eq_some_iff : ofText? t = some tokens ↔ Spell tokens t := by
  constructor
  · intro read
    obtain ⟨others, spell⟩ | ends := spell_or_endsInside t
    · cases spell.ofText?.symm.trans read
      exact spell
    · cases ends.ofText?.symm.trans read
  · exact Spell.ofText?

theorem ofText?_eq_none_iff : ofText? t = none ↔ EndsInside t := by
  constructor
  · intro unread
    obtain ⟨tokens, spell⟩ | ends := spell_or_endsInside t
    · cases spell.ofText?.symm.trans unread
    · exact ends
  · exact EndsInside.ofText?

/-! ## Parts -/

theorem splitRealm_cons {token : Token} (other : token ≠ bare (.char '@')) (rest : List Token) :
    splitRealm (token :: rest) = (token :: (splitRealm rest).1, (splitRealm rest).2) := by
  simp only [splitRealm, List.span_eq_takeWhile_dropWhile, List.takeWhile_cons, List.dropWhile_cons,
    decide_eq_true other, if_true]
  cases rest.dropWhile fun token => decide (token ≠ bare (.char '@')) <;> rfl

end Token

/-! ## The pass over the tokens -/

/-- What a name is taken apart into, token by token. -/
def Scan.ofTokens : List Token → Scan
  | [] => ⟨[], [], none⟩
  | .bare (.char '/') :: rest => ⟨[], (ofTokens rest).head :: (ofTokens rest).tail, (ofTokens rest).realm⟩
  | .bare (.char '@') :: rest => ⟨[], [], some (rest.map Token.value)⟩
  | token :: rest => (ofTokens rest).push token.value

theorem Scan.ofTokens_cons {token : Token} (slash : token ≠ .bare (.char '/'))
    (sign : token ≠ .bare (.char '@')) (rest : List Token) :
    ofTokens (token :: rest) = (ofTokens rest).push token.value := by
  rw [ofTokens]
  · exact slash
  · exact sign

theorem scanRealm_eq_map_value (t : Text) :
    scanRealm t = (Token.ofText? t).map (List.map Token.value) := by
  induction t using Token.text_induction with
  | nil => rfl
  | backslash => rfl
  | escaped c rest ih =>
    change (scanRealm rest).map _ = ((Token.ofText? rest).map _).map _
    rw [ih, Option.map_map, Option.map_map]
    rfl
  | bare c rest plain ih =>
    rw [scanRealm_of_bare rest plain, Token.ofText?_of_bare rest plain, ih, Option.map_map,
      Option.map_map]
    rfl

/-- A pass over the symbols is a pass over the tokens. -/
theorem scan_eq_map_ofTokens (t : Text) : scan t = (Token.ofText? t).map Scan.ofTokens := by
  induction t using Token.text_induction with
  | nil => rfl
  | backslash => rfl
  | escaped c rest ih =>
    change (scan rest).map _ = ((Token.ofText? rest).map _).map _
    rw [ih, Option.map_map, Option.map_map]
    rfl
  | bare c rest plain ih =>
    rw [Token.ofText?_of_bare rest plain, Option.map_map]
    by_cases slash : c = .char '/'
    · subst slash
      change (scan rest).map _ = _
      rw [ih, Option.map_map]
      rfl
    by_cases sign : c = .char '@'
    · subst sign
      change (scanRealm rest).map _ = _
      rw [scanRealm_eq_map_value, Option.map_map]
      rfl
    · rw [scan_of_bare rest plain (by simp [slash, sign]), ih, Option.map_map]
      have pushed (tokens : List Token) : Scan.ofTokens (.bare c :: tokens) =
          (Scan.ofTokens tokens).push c :=
        Scan.ofTokens_cons (by simp [slash]) (by simp [sign]) tokens
      exact Option.map_congr fun tokens _ => (pushed tokens).symm

/-! ## Where each token is put -/

namespace Scan

theorem ofTokens_components (tokens : List Token) :
    (ofTokens tokens).head :: (ofTokens tokens).tail =
      ((Token.splitRealm tokens).1.splitOn (.bare (.char '/'))).map (·.map Token.value) := by
  induction tokens with
  | nil => rfl
  | cons token rest ih =>
    by_cases sign : token = .bare (.char '@')
    · subst sign
      rfl
    rw [Token.splitRealm_cons sign, List.splitOn_cons_eq_if_modifyHead]
    by_cases slash : token = .bare (.char '/')
    · subst slash
      simp only [beq_self_eq_true, if_true, List.map_cons, List.map_nil, ← ih]
      rfl
    · rw [if_neg (by simpa using slash), ofTokens_cons slash sign]
      cases split : (Token.splitRealm rest).1.splitOn (.bare (.char '/')) with
      | nil => exact absurd split (List.splitOn_ne_nil _ _)
      | cons part parts =>
        rw [split, List.map_cons, List.cons.injEq] at ih
        simp only [push, ih.1, ih.2, List.modifyHead_cons, List.map_cons]

theorem ofTokens_realm (tokens : List Token) :
    (ofTokens tokens).realm = (Token.splitRealm tokens).2.map (·.map Token.value) := by
  induction tokens with
  | nil => rfl
  | cons token rest ih =>
    by_cases sign : token = .bare (.char '@')
    · subst sign
      rfl
    rw [Token.splitRealm_cons sign]
    by_cases slash : token = .bare (.char '/')
    · subst slash
      exact ih
    · rw [ofTokens_cons slash sign]
      exact ih

theorem ofTokens_head (tokens : List Token) :
    (ofTokens tokens).head = (Token.leading tokens).map Token.value := by
  induction tokens with
  | nil => rfl
  | cons token rest ih =>
    by_cases sign : token = .bare (.char '@')
    · subst sign
      rfl
    by_cases slash : token = .bare (.char '/')
    · subst slash
      rfl
    · rw [ofTokens_cons slash sign, Token.leading, List.takeWhile_cons,
        if_pos (by simp [slash, sign]), List.map_cons]
      exact congrArg (token.value :: ·) ih

end Scan

/-! ## Reading -/

variable {name defaultRealm : Text}

theorem scan_eq_none_iff : scan name = none ↔ Token.EndsInside name := by
  rw [scan_eq_map_ofTokens, Option.map_eq_none_iff, Token.ofText?_eq_none_iff]

theorem scan_eq_some_iff {s : Scan} :
    scan name = some s ↔ ∃ tokens, Token.Spell tokens name ∧ Scan.ofTokens tokens = s := by
  simp only [scan_eq_map_ofTokens, Option.map_eq_some_iff, Token.ofText?_eq_some_iff]

theorem spelled_eq_some_iff {p : Principal} :
    spelled name defaultRealm = some p ↔
      ∃ s, scan name = some s ∧ s.head ≠ [] ∧ s.principal defaultRealm = p := by
  rw [spelled, scan_eq_map_ofTokens]
  cases Token.ofText? name with
  | none => simp
  | some tokens =>
    simp only [Option.bind_some, Option.map_some, Option.some.injEq, exists_eq_left',
      ← Scan.ofTokens_components, ← Scan.ofTokens_realm, List.head?_cons]
    by_cases empty : (Scan.ofTokens tokens).head = []
    · simp [empty]
    · simp [empty, Scan.principal]

/-- Names are read as their grammar says. A name is refused if it ends inside a token, or else if no
token stands before its first bare separator. -/
theorem parse_iff_spelled (name defaultRealm : Text) :
    (∀ p, parse name defaultRealm = .ok p ↔ spelled name defaultRealm = some p) ∧
      (∀ f, parse name defaultRealm = .error f ↔
        Token.EndsInside name ∧ f = .trailingEscape name ∨
          (∃ tokens, Token.Spell tokens name ∧ Token.leading tokens = []) ∧
            f = .emptyPrincipal name) ∧
      ∀ tokens, Token.ofText? name = some tokens ↔ Token.Spell tokens name := by
  refine ⟨fun p => parse_eq_ok_iff.trans spelled_eq_some_iff.symm, ?_,
    fun tokens => Token.ofText?_eq_some_iff⟩
  intro f
  have headless : (∃ s, scan name = some s ∧ s.head = []) ↔
      ∃ tokens, Token.Spell tokens name ∧ Token.leading tokens = [] := by
    simp only [scan_eq_some_iff, exists_exists_and_eq_and, Scan.ofTokens_head, List.map_eq_nil_iff]
  rw [parse_eq_error_iff, scan_eq_none_iff, headless]

example : parse "te\\@st/\\n//n@A/B@\\/\\t" "D" = .ok ⟨["te@st", "\n", [], "n"], "A/B@/\t"⟩ := by rfl

end AccountRelay.Principal
