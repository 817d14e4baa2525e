import AccountRelay.Change
import AccountRelay.Proofs.Principal.Grammar
/-!
# The realm is left out

Two passes look for the realm of a written name: the reader, which takes the name apart, and the
search that cuts the realm off and leaves the escapes as they are. Both go from token to token, so
they stop at the same at sign, and what is left spells the same components. The account of a change
and its conflict key are made from what is left.
-/

namespace AccountRelay

namespace Principal

/-! ## Where the name is cut -/

namespace Token

/-- What a name has behind its components: nothing, or an at sign and the tokens of a realm. -/
inductive SpellRealm : Option (List Token) → Text → Prop where
  | absent : SpellRealm none []
  | behind {tokens : List Token} {written : Text} (spell : Spell tokens written) :
    SpellRealm (some tokens) (.char '@' :: written)

variable {tokens : List Token} {t : Text}

theorem Spell.before (spell : Spell tokens t) : Spell (splitRealm tokens).1 (withoutRealm t) := by
  induction spell with
  | nil => exact .nil
  | escaped c after ih =>
    rw [splitRealm_cons (by simp)]
    exact .escaped c ih
  | @bare c tokens rest plain after ih =>
    by_cases sign : c = .char '@'
    · subst sign
      exact .nil
    · rw [splitRealm_cons (by simpa using sign), withoutRealm_of_bare rest plain sign]
      exact .bare plain ih

theorem Spell.behind (spell : Spell tokens t) :
    ∃ rest, withoutRealm t ++ rest = t ∧ SpellRealm (splitRealm tokens).2 rest := by
  induction spell with
  | nil => exact ⟨[], rfl, .absent⟩
  | escaped c after ih =>
    obtain ⟨rest, cut, realm⟩ := ih
    rw [splitRealm_cons (by simp)]
    exact ⟨rest, congrArg (Symbol.char '\\' :: c :: ·) cut, realm⟩
  | @bare c tokens rest plain after ih =>
    by_cases sign : c = .char '@'
    · subst sign
      exact ⟨_, rfl, .behind after⟩
    · obtain ⟨rest, cut, realm⟩ := ih
      rw [splitRealm_cons (by simpa using sign), withoutRealm_of_bare _ plain sign]
      exact ⟨rest, congrArg (c :: ·) cut, realm⟩

theorem splitRealm_before (tokens : List Token) :
    splitRealm (splitRealm tokens).1 = ((splitRealm tokens).1, none) := by
  induction tokens with
  | nil => rfl
  | cons token rest ih =>
    by_cases sign : token = bare (.char '@')
    · subst sign
      rfl
    · rw [splitRealm_cons sign, splitRealm_cons sign, ih]

end Token

theorem Scan.ofTokens_before (tokens : List Token) :
    ofTokens (Token.splitRealm tokens).1 = { ofTokens tokens with realm := none } := by
  have components := ofTokens_components (Token.splitRealm tokens).1
  have realm := ofTokens_realm (Token.splitRealm tokens).1
  rw [Token.splitRealm_before] at components realm
  rw [← ofTokens_components, List.cons.injEq] at components
  rw [Scan.mk.injEq]
  exact ⟨components.1, components.2, realm⟩

/-! ## Reading without the realm -/

variable {name : Text} {s : Scan}

theorem scan_withoutRealm (read : scan name = some s) :
    scan (withoutRealm name) = some { s with realm := none } := by
  obtain ⟨tokens, spell, rfl⟩ := scan_eq_some_iff.1 read
  exact scan_eq_some_iff.2 ⟨_, spell.before, Scan.ofTokens_before tokens⟩

/-- The reader and the search stop at the same at sign. -/
theorem cut_of_scan (read : scan name = some s) :
    ∃ rest, withoutRealm name ++ rest = name ∧
      (rest = [] ∧ s.realm = none ∨
        ∃ written realm, rest = .char '@' :: written ∧ scanRealm written = some realm ∧
          s.realm = some realm) := by
  obtain ⟨tokens, spell, rfl⟩ := scan_eq_some_iff.1 read
  obtain ⟨rest, cut, realm⟩ := spell.behind
  refine ⟨rest, cut, ?_⟩
  rw [Scan.ofTokens_realm]
  generalize (Token.splitRealm tokens).2 = realmTokens at realm ⊢
  cases realm with
  | absent => exact Or.inl ⟨rfl, rfl⟩
  | @behind after written spell =>
    refine Or.inr ⟨written, after.map Token.value, rfl, ?_, rfl⟩
    rw [scanRealm_eq_map_value, spell.ofText?]
    rfl

/-! ## Changes -/

theorem account_eq_of_components {p q : Principal} (same : p.components = q.components) :
    p.account = q.account := by
  rw [account_eq_name, account_eq_name, Principal.name, same]
  rfl

end Principal

/-- Cutting the realm off a name leaves a name of the same components without a realm, and what is
cut off is the realm that the reader finds. So neither the account line of a change nor its conflict
key tells one realm from another. -/
theorem realm_left_out :
    (∀ (name defaultRealm : Text) (p : Principal), Principal.parse name defaultRealm = .ok p →
      (∀ other, Principal.parse (withoutRealm name) other = .ok ⟨p.components, other⟩) ∧
        ∃ rest, withoutRealm name ++ rest = name ∧
          (rest = [] ∧ p.realm = defaultRealm ∨
            ∃ written, rest = .char '@' :: written ∧
              Principal.scanRealm written = some p.realm)) ∧
      (∀ p : Principal, withoutRealm p.unparse = p.name) ∧
      ∀ c c' : Change, c.principal.components = c'.principal.components →
        c.operation = c'.operation →
        c.account = c'.account ∧ c.key = c'.key ∧ (c.password = c'.password → c.lines = c'.lines) := by
  refine ⟨?_, Principal.account_eq_name, ?_⟩
  · intro name defaultRealm p read
    obtain ⟨s, scanned, named, rfl⟩ := Principal.parse_eq_ok_iff.1 read
    constructor
    · intro other
      exact Principal.parse_eq_ok_iff.2 ⟨_, Principal.scan_withoutRealm scanned, named, rfl⟩
    · obtain ⟨rest, cut, found⟩ := Principal.cut_of_scan scanned
      refine ⟨rest, cut, ?_⟩
      obtain ⟨nothing, absent⟩ | ⟨written, realm, written_eq, spelled, present⟩ := found
      · exact Or.inl ⟨nothing, by rw [Principal.Scan.principal, absent]; rfl⟩
      · refine Or.inr ⟨written, written_eq, ?_⟩
        rw [spelled, Principal.Scan.principal, present]
        rfl
  · intro c c' components operation
    have account : c.account = c'.account := Principal.account_eq_of_components components
    have domain : c.domain = c'.domain := by cases c.domain; cases c'.domain; rfl
    refine ⟨account, ?_, ?_⟩
    · have user : c.principal.user = c'.principal.user :=
        congrArg (Text.replace (.char '/') (.char '.')) account
      rw [Change.key, Change.key, Change.changeClass, Change.changeClass, user, domain, operation]
    · intro password
      rw [Change.lines, Change.lines, account, domain, operation, password]

/-- The first at sign is escaped. An escaped backslash stands before the second one, which therefore
starts the realm, and the realm has at signs of its own. -/
theorem realm_left_out_of_signs :
    let name : Text := "te\\@st/\\\\@A/B@\\@"
    let p : Principal := ⟨["te@st", "\\"], "A/B@@"⟩
    let c : Change := ⟨p, .ad, .enable⟩
    let c' : Change := ⟨⟨["te@st", "\\"], []⟩, .ad, .enable⟩
    Principal.parse name [] = .ok p ∧ withoutRealm name = "te\\@st/\\\\" ∧
      Principal.parse (withoutRealm name) [] = .ok c'.principal ∧ withoutRealm p.unparse = p.name ∧
      c.account = c'.account ∧ c.key = c'.key ∧ c.lines = c'.lines := by
  intro name p c c'
  have read : Principal.parse name [] = .ok p := by rfl
  obtain ⟨cut, written, alike⟩ := realm_left_out
  obtain ⟨account, key, lines⟩ := alike c c' rfl rfl
  exact ⟨read, by decide, (cut name [] p read).1 [], written p, account, key, lines rfl⟩

end AccountRelay
