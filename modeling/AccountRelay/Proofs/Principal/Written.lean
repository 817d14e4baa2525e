import AccountRelay.Principal
/-!
# Written names are read back

Escaping leaves a text in which no separator is bare: every symbol of it is either harmless, or
stands behind a backslash and denotes the symbol that was escaped. The reader therefore gives the
components and the realm back, and the search for the realm separator stops where the realm starts.
-/

namespace AccountRelay.Principal

/-! ## One symbol -/

/-- What stands behind a backslash for its own sake. -/
def Literal (special : List Symbol) : Prop := ∀ c ∈ special, denoted c = c

theorem literal_separators : Literal [.char '/', .char '@'] := by
  unfold Literal
  decide

theorem literal_realm : Literal [.char '@'] := by
  unfold Literal
  decide

theorem denoted_letterOf? {c letter : Symbol} (h : letterOf? c = some letter) :
    denoted letter = c := by
  unfold letterOf? at h
  split at h
  · cases h; rfl
  · cases h; rfl
  · cases h; rfl
  · cases h; rfl
  · cases h

/-- A symbol is written behind a backslash, or bare, and then it is no separator. -/
theorem escapeSymbol_cases {special : List Symbol} (literal : Literal special) (c : Symbol) :
    (∃ d, escapeSymbol special c = [.char '\\', d] ∧ denoted d = c) ∨
      (escapeSymbol special c = [c] ∧ c ≠ .char '\\' ∧ c ∉ special) := by
  unfold escapeSymbol
  split
  · rename_i letter h
    exact Or.inl ⟨letter, rfl, denoted_letterOf? h⟩
  · split
    · rename_i marked
      refine Or.inl ⟨c, rfl, ?_⟩
      obtain inside | rfl := marked
      · exact literal c inside
      · decide
    · rename_i harmless
      rw [not_or] at harmless
      exact Or.inr ⟨rfl, harmless.2, harmless.1⟩

theorem letterOf?_of_mem_escape {special : List Symbol} {t : Text} {c : Symbol}
    (h : c ∈ escape special t) : letterOf? c = none := by
  obtain ⟨d, -, inside⟩ := List.mem_flatMap.1 h
  unfold escapeSymbol at inside
  split at inside
  · rename_i letter named
    have harmless : letterOf? letter = none := by
      unfold letterOf? at named
      split at named
      · cases named; rfl
      · cases named; rfl
      · cases named; rfl
      · cases named; rfl
      · cases named
    obtain rfl | rfl : c = .char '\\' ∨ c = letter := by simpa using inside
    · rfl
    · exact harmless
  · rename_i plain
    split at inside
    · obtain rfl | rfl : c = .char '\\' ∨ c = d := by simpa using inside
      · rfl
      · exact plain
    · obtain rfl : c = d := by simpa using inside
      exact plain

@[simp] theorem escape_nil (special : List Symbol) : escape special [] = [] := rfl

@[simp] theorem escape_cons (special : List Symbol) (c : Symbol) (t : Text) :
    escape special (c :: t) = escapeSymbol special c ++ escape special t := List.flatMap_cons

/-! ## Reading -/

theorem scan_of_bare {c : Symbol} (rest : Text) (backslash : c ≠ .char '\\')
    (harmless : c ∉ [Symbol.char '/', .char '@']) :
    scan (c :: rest) = (scan rest).map (Scan.push c) := by
  simp only [List.mem_cons, List.not_mem_nil, or_false, not_or] at harmless
  rw [scan]
  · intro h _; exact backslash h
  · intro _ _ h _; exact backslash h
  · exact harmless.1
  · exact harmless.2

theorem scanRealm_of_bare {c : Symbol} (rest : Text) (backslash : c ≠ .char '\\') :
    scanRealm (c :: rest) = (scanRealm rest).map (c :: ·) := by
  rw [scanRealm]
  · intro h _; exact backslash h
  · intro _ _ h _; exact backslash h

def Scan.pushAll (t : Text) (s : Scan) : Scan := { s with head := t ++ s.head }

theorem scan_escape_append (t rest : Text) :
    scan (escape [.char '/', .char '@'] t ++ rest) = (scan rest).map (Scan.pushAll t) := by
  induction t with
  | nil =>
    change scan rest = (scan rest).map id
    exact Option.map_id_apply.symm
  | cons c t ih =>
    rw [escape_cons, List.append_assoc]
    have compose : (scan rest).map (Scan.pushAll (c :: t)) =
        ((scan rest).map (Scan.pushAll t)).map (Scan.push c) := by
      rw [Option.map_map]
      rfl
    obtain ⟨d, written, meant⟩ | ⟨written, backslash, harmless⟩ :=
      escapeSymbol_cases literal_separators c
    · rw [written, compose, ← ih, ← meant]
      rfl
    · rw [written, compose, ← ih]
      exact scan_of_bare _ backslash harmless

theorem scanRealm_escape (t : Text) : scanRealm (escape [.char '@'] t) = some t := by
  induction t with
  | nil => rfl
  | cons c t ih =>
    rw [escape_cons]
    obtain ⟨d, written, meant⟩ | ⟨written, backslash, -⟩ := escapeSymbol_cases literal_realm c
    · rw [written]
      change (scanRealm (escape _ t)).map (denoted d :: ·) = _
      rw [ih, meant]
      rfl
    · rw [written, List.singleton_append, scanRealm_of_bare _ backslash, ih]
      rfl

/-- The components of a name, written in front of a realm or of nothing, are read back. -/
theorem scan_join_append {rest : Text} {realm : Option Text} (h : scan rest = some ⟨[], [], realm⟩)
    (head : Text) (tail : List Text) :
    scan (Text.join [.char '/'] ((head :: tail).map (escape [.char '/', .char '@'])) ++ rest) =
      some ⟨head, tail, realm⟩ := by
  induction tail generalizing head with
  | nil =>
    change scan (escape _ head ++ rest) = _
    rw [scan_escape_append, h]
    simp [Scan.pushAll]
  | cons next tail ih =>
    have split : Text.join [.char '/'] ((head :: next :: tail).map (escape [.char '/', .char '@']))
        ++ rest = escape [.char '/', .char '@'] head ++ (.char '/' ::
          (Text.join [.char '/'] ((next :: tail).map (escape [.char '/', .char '@'])) ++ rest)) := by
      simp only [List.map_cons, Text.join, List.append_assoc, List.cons_append, List.nil_append]
    have slash (t : Text) : scan (.char '/' :: t) =
        (scan t).map fun s => ⟨[], s.head :: s.tail, s.realm⟩ := rfl
    rw [split, scan_escape_append, slash, ih]
    simp [Scan.pushAll]

def Scan.principal (s : Scan) (defaultRealm : Text) : Principal :=
  ⟨s.head :: s.tail, s.realm.getD defaultRealm⟩

theorem parse_eq_ok_iff {name defaultRealm : Text} {p : Principal} :
    parse name defaultRealm = .ok p ↔
      ∃ s, scan name = some s ∧ s.head ≠ [] ∧ s.principal defaultRealm = p := by
  cases found : scan name with
  | none => simp [parse, found]
  | some s =>
    obtain ⟨_ | ⟨c, head⟩, tail, realm⟩ := s
    · simp [parse, found]
    · simp [parse, found, Scan.principal]

theorem parse_eq_error_iff {name defaultRealm : Text} {f : Fault} :
    parse name defaultRealm = .error f ↔
      scan name = none ∧ f = .trailingEscape name ∨
        (∃ s, scan name = some s ∧ s.head = []) ∧ f = .emptyPrincipal name := by
  cases found : scan name with
  | none => simp [parse, found, eq_comm]
  | some s =>
    obtain ⟨_ | ⟨c, head⟩, tail, realm⟩ := s
    · simp [parse, found, eq_comm]
    · simp [parse, found]

theorem scan_name (head : Text) (tail : List Text) (realm : Text) :
    scan (name ⟨head :: tail, realm⟩) = some ⟨head, tail, none⟩ := by
  have := @scan_join_append [] _ rfl head tail
  rwa [List.append_nil] at this

/-- A name is read back with its components, unless it has none or the first is empty. -/
theorem parse_name (p : Principal) (defaultRealm : Text) (h : p.components.headD [] ≠ []) :
    parse p.name defaultRealm = .ok ⟨p.components, defaultRealm⟩ := by
  obtain ⟨_ | ⟨head, tail⟩, realm⟩ := p
  · exact absurd rfl h
  · exact parse_eq_ok_iff.2 ⟨_, scan_name head tail realm, h, rfl⟩

theorem parse_name_of_empty (p : Principal) (defaultRealm : Text) (h : p.components.headD [] = []) :
    parse p.name defaultRealm = .error (.emptyPrincipal p.name) := by
  obtain ⟨_ | ⟨head, tail⟩, realm⟩ := p
  · rfl
  · exact parse_eq_error_iff.2 (Or.inr ⟨⟨_, scan_name head tail realm, h⟩, rfl⟩)

/-! ## The realm -/

theorem withoutRealm_of_bare {c : Symbol} (rest : Text) (backslash : c ≠ .char '\\')
    (sign : c ≠ .char '@') : withoutRealm (c :: rest) = c :: withoutRealm rest := by
  rw [withoutRealm]
  · intro h _; exact backslash h
  · intro _ _ h _; exact backslash h
  · exact sign

theorem withoutRealm_escape_append (t rest : Text) :
    withoutRealm (escape [.char '/', .char '@'] t ++ rest) =
      escape [.char '/', .char '@'] t ++ withoutRealm rest := by
  induction t with
  | nil => rfl
  | cons c t ih =>
    rw [escape_cons, List.append_assoc, List.append_assoc, ← ih]
    obtain ⟨d, written, -⟩ | ⟨written, backslash, harmless⟩ :=
      escapeSymbol_cases literal_separators c
    · rw [written]
      rfl
    · rw [written]
      simp only [List.mem_cons, List.not_mem_nil, or_false, not_or] at harmless
      exact withoutRealm_of_bare _ backslash harmless.2

theorem withoutRealm_name_append (p : Principal) (rest : Text) :
    withoutRealm (p.name ++ rest) = p.name ++ withoutRealm rest := by
  unfold name
  induction p.components with
  | nil => rfl
  | cons head tail ih =>
    cases tail with
    | nil => exact withoutRealm_escape_append head rest
    | cons next tail =>
      simp only [List.map_cons, Text.join, List.append_assoc, List.cons_append, List.nil_append]
        at ih ⊢
      rw [withoutRealm_escape_append, withoutRealm_of_bare _ (by decide) (by decide), ih]

/-- The account is the name: the search for the realm stops where the realm starts. -/
theorem account_eq_name (p : Principal) : p.account = p.name := by
  unfold account unparse
  split
  · have := withoutRealm_name_append p []
    rwa [List.append_nil, withoutRealm, List.append_nil] at this
  · rw [List.append_assoc, withoutRealm_name_append]
    exact List.append_nil _

theorem letterOf?_of_mem_name {p : Principal} {c : Symbol} (h : c ∈ p.name) :
    letterOf? c = none := by
  unfold name at h
  generalize p.components = components at h
  induction components with
  | nil => cases h
  | cons head tail ih =>
    cases tail with
    | nil => exact letterOf?_of_mem_escape h
    | cons next tail =>
      simp only [List.map_cons, Text.join, List.mem_append, List.mem_singleton] at h ih
      obtain (inside | rfl) | later := h
      · exact letterOf?_of_mem_escape inside
      · rfl
      · exact ih later

theorem newline_not_mem_account (p : Principal) : Symbol.char '\n' ∉ p.account := by
  intro h
  rw [account_eq_name] at h
  exact absurd (letterOf?_of_mem_name h) (by decide)

/-! ## Whole principals -/

theorem unparse_cons (components : List Text) (c : Symbol) (realm : Text) :
    unparse ⟨components, c :: realm⟩ =
      name ⟨components, []⟩ ++ .char '@' :: escape [.char '@'] (c :: realm) := by
  change name ⟨components, c :: realm⟩ ++ [.char '@'] ++ escape [.char '@'] (c :: realm) = _
  rw [List.append_assoc]
  rfl

/-- The written form tells two realms of a name apart, and a realm from none. -/
theorem unparse_eq_iff {components : List Text} {realm other : Text} :
    unparse ⟨components, realm⟩ = unparse ⟨components, other⟩ ↔ realm = other := by
  constructor
  · intro same
    have bare : unparse ⟨components, []⟩ = name ⟨components, []⟩ := rfl
    cases realm with
    | nil =>
      cases other with
      | nil => rfl
      | cons d other => simp [unparse_cons, bare] at same
    | cons c realm =>
      cases other with
      | nil => simp [unparse_cons, bare] at same
      | cons d other =>
        rw [unparse_cons, unparse_cons, List.append_cancel_left_eq, List.cons.injEq] at same
        have read := scanRealm_escape (c :: realm)
        rw [same.2, scanRealm_escape] at read
        exact (Option.some.inj read).symm
  · rintro rfl
    rfl

theorem scan_unparse (head : Text) (tail : List Text) (realm : Text) :
    scan (unparse ⟨head :: tail, realm⟩) =
      some ⟨head, tail, if realm = [] then none else some realm⟩ := by
  cases realm with
  | nil => exact scan_name head tail []
  | cons c realm =>
    have sign : scan (.char '@' :: escape [.char '@'] (c :: realm)) =
        some ⟨[], [], some (c :: realm)⟩ := by
      change (scanRealm (escape _ (c :: realm))).map _ = _
      rw [scanRealm_escape]
      rfl
    rw [unparse_cons]
    exact scan_join_append sign head tail

theorem parse_unparse (p : Principal) (defaultRealm : Text) (h : p.components.headD [] ≠ []) :
    parse p.unparse defaultRealm =
      .ok ⟨p.components, if p.realm = [] then defaultRealm else p.realm⟩ := by
  obtain ⟨_ | ⟨head, tail⟩, realm⟩ := p
  · exact absurd rfl h
  · refine parse_eq_ok_iff.2 ⟨_, scan_unparse head tail realm, h, ?_⟩
    rw [Scan.principal, apply_ite fun realm : Option Text => realm.getD defaultRealm]
    rfl

theorem named_of_parse {name defaultRealm : Text} {p : Principal}
    (read : parse name defaultRealm = .ok p) : p.components.headD [] ≠ [] := by
  obtain ⟨s, -, named, rfl⟩ := parse_eq_ok_iff.1 read
  exact named

theorem parse_unparse_nil {p : Principal} (h : p.components.headD [] ≠ []) :
    parse p.unparse [] = .ok p := by
  rw [parse_unparse p [] h]
  obtain ⟨components, _ | ⟨c, realm⟩⟩ := p <;> rfl

/-- Reading undoes writing. So no two principals are written alike, and a name that was read has one
written form, which is read as the same principal and written as it is. -/
theorem parse_undoes_unparse :
    (∀ (p : Principal) (defaultRealm : Text), p.components.headD [] ≠ [] →
      parse p.unparse defaultRealm =
        .ok ⟨p.components, if p.realm = [] then defaultRealm else p.realm⟩) ∧
      (∀ p q : Principal, p.components.headD [] ≠ [] → q.components.headD [] ≠ [] →
        p.unparse = q.unparse → p = q) ∧
      ∀ (name defaultRealm : Text) (p : Principal), parse name defaultRealm = .ok p →
        parse p.unparse [] = .ok p ∧ (parse p.unparse []).map unparse = .ok p.unparse := by
  refine ⟨parse_unparse, ?_, ?_⟩
  · intro p q named named' same
    have read : parse p.unparse [] = .ok q := by rw [same, parse_unparse_nil named']
    exact Except.ok.inj ((parse_unparse_nil named).symm.trans read)
  · intro name defaultRealm p read
    have again : parse p.unparse [] = .ok p := parse_unparse_nil (named_of_parse read)
    exact ⟨again, by rw [again]; rfl⟩

/-- A backslash of the name may stand before a letter, and control characters are there besides. The
name is not in the form that it is written in again: the realm of it has a bare at sign. -/
theorem parse_undoes_unparse_of_escapes :
    let p : Principal := ⟨["a/b@", [], "\\n\n\x08\x00"], "R@E/\\t\t"⟩
    let written : Text := "a\\/b\\@//\\\\n\\n\\b\\0@R\\@E/\\\\t\\t"
    let name : Text := "\\a\\/b\\@//\\\\n\\n\\b\\0@R@E\\/\\\\t\\t"
    p.unparse = written ∧ p.components.headD [] ≠ [] ∧ parse written "D" = .ok p ∧
      (∀ q : Principal, q.components.headD [] ≠ [] → q.unparse = written → p = q) ∧
      parse name "D" = .ok p ∧ parse written [] = .ok p ∧
      (parse written []).map unparse = .ok written := by
  intro p written name
  have spelled : p.unparse = written := by decide +kernel
  have named : p.components.headD [] ≠ [] := by decide
  have read : parse name "D" = .ok p := by rfl
  obtain ⟨undoes, apart, again⟩ := parse_undoes_unparse
  have there := undoes p "D" named
  have back := again name "D" p read
  rw [spelled] at there back
  exact ⟨spelled, named, there, fun q named' same => apart p q named named' (spelled.trans same.symm),
    read, back⟩

end AccountRelay.Principal
