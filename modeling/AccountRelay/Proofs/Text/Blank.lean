import AccountRelay.Text.Blank
/-!
# Words with gaps between them

A text has blanks before its first word, behind its last one and between any two, where there is at
least one. The words that are found in a text are the only ones it is made of in this way.
-/

namespace AccountRelay.Text

def Blank (t : Text) : Prop := ∀ c ∈ t, isBlank c = true

/-- The text is one word. -/
structure Solid (t : Text) : Prop where
  nonempty : t ≠ []
  clear : ∀ c ∈ t, isBlank c = false

/-- What stands behind a word: gaps, each with the word after it, and blanks at the end. -/
inductive Trails : Text → List Text → Prop where
  | done {gap : Text} (blank : Blank gap) : Trails gap []
  | word {gap word rest : Text} {words : List Text} (parted : gap ≠ []) (blank : Blank gap)
    (solid : Solid word) (more : Trails rest words) : Trails (gap ++ (word ++ rest)) (word :: words)

/-- The text is made of the words, with gaps between them and blanks at its ends. -/
inductive Spaced : Text → List Text → Prop where
  | blank {gap : Text} (blank : Blank gap) : Spaced gap []
  | word {gap word rest : Text} {words : List Text} (blank : Blank gap) (solid : Solid word)
    (more : Trails rest words) : Spaced (gap ++ (word ++ rest)) (word :: words)

theorem blank_nil : Blank [] := fun _ inside => nomatch inside

/-! ## One symbol -/

section Cons

variable {c : Symbol} {t word : Text} {others : List Text}

theorem wordsFrom_cons_of_blank (blank : isBlank c = true) : wordsFrom (c :: t) = (words t, false) := by
  simp only [wordsFrom, blank, if_true, words]

theorem wordsFrom_cons_of_apart (clear : isBlank c = false) (apart : (wordsFrom t).2 = false) :
    wordsFrom (c :: t) = ([c] :: words t, true) := by
  unfold words
  rw [wordsFrom]
  cases found : wordsFrom t with
  | mk read inside =>
    rw [found] at apart
    obtain rfl : inside = false := apart
    simp [clear]

theorem wordsFrom_cons_of_inside (clear : isBlank c = false)
    (inside : wordsFrom t = (word :: others, true)) :
    wordsFrom (c :: t) = ((c :: word) :: others, true) := by
  rw [wordsFrom, inside]
  simp [clear]

end Cons

/-! ## Gaps and words -/

section Append

variable {gap word t : Text} {list : List Text}

theorem wordsFrom_blank_append (blank : Blank gap) (parted : gap ≠ []) (t : Text) :
    wordsFrom (gap ++ t) = (words t, false) := by
  induction gap with
  | nil => exact absurd rfl parted
  | cons c rest ih =>
    obtain ⟨first, others⟩ := List.forall_mem_cons.1 blank
    rw [List.cons_append, wordsFrom_cons_of_blank first]
    by_cases last : rest = []
    · rw [last, List.nil_append]
    · rw [words, ih others last]

theorem words_blank_append (blank : Blank gap) (t : Text) : words (gap ++ t) = words t := by
  by_cases parted : gap = []
  · rw [parted, List.nil_append]
  · rw [words, wordsFrom_blank_append blank parted]

/-- A word is found as a whole where none goes on behind it. -/
theorem wordsFrom_solid_append (solid : Solid word) (apart : (wordsFrom t).2 = false) :
    wordsFrom (word ++ t) = (word :: words t, true) := by
  obtain ⟨nonempty, clear⟩ := solid
  induction word with
  | nil => exact absurd rfl nonempty
  | cons c rest ih =>
    obtain ⟨first, others⟩ := List.forall_mem_cons.1 clear
    rw [List.cons_append]
    by_cases last : rest = []
    · rw [last, List.nil_append]
      exact wordsFrom_cons_of_apart first apart
    · exact wordsFrom_cons_of_inside first (ih last others)

theorem Trails.wordsFrom (trails : Trails t list) : wordsFrom t = (list, false) := by
  induction trails with
  | @done gap blank =>
    by_cases parted : gap = []
    · rw [parted]
      rfl
    · have found := wordsFrom_blank_append blank parted []
      rwa [List.append_nil] at found
  | word parted blank solid more ih =>
    have apart : (Text.wordsFrom _).2 = false := congrArg Prod.snd ih
    rw [wordsFrom_blank_append blank parted, words, wordsFrom_solid_append solid apart, words, ih]

theorem Spaced.words (spaced : Spaced t list) : words t = list := by
  cases spaced with
  | blank blank => exact congrArg Prod.fst (Trails.done blank).wordsFrom
  | word blank solid more =>
    have behind := more.wordsFrom
    have apart : (Text.wordsFrom _).2 = false := congrArg Prod.snd behind
    rw [words_blank_append blank, Text.words, wordsFrom_solid_append solid apart, Text.words, behind]

end Append

/-! ## Every text -/

theorem Blank.cons {c : Symbol} {gap : Text} (first : isBlank c = true) (blank : Blank gap) :
    Blank (c :: gap) := List.forall_mem_cons.2 ⟨first, blank⟩

theorem Solid.cons {c : Symbol} {word : Text} (first : isBlank c = false) (solid : Solid word) :
    Solid (c :: word) := ⟨List.cons_ne_nil c word, List.forall_mem_cons.2 ⟨first, solid.clear⟩⟩

theorem solid_singleton {c : Symbol} (clear : isBlank c = false) : Solid [c] :=
  ⟨List.cons_ne_nil c [], List.forall_mem_singleton.2 clear⟩

theorem Trails.cons {c : Symbol} {t : Text} {list : List Text} (blank : isBlank c = true)
    (trails : Trails t list) : Trails (c :: t) list := by
  cases trails with
  | done gap => exact .done (gap.cons blank)
  | @word gap word rest words parted gapBlank solid more =>
    exact .word (List.cons_ne_nil c gap) (gapBlank.cons blank) solid more

/-- What is found in a text, by whether the text starts inside a word. -/
inductive Finds : Text → List Text × Bool → Prop where
  | apart {t : Text} {list : List Text} (trails : Trails t list) : Finds t (list, false)
  | inside {word rest : Text} {others : List Text} (solid : Solid word) (more : Trails rest others) :
    Finds (word ++ rest) (word :: others, true)

theorem finds_wordsFrom (t : Text) : Finds t (wordsFrom t) := by
  induction t with
  | nil => exact .apart (.done blank_nil)
  | cons c t ih =>
    cases blank : isBlank c with
    | true =>
      rw [wordsFrom_cons_of_blank blank, words]
      generalize wordsFrom t = found at ih
      cases ih with
      | apart trails => exact .apart (trails.cons blank)
      | inside solid more =>
        exact .apart (.word (List.cons_ne_nil c []) (blank_nil.cons blank) solid more)
    | false =>
      cases found : wordsFrom t with
      | mk read within =>
        rw [found] at ih
        cases ih with
        | apart trails =>
          rw [wordsFrom_cons_of_apart blank (by rw [found]), words, found]
          exact .inside (solid_singleton blank) trails
        | inside solid more =>
          rw [wordsFrom_cons_of_inside blank found]
          exact .inside (solid.cons blank) more

/-- The words of a text are those that it is made of with gaps between them. -/
theorem words_eq_iff_spaced {t : Text} {list : List Text} : words t = list ↔ Spaced t list := by
  constructor
  · rintro rfl
    have finds := finds_wordsFrom t
    rw [words]
    generalize wordsFrom t = found at finds
    cases finds with
    | apart trails =>
      cases trails with
      | done blank => exact .blank blank
      | word parted blank solid more => exact .word blank solid more
    | inside solid more => exact .word blank_nil solid more
  · exact Spaced.words

end AccountRelay.Text
