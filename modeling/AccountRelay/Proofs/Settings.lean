import AccountRelay.Propagate
import AccountRelay.Proofs.Text.Blank
/-!
# The list of instances

The instances may be given as a list, or as one text with gaps between them. The words of the text
take the place of the list, and nothing else about the settings depends on them. So settings from the
text are those from the list, and whether a change is propagated is the same with both.
-/

namespace AccountRelay

namespace Checked

variable {α β γ : Type}

theorem map_map (a : Checked α) (f : α → β) (g : β → γ) :
    Except.map g (Except.map f a) = Except.map (fun x => g (f x)) a := by
  cases a <;> rfl

theorem and_of_ok (x : α) (b : Checked β) :
    and (.ok x) b = Except.map (fun y => (x, y)) b := by
  cases b <;> rfl

theorem and_map (a : Checked α) (b : Checked β) (f : β → γ) :
    and a (Except.map f b) = Except.map (fun pair => (pair.1, f pair.2)) (and a b) := by
  cases a <;> cases b <;> rfl

theorem textItems_map_text (name : String) (n : Nat) (list : List Text) :
    textItems name n (list.map .text) = .ok list := by
  induction list generalizing n with
  | nil => rfl
  | cons t rest ih =>
    rw [List.map_cons, textItems, ih]
    rfl

theorem words_of_spaced {t : Text} {list : List Text} (spaced : t.Spaced list) (name : String) :
    words name (.text t) = .ok list := congrArg Except.ok spaced.words

theorem words_list (name : String) (list : List Text) :
    words name (.list (list.map .text)) = .ok list := textItems_map_text name 0 list

end Checked

/-- Besides the base instance, the listed ones are let through, and no others. -/
theorem Relay.permits_of_instance {r : Relay} {c : Change} {inst : Text}
    (second : c.principal.instance? = some inst) (h : Host) :
    ((r.permits c).on h).1 =
      .ok (decide (some inst = r.settings.adBaseInstance ∨ inst ∈ r.settings.adInstances)) := by
  change _ = Except.ok (r.admits inst)
  unfold permits
  rw [second]
  cases admits : r.admits inst with
  | true => simp only [if_pos, admits, Act.on_pure]
  | false =>
    simp only [admits, Bool.false_eq_true, if_false]
    rfl

namespace Settings

structure Sources where
  arguments : Record
  environment : Variables
  file : Variables

namespace Sources

/-- What the first source that has the setting has for it. -/
def value? (s : Sources) (name : String) : Option Value :=
  s.arguments.argument? name <|> (s.environment.value? name).map .text <|>
    (s.file.value? name).map .text

def load (s : Sources) : Checked Settings := Settings.load s.arguments s.environment s.file

/-- What the sources have for settings other than the instances. -/
def others? (s : Sources) (name : String) : Option Value :=
  if name = "ad_instances" then none else s.value? name

end Sources

/-- Where the instances are a list, it takes the place of the default one in the settings that the
other values make. -/
theorem check_of_words {value? others? : String → Option Value} {list : List Text}
    (read : Checked.words "ad_instances" ((value? "ad_instances").getD (.list [])) = .ok list)
    (absent : others? "ad_instances" = none)
    (same : ∀ name ∈ names, name ≠ "ad_instances" → value? name = others? name) :
    check value? = (check others?).map fun s => { s with adInstances := list } := by
  have empty : Checked.words "ad_instances" (.list []) = .ok [] := rfl
  unfold check
  simp only [same "queue_dir" (by decide) (by decide), same "queue_only" (by decide) (by decide),
    same "realm" (by decide) (by decide), same "delivery" (by decide) (by decide),
    same "ad_base_instance" (by decide) (by decide), same "debug" (by decide) (by decide),
    same "log_level" (by decide) (by decide), read, absent, Option.getD_none, empty,
    Checked.and_of_ok, Checked.and_map, Checked.map_map]

section Instances

variable {t : Text} {list : List Text} {written listed : Sources}

theorem load_of_words {s s' : Sources} {v : Value} (given : s.value? "ad_instances" = some v)
    (read : Checked.words "ad_instances" v = .ok list)
    (same : ∀ name ∈ names, name ≠ "ad_instances" → s.value? name = s'.value? name) :
    s.load = (check s'.others?).map fun s => { s with adInstances := list } := by
  change check s.value? = _
  refine check_of_words ?_ (if_pos rfl) fun name named other => ?_
  · rw [given]
    exact read
  · rw [Sources.others?, if_neg other]
    exact same name named other

/-- With instances in a text, settings are made exactly if the others can be, and they are those with
the list of its words. So they let the same changes through as settings from the list do: of those
with an instance, the ones whose instance is the base instance or in the list. -/
theorem load_of_spaced (spaced : t.Spaced list)
    (text : written.value? "ad_instances" = some (.text t))
    (items : listed.value? "ad_instances" = some (.list (list.map .text)))
    (same : ∀ name ∈ names, name ≠ "ad_instances" → listed.value? name = written.value? name) :
    written.load = (check written.others?).map (fun s => { s with adInstances := list }) ∧
      listed.load = written.load ∧
      ∀ s s', written.load = .ok s → listed.load = .ok s' → s.adInstances = list ∧
        ∀ backend exists? c,
          (Relay.ofSettings s backend exists?).permits c =
            (Relay.ofSettings s' backend exists?).permits c ∧
          ∀ inst, c.principal.instance? = some inst → ∀ h,
            (((Relay.ofSettings s backend exists?).permits c).on h).1 =
              .ok (decide (some inst = s.adBaseInstance ∨ inst ∈ list)) := by
  have fromText := load_of_words text (Checked.words_of_spaced spaced _) fun _ _ _ => rfl
  have fromList := load_of_words items (Checked.words_list _ list) same
  have alike : listed.load = written.load := fromList.trans fromText.symm
  refine ⟨fromText, alike, fun s s' made made' => ?_⟩
  obtain rfl : s = s' := Except.ok.inj (made.symm.trans (alike.symm.trans made'))
  have instances : s.adInstances = list := by
    rw [fromText] at made
    cases others : check written.others? with
    | error issues =>
      rw [others] at made
      cases made
    | ok s =>
      rw [others] at made
      cases made
      rfl
  refine ⟨instances, fun backend exists? c => ⟨rfl, fun inst second h => ?_⟩⟩
  rw [Relay.permits_of_instance second, Relay.ofSettings, instances]

/-- The variable has information separators and wide blanks in it. The name of the argument is in
other letters, which makes no difference. -/
theorem load_of_spaced_of_separators :
    let t : Text := "\x1c ipass\u3000\x1fadmin\n"
    let admin : Text := "admin"
    let list : List Text := ["ipass", admin]
    let written : Sources := ⟨[("realm", .text "R")], [("KRB5_SYNC_AD_INSTANCES", some t)], []⟩
    let listed : Sources := ⟨[("realm", .text "R"), ("AD_Instances", .list (list.map .text))], [], []⟩
    let c : Change := ⟨⟨["test", admin], "R"⟩, .ad, .enable⟩
    t.Spaced list ∧ written.value? "ad_instances" = some (.text t) ∧
      listed.value? "ad_instances" = some (.list (list.map .text)) ∧
      (∀ name ∈ names, name ≠ "ad_instances" → listed.value? name = written.value? name) ∧
      written.load = .ok ⟨none, false, some "R", none, list, none, false, "INFO"⟩ ∧
      listed.load = written.load ∧
      ∀ s, written.load = .ok s → ∀ h, (((Relay.ofSettings s none none).permits c).on h).1 =
        .ok (decide (some admin = s.adBaseInstance ∨ admin ∈ list)) := by
  intro t admin list written listed c
  have spaced : t.Spaced list := Text.words_eq_iff_spaced.1 (by decide)
  have text : written.value? "ad_instances" = some (.text t) := by rfl
  have items : listed.value? "ad_instances" = some (.list (list.map .text)) := by rfl
  have same : ∀ name ∈ names, name ≠ "ad_instances" → listed.value? name = written.value? name := by
    intro name named other
    simp only [names, List.mem_cons, List.not_mem_nil, or_false] at named
    obtain rfl | rfl | rfl | rfl | rfl | rfl | rfl | rfl := named
    all_goals first | rfl | exact absurd rfl other
  obtain ⟨fromText, alike, permits⟩ := load_of_spaced spaced text items same
  refine ⟨spaced, text, items, same, fromText.trans (by rfl), alike, fun s made h => ?_⟩
  exact ((permits s s made (alike.trans made)).2 none none c).2 admin rfl h

end Instances

end Settings

end AccountRelay
