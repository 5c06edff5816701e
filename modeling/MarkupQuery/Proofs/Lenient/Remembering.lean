import Mathlib
import MarkupQuery.Warnings

/-!
What is remembered of the warnings given.

Warnings are given and cleared in any order. `after` is what a run of such acts leaves recorded, and
`given` lists the warnings since the last time they were cleared, each with its component. A warning
is remembered by its entry alone, so after any run

* `recorded_after`: exactly the entries of the warnings given are recorded, each once; `has_after`
  and `count_after` say this of the two questions that can be asked.

An entry is the component, a mark and the text, put one behind another, and the mark may stand in a
component or in a text as well.

* `entry_eq_iff`: two warnings have one entry just if they are the same, or if one component goes on
  where the mark of the other begins;
* `after_spec`: so warnings of given components are told apart, after every run, just if none of the
  components begins with another and the mark.
-/

namespace MarkupQuery.Warnings

variable {component component' text text' : String}

/-! ### Runs -/

/-- What can be done to the warnings. -/
inductive Act where
  /-- To warn. -/
  | warn (component text : String)
  /-- To clear the warnings. -/
  | clear
deriving DecidableEq, Repr

namespace Act

/-- The warnings after the act. -/
def run (w : Warnings) : Act → Warnings
  | warn component text => w.record component text
  | clear => w.clear

/-- The warning that the act gives. -/
def warning? : Act → Option (String × String)
  | warn component text => some (component, text)
  | clear => none

/-- Whether the act clears the warnings. -/
def clears : Act → Bool
  | warn _ _ => false
  | clear => true

end Act

/-- What is recorded after the acts, one after another, from no warnings on. -/
def after (acts : List Act) : Warnings :=
  acts.foldl Act.run {}

/-- The warnings given since they were last cleared, latest first, each as often as it was given. -/
def given (acts : List Act) : List (String × String) :=
  (acts.reverse.takeWhile (!·.clears)).filterMap Act.warning?

/-- What a warning is remembered by. -/
def key (warning : String × String) : String :=
  entry warning.1 warning.2

lemma after_concat (acts : List Act) (act : Act) : after (acts ++ [act]) = act.run (after acts) := by
  rw [after, List.foldl_append]
  rfl

lemma given_warn (acts : List Act) (component text : String) :
    given (acts ++ [.warn component text]) = (component, text) :: given acts := by
  simp [given, Act.clears, Act.warning?]

lemma given_clear (acts : List Act) : given (acts ++ [.clear]) = [] := by
  simp [given, Act.clears]

/-- What is recorded after a run are the entries of the warnings given, none of them twice. -/
lemma recorded_after (acts : List Act) :
    (after acts).Nodup ∧ ∀ e, e ∈ (after acts).entries ↔ ∃ w ∈ given acts, key w = e := by
  induction acts using List.reverseRecOn with
  | nil => exact ⟨List.nodup_nil, by simp [after, given]⟩
  | append_singleton acts act ih =>
      rw [after_concat]
      cases act with
      | clear =>
          rw [given_clear]
          exact ⟨nodup_clear (after acts), by simp [Act.run, clear]⟩
      | warn component text =>
          refine ⟨nodup_record ih.1 component text, fun e => ?_⟩
          rw [Act.run, mem_record, ih.2, given_warn, List.exists_mem_cons_iff, eq_comm]
          rfl

lemma has_after (acts : List Act) (component text : String) :
    (after acts).has component text = true ↔
      ∃ w ∈ given acts, key w = key (component, text) := by
  rw [has_iff]
  exact (recorded_after acts).2 _

lemma count_after (acts : List Act) :
    (after acts).count = ((given acts).toFinset.image key).card := by
  obtain ⟨hnodup, hmem⟩ := recorded_after acts
  have hset : (given acts).toFinset.image key = (after acts).entries.toFinset := by
    ext e
    simp [hmem]
  rw [hset, List.toFinset_card_of_nodup hnodup, count]

/-! ### Entries -/

/-- A mark in a text is the one that the text begins with, or it stands behind that one. -/
lemma split_mark {before rest rest' : List Char}
    (h : ']' :: ' ' :: rest = before ++ ']' :: ' ' :: rest') :
    (before = [] ∧ rest = rest') ∨
      ∃ between, before = ']' :: ' ' :: between ∧ rest = between ++ ']' :: ' ' :: rest' := by
  match before with
  | [] => exact Or.inl ⟨rfl, by simpa using h⟩
  | [x] => simp at h
  | x :: y :: between =>
      simp only [List.cons_append, List.cons.injEq] at h
      obtain ⟨rfl, rfl, hrest⟩ := h
      exact Or.inr ⟨between, rfl, hrest⟩

/-- The component of an entry goes on where that of the same entry, read otherwise, ends. -/
lemma eq_or_goesOn {a a' b b' : String} (h : ∃ rest, a'.toList = a.toList ++ rest ∧
    ']' :: ' ' :: b.toList = rest ++ ']' :: ' ' :: b'.toList) :
    (a = a' ∧ b = b') ∨ ∃ between, a' = a ++ "] " ++ between ∧ b = between ++ "] " ++ b' := by
  obtain ⟨rest, ha, hb⟩ := h
  rcases split_mark hb with ⟨rfl, htext⟩ | ⟨between, rfl, htext⟩
  · rw [List.append_nil] at ha
    exact Or.inl ⟨String.toList_inj.mp ha.symm, String.toList_inj.mp htext⟩
  · refine Or.inr ⟨String.ofList between, ?_, ?_⟩
    · simp [← String.toList_inj, ha]
    · simp [← String.toList_inj, htext]

/-- Two warnings have one entry just if they are the same, or if the component of one is that of the
other, a mark, and what the text of the other begins with up to a mark. -/
lemma entry_eq_iff :
    entry component text = entry component' text' ↔
      (component = component' ∧ text = text') ∨
      (∃ between, component' = component ++ "] " ++ between ∧ text = between ++ "] " ++ text') ∨
      ∃ between, component = component' ++ "] " ++ between ∧ text' = between ++ "] " ++ text := by
  constructor
  · intro h
    have hlist : component.toList ++ ']' :: ' ' :: text.toList =
        component'.toList ++ ']' :: ' ' :: text'.toList := by
      simpa [entry, ← String.toList_inj] using h
    rcases List.append_eq_append_iff.mp hlist with hlong | hshort
    · rcases eq_or_goesOn hlong with heq | hgoes
      · exact Or.inl heq
      · exact Or.inr (Or.inl hgoes)
    · rcases eq_or_goesOn hshort with heq | hgoes
      · exact Or.inl ⟨heq.1.symm, heq.2.symm⟩
      · exact Or.inr (Or.inr hgoes)
  · rintro (⟨rfl, rfl⟩ | ⟨between, rfl, rfl⟩ | ⟨between, rfl, rfl⟩)
    · rfl
    · simp [entry, String.append_assoc]
    · simp [entry, String.append_assoc]

lemma ne_of_goesOn (component rest : String) : component ≠ component ++ "] " ++ rest := by
  intro h
  have hlength := congrArg String.length h
  have hmark : "] ".length = 2 := rfl
  simp only [String.length_append] at hlength
  omega

/-- No component goes on where the mark of another begins. -/
def Distinguished (components : Set String) : Prop :=
  ∀ component ∈ components, ∀ rest, component ++ "] " ++ rest ∉ components

/-- Warnings of such components have an entry each. -/
lemma Distinguished.injOn {components : Set String} (h : Distinguished components) :
    Set.InjOn key {w | w.1 ∈ components} := by
  rintro ⟨component, text⟩ hc ⟨component', text'⟩ hc' heq
  rcases entry_eq_iff.mp heq with ⟨rfl, rfl⟩ | ⟨rest, rfl, _⟩ | ⟨rest, rfl, _⟩
  · rfl
  · exact absurd hc' (h component hc rest)
  · exact absurd hc (h component' hc' rest)

/-- **What is recorded after a run tells the warnings apart as far as their components do.** A
warning counts as recorded just if one with its entry was given since the last clear, and as many
are recorded as there are different entries of these. For the warnings of given components that
is each warning itself, after every run, just if no component goes on where the mark of another
begins. -/
theorem after_spec (components : Set String) :
    (∀ acts component text, (after acts).has component text = true ↔
      ∃ w ∈ given acts, key w = key (component, text)) ∧
    (∀ acts, (after acts).count = ((given acts).toFinset.image key).card) ∧
    ((∀ acts, (∀ w ∈ given acts, w.1 ∈ components) →
        (∀ component ∈ components, ∀ text, (after acts).has component text = true ↔
          (component, text) ∈ given acts) ∧
        (after acts).count = (given acts).toFinset.card) ↔
      Distinguished components) := by
  refine ⟨has_after, count_after, fun h component hc rest hrest => ?_, fun h acts hacts => ?_⟩
  · -- the longer component leaves an entry that the shorter one has with another text
    have hlong : ∀ w ∈ given [.warn (component ++ "] " ++ rest) ""], w.1 ∈ components := by
      simpa [given, Act.clears, Act.warning?] using hrest
    have hshort := ((h _ hlong).1 component hc (rest ++ "] ")).mp <| (has_after _ _ _).mpr
      ⟨_, List.mem_singleton_self _, entry_eq_iff.mpr (Or.inr (Or.inr ⟨rest, rfl, by simp⟩))⟩
    exact ne_of_goesOn component rest (Prod.ext_iff.mp (List.mem_singleton.mp hshort)).1
  · have hinj := h.injOn
    have hgiven : Set.InjOn key (given acts).toFinset :=
      hinj.mono fun w hw => hacts w (by simpa using hw)
    refine ⟨fun component hc text => ?_, ?_⟩
    · rw [has_after]
      constructor
      · rintro ⟨w, hw, heq⟩
        rwa [← hinj (hacts w hw) hc heq]
      · exact fun hw => ⟨_, hw, rfl⟩
    · rw [count_after, Finset.card_image_of_injOn hgiven]

/-- One warning before a clear, and another one twice behind it. -/
def repeated : List Act :=
  [.warn "Select" "a", .clear, .warn "Select" "b", .warn "Select" "b"]

/-- A single component is distinguished, so the run leaves its second warning recorded, once. -/
theorem after_repeated :
    Distinguished {"Select"} ∧ (∀ w ∈ given repeated, w.1 ∈ ({"Select"} : Set String)) ∧
    (∀ component ∈ ({"Select"} : Set String), ∀ text,
      (after repeated).has component text = true ↔ (component, text) ∈ given repeated) ∧
    (after repeated).count = (given repeated).toFinset.card := by
  have hsingle : Distinguished {"Select"} := by
    rintro _ rfl rest hrest
    exact ne_of_goesOn _ rest (Set.mem_singleton_iff.mp hrest).symm
  have hgiven : ∀ w ∈ given repeated, w.1 ∈ ({"Select"} : Set String) := by
    have hlist : given repeated = [("Select", "b"), ("Select", "b")] := rfl
    simp [hlist]
  exact ⟨hsingle, hgiven, (after_spec {"Select"}).2.2.mpr hsingle repeated hgiven⟩

/-- A warning that was never given counts as recorded, and a second one is not recorded any more. -/
theorem after_ambiguous :
    (after [.warn "a] b" "c"]).has "a" "b] c" = true ∧
    ("a", "b] c") ∉ given [.warn "a] b" "c"] ∧
    (after [.warn "a] b" "c", .warn "a" "b] c"]).count = 1 ∧
    (given [.warn "a] b" "c", .warn "a" "b] c"]).toFinset.card = 2 := by
  decide +kernel

end MarkupQuery.Warnings
