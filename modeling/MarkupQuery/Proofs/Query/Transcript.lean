import MarkupQuery.Proofs.Query.Blameless
import MarkupQuery.Proofs.Selector.Patterns

/-!
What a rule asks of the pattern engine.

A rule hands the source of a pattern to the engine and goes on with what comes back, without a look
at it. So it asks the same of every engine, one request after the other, until one is refused: the
requests of a rule are known from its run with `Engine.blank`, which refuses nothing.

* `Engine.answer`: what an engine makes of some requests, and the outcome behind them.
* `Transcript`: the requests of a rule at a text. They determine what it does with any engine
  (`follows`), they are what the patterns of its value are written as (`sources`), and they stand in
  the text one behind another (`stands`, `ordered`).
* `Transcribed.bind`, `Transcribed.after`, `Transcribed.map`, `Transcribed.free`: the requests of
  rules behind one another, of a rule behind one that asks nothing, of a rule that makes another
  value of what it reads, and of one that reads no pattern.
-/

namespace MarkupQuery

namespace Query

/-- A request to the engine: the source of a pattern, and the text behind it, which begins with the
bracket that closes what is around the pattern. -/
structure Request where
  /-- The pattern as written. -/
  source : List Char
  /-- The text behind the pattern. -/
  behind : List Char
  /-- The pattern ends before a closing bracket. -/
  closed : ∃ c r, behind = c :: r ∧ closesBracket c = true
  /-- No blank and no closed comment stands at the front of it. -/
  front : skipBlank (source ++ behind) = source ++ behind

/-- The text from the pattern on. -/
def Request.text (r : Request) : List Char := r.source ++ r.behind

end Query

open Query

namespace Engine

/-- Refuses nothing; its patterns match nothing. -/
def blank : Engine where
  compile source := .ok ⟨source, fun _ => false⟩

/-- The pattern that the engine makes of a source, in the place of another pattern of this source.
Where the engine refuses the source, the other pattern stays. -/
def fill (E : Engine) (p : Pattern) : Pattern :=
  match E.compile p.source with
  | .ok q => q
  | .error _ => p

/-- The failure of a rule whose request the engine refuses. -/
def refusal? (E : Engine) (r : Request) : Option Failure :=
  match E.compile (String.ofList r.source) with
  | .ok _ => none
  | .error e => some ⟨.unexpectedToken, r.text.length, some e⟩

/-- The outcome of a rule after its requests: the first refusal, or else what the rule comes to. -/
def answer {β : Type} (E : Engine) (requests : List Request) (outcome : Except Failure β) :
    Except Failure β :=
  match requests.findSome? E.refusal? with
  | some f => .error f
  | none => outcome

variable {α β : Type} (E : Engine) (requests more : List Request)

@[simp] lemma answer_nil (outcome : Except Failure β) : E.answer [] outcome = outcome := rfl

@[simp] lemma answer_blank (outcome : Except Failure β) :
    blank.answer requests outcome = outcome := by
  have hnone : requests.findSome? blank.refusal? = none :=
    List.findSome?_eq_none_iff.mpr fun _ _ => rfl
  rw [answer, hnone]

lemma answer_append (outcome : Except Failure β) :
    E.answer (requests ++ more) outcome = E.answer requests (E.answer more outcome) := by
  rw [answer, answer, answer, List.findSome?_append]
  cases requests.findSome? E.refusal? <;> rfl

lemma answer_bind (outcome : Except Failure α) (g : α → Except Failure β) :
    (E.answer requests outcome >>= g) = E.answer requests (outcome >>= g) := by
  rw [answer, answer]
  cases requests.findSome? E.refusal? <;> rfl

end Engine

namespace Query

variable {α β γ : Type} {text rest : List Char} {before : List String}

lemma map_eq_bind {x : Except Failure α} {g : α → β} : x.map g = x >>= fun a => .ok (g a) := by
  cases x <;> rfl

variable [Patterned α] [Patterned β]

/-- The sources of the patterns that a value holds. -/
def sourcesOf (a : α) : List String :=
  (Patterned.patterns a).map (·.source)

/-- These are the requests of a rule at the text, given what the rule comes to with each engine.
Patterns from `before` are in its value already. -/
structure Transcript (text : List Char) (before : List String) (requests : List Request)
    (run : Engine → Except Failure (α × List Char)) : Prop where
  follows : ∀ E, run E = E.answer requests
    ((run .blank).map fun p => (Patterned.mapPatterns E.fill p.1, p.2))
  blameless : ∀ f, run .blank = .error f → f.cause = none
  keeps : ∀ a rest, run .blank = .ok (a, rest) → rest <:+ text
  sources : ∀ a rest, run .blank = .ok (a, rest) →
    sourcesOf a = before ++ requests.map fun r => String.ofList r.source
  stands : ∀ r ∈ requests, r.text <:+ text
  ordered : requests.Pairwise fun r r' => r'.text <:+ r.behind
  ahead : ∀ a rest, run .blank = .ok (a, rest) → ∀ r ∈ requests, rest <:+ r.behind

/-- The rule has requests that are the same for all engines. -/
def Transcribed (text : List Char) (before : List String)
    (run : Engine → Except Failure (α × List Char)) : Prop :=
  ∃ requests, Transcript text before requests run

namespace Transcribed

lemma congr {run run' : Engine → Except Failure (α × List Char)} (heq : ∀ E, run E = run' E)
    (h : Transcribed text before run') : Transcribed text before run :=
  funext heq ▸ h

/-- A rule that comes to an end at once. -/
lemma finish (value : Engine → α) (hs : rest <:+ text)
    (hfill : ∀ E, Patterned.mapPatterns E.fill (value .blank) = value E)
    (hsources : sourcesOf (value .blank) = before) :
    Transcribed text before fun E => .ok (value E, rest) := by
  refine ⟨[], fun E => ?_, nofun, fun a r h => ?_, fun a r h => ?_, nofun, List.Pairwise.nil, nofun⟩
  · rw [Engine.answer_nil]
    show _ = Except.ok (Patterned.mapPatterns E.fill (value .blank), rest)
    rw [hfill]
  · cases h
    exact hs
  · cases h
    rw [hsources, List.map_nil, List.append_nil]

/-- A rule that fails at once, whatever the engine. -/
lemma fail {f : Failure} (hf : f.cause = none) :
    Transcribed text before fun _ => (.error f : Except Failure (α × List Char)) :=
  ⟨[], fun _ => rfl, fun _ h => by cases h; exact hf, nofun, nofun, nofun, List.Pairwise.nil, nofun⟩

lemma failAt (kind : ErrorKind) (rest : List Char) :
    Transcribed text before fun _ => (failAt kind rest : Except Failure (α × List Char)) :=
  fail rfl

lemma unexpected (rest : List Char) :
    Transcribed text before fun _ => (unexpected rest : Except Failure (α × List Char)) :=
  fail rfl

/-- A rule that is applied further on. -/
lemma of_suffix {run : Engine → Except Failure (α × List Char)} (hs : rest <:+ text)
    (h : Transcribed rest before run) : Transcribed text before run := by
  obtain ⟨requests, h⟩ := h
  exact ⟨requests, h.follows, h.blameless, fun a r ha => (h.keeps a r ha).trans hs, h.sources,
    fun r hr => (h.stands r hr).trans hs, h.ordered, h.ahead⟩

/-- A rule behind one that asks nothing of the engine. -/
lemma after {x : Except Failure γ} {g : Engine → γ → Except Failure (α × List Char)}
    (hx : Uncaused x) (hg : ∀ c, x = .ok c → Transcribed text before fun E => g E c) :
    Transcribed text before fun E => x >>= g E := by
  cases x with
  | error f => exact fail (hx f rfl)
  | ok c => exact hg c rfl

/-- A rule behind another that asks. What it does with an engine depends on what that engine made of
the patterns of the first. -/
lemma bind {x : Engine → Except Failure (α × List Char)}
    {g : Engine → α × List Char → Except Failure (β × List Char)} (hx : Transcribed text [] x)
    (hg : ∀ a rest, Patterned.mapPatterns Engine.blank.fill a = a →
      x .blank = .ok (a, rest) →
      Transcribed rest (before ++ sourcesOf a)
        fun E => g E (Patterned.mapPatterns E.fill a, rest)) :
    Transcribed text before fun E => x E >>= g E := by
  obtain ⟨requests, hx⟩ := hx
  cases hblank : x .blank with
  | error f =>
      have hrun : ∀ E, x E >>= g E = E.answer requests (.error f) := by
        intro E
        rw [hx.follows, hblank, Engine.answer_bind]
        rfl
      have hfail : (x .blank >>= g .blank) = .error f := by rw [hrun, Engine.answer_blank]
      refine ⟨requests, fun E => ?_, fun e he => ?_, fun a r h => ?_, fun a r h => ?_, hx.stands,
        hx.ordered, fun a r h => ?_⟩
      · rw [hrun, hfail]
        rfl
      · rw [hfail] at he
        cases he
        exact hx.blameless f hblank
      all_goals
        rw [hfail] at h
        cases h
  | ok p =>
      obtain ⟨a, rest⟩ := p
      have hfix : Patterned.mapPatterns Engine.blank.fill a = a := by
        have hself := hx.follows .blank
        rw [Engine.answer_blank, hblank] at hself
        exact (congrArg Prod.fst (Except.ok.inj hself)).symm
      obtain ⟨more, hm⟩ := hg a rest hfix hblank
      have hrest := hx.keeps a rest hblank
      have hrun : ∀ E, x E >>= g E
          = E.answer requests (g E (Patterned.mapPatterns E.fill a, rest)) := by
        intro E
        rw [hx.follows, hblank, Engine.answer_bind]
        rfl
      have hsame : (x .blank >>= g .blank)
          = g .blank (Patterned.mapPatterns Engine.blank.fill a, rest) := by
        rw [hrun, Engine.answer_blank]
      refine ⟨requests ++ more, fun E => ?_, fun f hf => ?_, fun b r h => ?_, fun b r h => ?_,
        fun r hr => ?_, ?_, fun b r h q hq => ?_⟩
      · rw [hrun, hm.follows, hsame, Engine.answer_append]
      · exact hm.blameless f (hsame ▸ hf)
      · exact (hm.keeps b r (hsame ▸ h)).trans hrest
      · rw [hm.sources b r (hsame ▸ h), hx.sources a rest hblank, List.nil_append, List.map_append,
          List.append_assoc]
      · rcases List.mem_append.mp hr with hr | hr
        · exact hx.stands r hr
        · exact (hm.stands r hr).trans hrest
      · exact List.pairwise_append.mpr ⟨hx.ordered, hm.ordered, fun q hq r hr =>
          (hm.stands r hr).trans (hx.ahead a rest hblank q hq)⟩
      · rcases List.mem_append.mp hq with hq | hq
        · exact (hm.keeps b r (hsame ▸ h)).trans (hx.ahead a rest hblank q hq)
        · exact hm.ahead b r (hsame ▸ h) q hq

/-- A rule that makes another value of what a rule reads. -/
lemma map {run : Engine → Except Failure (α × List Char)} (h : Transcribed text [] run)
    (build : α → β)
    (hfill : ∀ E a, Patterned.mapPatterns (Engine.fill E) (build a)
      = build (Patterned.mapPatterns E.fill a))
    (hsources : ∀ a, sourcesOf (build a) = sourcesOf a) :
    Transcribed text [] fun E => (run E).map fun p => (build p.1, p.2) := by
  refine congr (fun _ => map_eq_bind)
    (h.bind fun a rest hfix _ => finish _ List.suffix_rfl (fun E => ?_) ?_)
  · rw [hfix, hfill]
  · rw [hfix, hsources, List.nil_append]

/-- A rule that asks nothing of the engine and reads a value without patterns. -/
lemma free {x : Except Failure (α × List Char)} (hx : Uncaused x)
    (hvalue : ∀ a rest, x = .ok (a, rest) → rest <:+ text ∧ Patterned.patterns a = [] ∧
      ∀ f, Patterned.mapPatterns f a = a) : Transcribed text [] fun _ => x := by
  cases x with
  | error f => exact fail (hx f rfl)
  | ok p =>
      obtain ⟨a, rest⟩ := p
      obtain ⟨hs, hnone, hsame⟩ := hvalue a rest rfl
      exact finish _ hs (fun E => hsame _) (by rw [sourcesOf, hnone]; rfl)

end Transcribed

end Query

end MarkupQuery
