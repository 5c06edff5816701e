import MarkupQuery.Proofs.Query.Requests

/-!
What the pattern engine has a say in.

A query is compiled with any engine as with `Engine.blank`, which refuses nothing, up to the first
request that the engine refuses.

* `wholeList_transcribed`: the requests of a query as a whole.
* `compileWith_of_accepted`, `compileWith_of_refused`: what the query compiles to with an engine
  that refuses none of them, and what is wrong with it otherwise.
* `HasPatterns`: the patterns of a query in reading order. They are known from the requests
  (`hasPatterns`).
* `engine_only_refuses`: engines differ in their refusals alone.
-/

namespace MarkupQuery.Query

variable {E A : Engine} {q : String} {requests : List Request} {f : Failure} {e : Error}

/-! ### Refusals -/

lemma refusal?_eq_none {r : Request} :
    E.refusal? r = none ↔ ∃ p, E.compile (String.ofList r.source) = .ok p := by
  rw [Engine.refusal?]
  cases E.compile (String.ofList r.source) <;> simp

lemma refusal?_eq_some {r : Request} :
    E.refusal? r = some f ↔ ∃ refusal, E.compile (String.ofList r.source) = .error refusal ∧
      f = ⟨.unexpectedToken, r.text.length, some refusal⟩ := by
  rw [Engine.refusal?]
  cases E.compile (String.ofList r.source) <;> simp [eq_comm]

lemma source_fill (hE : E.Faithful) (p : Pattern) : (E.fill p).source = p.source := by
  rw [Engine.fill]
  split
  · next hp => exact hE _ _ hp
  · rfl

/-! ### Whole queries -/

/-- A list that goes up to the end of the text. -/
def wholeList (E : Engine) : Rule Selector := fun text =>
  selectorList E text >>= fun p => if p.2.isEmpty then .ok p else failAt .unexpectedToken p.2

lemma wholeList_transcribed (text : List Char) :
    Transcribed text [] fun E => wholeList E text := by
  refine (selectorList_transcribed text).bind fun s rest hfix _ => ?_
  cases rest with
  | nil =>
      refine Transcribed.finish (fun E => Patterned.mapPatterns E.fill s) List.suffix_rfl
        (fun E => ?_) ?_
      · rw [hfix]
      · rw [hfix, List.nil_append]
  | cons c rest => exact Transcribed.failAt .unexpectedToken (c :: rest)

lemma compileWith_eq_wholeList (E : Engine) (q : String) :
    compileWith E q =
      match wholeList E q.toList with
      | .ok p => .ok p.1
      | .error f => .error (f.within q.length) := by
  have hlength : (Cursor.start q).length = q.length := by
    rw [Cursor.length, Cursor.start, Nat.zero_add, String.length_toList]
  have hrest : (Cursor.start q).rest = q.toList := rfl
  rw [compileWith, Cursor.read, hlength, hrest, wholeList]
  cases selectorList E q.toList with
  | error f => rfl
  | ok p =>
      obtain ⟨s, rest⟩ := p
      cases rest with
      | nil => rfl
      | cons c rest => rfl

/-- A mistake in the list is the mistake in the query. -/
lemma compileWith_of_error (h : selectorList E q.toList = .error f) :
    compileWith E q = .error (f.within q.length) := by
  have hwhole : wholeList E q.toList = .error f := bind_eq_error.2 (.inl h)
  rw [compileWith_eq_wholeList, hwhole]

section

variable (h : Transcript q.toList [] requests fun E => wholeList E q.toList)

include h

/-- Where the engine refuses nothing, the selector is the one known before, with its patterns. -/
lemma compileWith_of_accepted (hE : requests.findSome? E.refusal? = none) :
    compileWith E q = (compileWith .blank q).map (Selector.mapPatterns E.fill) := by
  have hrun := h.follows E
  rw [Engine.answer, hE] at hrun
  dsimp only at hrun
  rw [compileWith_eq_wholeList, compileWith_eq_wholeList, hrun]
  cases wholeList .blank q.toList <;> rfl

lemma ok_of_accepted (hE : requests.findSome? E.refusal? = none) {s : Selector} :
    compileWith E q = .ok s ↔
      ∃ s₀, compileWith .blank q = .ok s₀ ∧ s₀.mapPatterns E.fill = s := by
  rw [compileWith_of_accepted h hE]
  cases compileWith .blank q with
  | error e => simp [Except.map]
  | ok s₀ => simp [Except.map]

lemma error_of_accepted (hE : requests.findSome? E.refusal? = none) :
    compileWith E q = .error e ↔ compileWith .blank q = .error e := by
  rw [compileWith_of_accepted h hE]
  cases compileWith .blank q <;> simp [Except.map]

/-- The first refusal is what is wrong with a query. -/
lemma compileWith_of_refused (hE : requests.findSome? E.refusal? = some f) :
    compileWith E q = .error (f.within q.length) := by
  have hrun := h.follows E
  rw [Engine.answer, hE] at hrun
  dsimp only at hrun
  rw [compileWith_eq_wholeList, hrun]

/-- An engine with which a query compiles refuses nothing in it. -/
lemma accepted_of_ok {s : Selector} (hs : compileWith E q = .ok s) :
    requests.findSome? E.refusal? = none := by
  cases hE : requests.findSome? E.refusal? with
  | none => rfl
  | some f =>
      rw [compileWith_of_refused h hE] at hs
      cases hs

/-- A query that is wrong for an engine that refuses nothing is wrong by itself. -/
lemma cause_of_blank (he : compileWith .blank q = .error e) : e.cause = none := by
  rw [compileWith_eq_wholeList] at he
  cases hrun : wholeList .blank q.toList with
  | ok p =>
      rw [hrun] at he
      cases he
  | error f =>
      rw [hrun] at he
      cases he
      exact h.blameless f hrun

/-- The patterns of the selector are those that were asked for. -/
lemma patterns_of_blank {s : Selector} (hs : compileWith .blank q = .ok s) :
    s.patterns.map (·.source) = requests.map fun r => String.ofList r.source := by
  rw [compileWith_eq_wholeList] at hs
  cases hrun : wholeList .blank q.toList with
  | error f =>
      rw [hrun] at hs
      cases hs
  | ok p =>
      rw [hrun] at hs
      cases hs
      exact h.sources p.1 p.2 hrun

end

/-! ### The patterns of a query -/

/-- A pattern of a query. -/
structure PatternAt where
  /-- How many characters of the query stand before the pattern. -/
  position : ℕ
  /-- The pattern as written. -/
  source : String

/-- The pattern of a request made while a query of that length is read. -/
def Request.within (r : Request) (length : ℕ) : PatternAt :=
  ⟨length - r.text.length, String.ofList r.source⟩

/-- These are the patterns that are read in a query, in reading order. They stand in it one behind
another, each before a closing bracket; an engine that refuses one of them, and no other engine, is
the cause of a mistake; and if the query compiles, its selector holds them. -/
structure HasPatterns (q : String) (ps : List PatternAt) : Prop where
  stands : ∀ p ∈ ps, ∃ c r, q.toList.drop p.position = p.source.toList ++ c :: r ∧
    closesBracket c = true
  ordered : ps.Pairwise fun p p' => p.position + p.source.length ≤ p'.position
  refused : ∀ E : Engine, (∃ p ∈ ps, ∃ refusal, E.compile p.source = .error refusal) ↔
    ∃ e, compileWith E q = .error e ∧ e.cause ≠ none
  held : ∀ (E : Engine) s, E.Faithful → compileWith E q = .ok s →
    s.patterns.map (·.source) = ps.map (·.source)

/-- What an engine refuses first. -/
lemma findSome?_refusal?_eq_some (h : requests.findSome? E.refusal? = some f) :
    ∃ before r after refusal, requests = before ++ r :: after ∧
      (∀ r' ∈ before, ∃ p, E.compile (String.ofList r'.source) = .ok p) ∧
      E.compile (String.ofList r.source) = .error refusal ∧
      f = ⟨.unexpectedToken, r.text.length, some refusal⟩ := by
  obtain ⟨before, r, after, hsplit, hr, hbefore⟩ := List.findSome?_eq_some_iff.mp h
  obtain ⟨refusal, hrefusal, hf⟩ := refusal?_eq_some.mp hr
  exact ⟨before, r, after, refusal, hsplit, fun r' hr' => refusal?_eq_none.mp (hbefore r' hr'),
    hrefusal, hf⟩

lemma hasPatterns (h : Transcript q.toList [] requests fun E => wholeList E q.toList) :
    HasPatterns q (requests.map (·.within q.length)) where
  stands p hp := by
    obtain ⟨r, hr, rfl⟩ := List.mem_map.mp hp
    obtain ⟨c, u, hbehind, hc⟩ := r.closed
    have hdrop := List.suffix_iff_eq_drop.mp (h.stands r hr)
    rw [String.length_toList] at hdrop
    refine ⟨c, u, ?_, hc⟩
    rw [Request.within, ← hdrop, Request.text, hbehind, String.toList_ofList]
  ordered := by
    refine List.pairwise_map.mpr (h.ordered.imp_of_mem fun {r r'} hr _ hbehind => ?_)
    have hlength := (h.stands r hr).length_le
    have hle := hbehind.length_le
    rw [String.length_toList, Request.text, List.length_append] at hlength
    simp only [Request.within, Request.text, String.length_ofList, List.length_append] at hle ⊢
    omega
  refused E := by
    constructor
    · rintro ⟨p, hp, refusal, hrefusal⟩
      obtain ⟨r, hr, rfl⟩ := List.mem_map.mp hp
      cases hE : requests.findSome? E.refusal? with
      | none =>
          obtain ⟨p, hp⟩ := refusal?_eq_none.mp (List.findSome?_eq_none_iff.mp hE r hr)
          have hcontra := hrefusal.symm.trans hp
          cases hcontra
      | some f =>
          obtain ⟨_, _, _, refusal, _, _, _, rfl⟩ := findSome?_refusal?_eq_some hE
          exact ⟨_, compileWith_of_refused h hE, Option.some_ne_none refusal⟩
    · rintro ⟨e, he, hcause⟩
      cases hE : requests.findSome? E.refusal? with
      | none => exact absurd (cause_of_blank h ((error_of_accepted h hE).mp he)) hcause
      | some f =>
          obtain ⟨before, r, after, refusal, rfl, _, hrefusal, _⟩ := findSome?_refusal?_eq_some hE
          exact ⟨_, List.mem_map_of_mem (by simp), refusal, hrefusal⟩
  held E s hfaithful hs := by
    obtain ⟨s₀, hs₀, rfl⟩ := (ok_of_accepted h (accepted_of_ok h hs)).mp hs
    have hsource : ((·.source) ∘ E.fill : Pattern → String) = (·.source) :=
      funext (source_fill hfaithful)
    rw [Selector.patterns_mapPatterns, List.map_map, hsource, patterns_of_blank h hs₀, List.map_map]
    rfl

/-- **An engine has a say in a compilation only where it refuses a pattern.** Let these be the
patterns of a query in reading order. With any engine the query compiles to the selector that it
compiles to with engines that refuse nothing, or it is wrong by itself, with the same mistake as
there; or the mistake is the refusal of the first pattern that the engine refuses, at the place
where this pattern begins. A selector without patterns is the same for all engines. -/
theorem engine_only_refuses (q : String) :
    ∃ ps, HasPatterns q ps ∧ ∀ E A : Engine, E.Faithful → A.Faithful → A.Total →
      (∀ s, compileWith E q = .ok s → ∃ s', compileWith A q = .ok s' ∧ (s == s') = true) ∧
      (∀ e, compileWith E q = .error e → e.cause = none → compileWith A q = .error e) ∧
      (∀ e refusal, compileWith E q = .error e → e.cause = some refusal →
        e.kind = .unexpectedToken ∧
          ∃ before p after, ps = before ++ p :: after ∧
            (∀ p' ∈ before, ∃ pattern, E.compile p'.source = .ok pattern) ∧
            E.compile p.source = .error refusal ∧ e.position = p.position) ∧
      ∀ s, compileWith E q = .ok s → s.patternFree = true → ∀ E', compileWith E' q = .ok s := by
  obtain ⟨requests, h⟩ := wholeList_transcribed q.toList
  refine ⟨_, hasPatterns h, fun E A hE hA htotal => ?_⟩
  have haccepts : requests.findSome? A.refusal? = none :=
    List.findSome?_eq_none_iff.mpr fun r _ => refusal?_eq_none.mpr (htotal _)
  refine ⟨fun s hs => ?_, fun e he hcause => ?_, fun e refusal he hcause => ?_,
    fun s hs hfree E' => ?_⟩
  · obtain ⟨s₀, hs₀, rfl⟩ := (ok_of_accepted h (accepted_of_ok h hs)).mp hs
    exact ⟨_, (ok_of_accepted h haccepts).mpr ⟨s₀, hs₀, rfl⟩,
      s₀.same_mapPatterns (source_fill hE) (source_fill hA)⟩
  · cases hfirst : requests.findSome? E.refusal? with
    | none => exact (error_of_accepted h haccepts).mpr ((error_of_accepted h hfirst).mp he)
    | some f =>
        obtain ⟨_, _, _, refusal, _, _, _, rfl⟩ := findSome?_refusal?_eq_some hfirst
        rw [compileWith_of_refused h hfirst] at he
        cases he
        cases hcause
  · cases hfirst : requests.findSome? E.refusal? with
    | none =>
        rw [cause_of_blank h ((error_of_accepted h hfirst).mp he)] at hcause
        cases hcause
    | some f =>
        obtain ⟨before, r, after, refusal', rfl, hbefore, hrefusal, rfl⟩ :=
          findSome?_refusal?_eq_some hfirst
        rw [compileWith_of_refused h hfirst] at he
        cases he
        cases hcause
        refine ⟨rfl, before.map (·.within q.length), r.within q.length,
          after.map (·.within q.length), by simp, fun p' hp' => ?_, hrefusal, rfl⟩
        obtain ⟨r', hr', rfl⟩ := List.mem_map.mp hp'
        exact hbefore r' hr'
  · obtain ⟨s₀, hs₀, rfl⟩ := (ok_of_accepted h (accepted_of_ok h hs)).mp hs
    have hnone : s₀.patterns = [] := by
      have hmap := (Selector.patterns_eq_nil_iff _).mpr hfree
      rw [Selector.patterns_mapPatterns] at hmap
      exact List.map_eq_nil_iff.mp hmap
    have hfree₀ := (Selector.patterns_eq_nil_iff s₀).mp hnone
    have hrequests : requests = [] := by
      have hsources := patterns_of_blank h hs₀
      rw [hnone] at hsources
      exact List.map_eq_nil_iff.mp hsources.symm
    rw [ok_of_accepted h (by rw [hrequests]; rfl)]
    exact ⟨s₀, hs₀, by rw [Selector.mapPatterns_of_patternFree hfree₀,
      Selector.mapPatterns_of_patternFree hfree₀]⟩

/-- Refuses plus signs; its other patterns stand for themselves. -/
def withoutPlus : Engine where
  compile source :=
    if source.toList.contains '+' then .error ⟨source, "plus sign"⟩
    else Engine.literal.compile source

lemma withoutPlus_faithful : withoutPlus.Faithful := by
  intro source pattern h
  rw [withoutPlus] at h
  dsimp only at h
  split at h
  · cases h
  · exact Engine.literal_faithful _ _ h

/-- Of three patterns the second is refused, and behind it the query goes wrong by itself; another
query goes wrong behind a pattern that is not refused; and a third one has no patterns. -/
theorem engine_only_refuses_plus :
    withoutPlus.Faithful ∧ Engine.literal.Faithful ∧ Engine.literal.Total ∧
    compileWith withoutPlus "p[a#=x(y)]:has(q:matches(b+),[c#=d+" =
      .error ⟨.unexpectedToken, 25, some ⟨"b+", "plus sign"⟩⟩ ∧
    (∃ before p after, HasPatterns "p[a#=x(y)]:has(q:matches(b+),[c#=d+" (before ++ p :: after) ∧
      (∀ p' ∈ before, ∃ pattern, withoutPlus.compile p'.source = .ok pattern) ∧
      withoutPlus.compile p.source = .error ⟨"b+", "plus sign"⟩ ∧ p.position = 25) ∧
    compileWith withoutPlus "p[a#=x]:has(" = .error ⟨.unexpectedEnd, 12, none⟩ ∧
    compileWith .literal "p[a#=x]:has(" = .error ⟨.unexpectedEnd, 12, none⟩ ∧
    compileWith withoutPlus "ul>:not(.x)" =
      .ok (.complex .child (.tagged "ul") (.not (.withClass "x"))) ∧
    compileWith .disabled "ul>:not(.x)" =
      .ok (.complex .child (.tagged "ul") (.not (.withClass "x"))) := by
  have hfaithful := withoutPlus_faithful
  have hliteral := Engine.literal_faithful
  have htotal := Engine.literal_total
  have hrefused : compileWith withoutPlus "p[a#=x(y)]:has(q:matches(b+),[c#=d+" =
      .error ⟨.unexpectedToken, 25, some ⟨"b+", "plus sign"⟩⟩ := by cbv
  have hwrong : compileWith withoutPlus "p[a#=x]:has(" = .error ⟨.unexpectedEnd, 12, none⟩ := by
    cbv
  have hfree : compileWith withoutPlus "ul>:not(.x)" =
      .ok (.complex .child (.tagged "ul") (.not (.withClass "x"))) := by cbv
  obtain ⟨ps, hps, h⟩ := engine_only_refuses "p[a#=x(y)]:has(q:matches(b+),[c#=d+"
  obtain ⟨_, before, p, after, rfl, hbefore, hp, hposition⟩ :=
    (h withoutPlus .literal hfaithful hliteral htotal).2.2.1 _ _ hrefused rfl
  obtain ⟨_, _, h'⟩ := engine_only_refuses "p[a#=x]:has("
  obtain ⟨_, _, h''⟩ := engine_only_refuses "ul>:not(.x)"
  exact ⟨hfaithful, hliteral, htotal, hrefused,
    ⟨before, p, after, hps, hbefore, hp, hposition.symm⟩, hwrong,
    (h' withoutPlus .literal hfaithful hliteral htotal).2.1 _ hwrong rfl, hfree,
    (h'' withoutPlus .literal hfaithful hliteral htotal).2.2.2 _ hfree rfl .disabled⟩

end MarkupQuery.Query
