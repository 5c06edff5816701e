import Mathlib.Tactic
import MarkupQuery.Proofs.Query.NormalForm
import MarkupQuery.Proofs.Query.Writing

/-!
What the query language can express.

A text for a selector in normal form is put together rank by rank from the texts of its parts: the
qualifiers of a compound stand side by side, two blanks or a mark stand between compounds, and
commas between complexes.

* `Expressible`: there is a text for the selector, the same one for all engines;
* `expressible_conj`, `expressible_conj_tag`, `expressible_complex`, `expressible_any`: one lemma
  per construction;
* `expressible_of_normal`: every normal form without patterns is expressible;
* `exists_compileWith_iff`: these are the selectors that some query means whatever the engine is.
-/

namespace MarkupQuery.Query

open Selector (Normal Rank conj)

/-- There is a text that any engine reads as the selector, to stand where selectors of its rank
stand: for a qualifier, next to others, and for any other rank as a list. -/
def Expressible : Rank → Selector → Prop
  | .qualifier, s => ∃ text, Writes text s
  | _, s => ∃ text, ∀ engine, selectorList engine text = .ok (s, [])

variable {s left right : Selector} {qs ss : List Selector}

/-! ### Compounds -/

/-- Qualifiers stand side by side. -/
lemma exists_qualifiers (h : ∀ q ∈ qs, Expressible .qualifier q) :
    ∃ text, EndsName text ∧
      ∀ engine, many (qualifier engine (selectorList engine)) text = .ok (qs, []) := by
  induction qs with
  | nil =>
      refine ⟨[], by simp [EndsName], fun engine => ?_⟩
      exact many_empty (qualifier_shrinks engine (selectorList_takes engine).keeps) rfl
  | cons q qs ih =>
      obtain ⟨text, htext⟩ := h q List.mem_cons_self
      obtain ⟨more, hends, hmore⟩ := ih fun q' hmem => h q' (List.mem_cons_of_mem _ hmem)
      refine ⟨text ++ more, htext.endsName more, fun engine => ?_⟩
      rw [many_of_found (qualifier_shrinks engine (selectorList_takes engine).keeps)
        (htext.reads engine more hends), hmore]
      rfl

/-- A star stands before qualifiers, and alone where there are none. -/
lemma expressible_conj (h : ∀ q ∈ qs, Expressible .qualifier q)
    (hform : ∀ q ∈ qs, q.isQualifier = true) : Expressible .compound (conj qs) := by
  obtain ⟨more, _, hmore⟩ := exists_qualifiers h
  refine ⟨'*' :: more, fun engine =>
    selectorList_of_compoundWith (skipBlank_cons rfl (by simp)) ?_⟩
  rw [← Selector.foldl_inter_universal hform]
  exact bind_eq_ok.2 ⟨(.universal, more), rfl, bind_eq_ok.2 ⟨_, hmore engine, rfl⟩⟩

/-- A tag stands before qualifiers. -/
lemma expressible_conj_tag {name : String} (hn : LoweredName name)
    (h : ∀ q ∈ qs, Expressible .qualifier q) (hform : ∀ q ∈ qs, q.isQualifier = true) :
    Expressible .compound (conj (.simple (.tag name) :: qs)) := by
  obtain ⟨word, hne, rfl⟩ := hn
  obtain ⟨more, hends, hmore⟩ := exists_qualifiers h
  refine ⟨written word ++ more, fun engine =>
    selectorList_of_compoundWith (skipBlank_written hne more) ?_⟩
  have hhead : compoundHead (written word ++ more) = .ok (.tagged word, more) := by
    have hword := identifier_written hne hends
    obtain ⟨r, hr⟩ := written_first hne
    rw [hr, List.cons_append] at hword ⊢
    rw [compoundHead, if_neg (by decide), if_neg (by decide), hword]
    rfl
  rw [← Selector.foldl_inter rfl hform]
  exact bind_eq_ok.2 ⟨_, hhead, bind_eq_ok.2 ⟨_, hmore engine, rfl⟩⟩

/-! ### Complexes -/

/-- Every combinator can be written before a compound. -/
lemma exists_links (relation : Combinator) {text : List Char}
    (h : ∀ engine, selectorList engine text = .ok (s, [])) (hs : s.isCompound = true) :
    ∃ tail, Links relation tail text := by
  cases relation with
  | child => exact ⟨_, links_mark (c := '>') rfl text⟩
  | nextSibling => exact ⟨_, links_mark (c := '+') rfl text⟩
  | subsequentSibling => exact ⟨_, links_mark (c := '~') rfl text⟩
  | descendant =>
      have hcomplex := complexWith_of_not_isAny (h .disabled) (Selector.not_isAny_of_isCompound hs)
      obtain ⟨_, hcompound, _, _⟩ :=
        compoundWith_of_isCompound hcomplex (selectorList_takes .disabled).keeps hs
      obtain ⟨c, r, hfront, hc⟩ := compoundWith_first hcompound
      exact ⟨_, links_blanks hfront hc⟩

lemma expressible_complex (relation : Combinator) (hl : Expressible .complex left)
    (hr : Expressible .compound right) (hfree : left.patternFree = true)
    (hany : left.isAny = false) (hcompound : right.isCompound = true) :
    Expressible .complex (.complex relation left right) := by
  obtain ⟨text₁, h₁⟩ := hl
  obtain ⟨text₂, h₂⟩ := hr
  obtain ⟨tail, htail⟩ := exists_links relation h₂ hcompound
  exact ⟨text₁ ++ tail, fun engine =>
    selectorList_linked htail (h₁ engine) (h₂ engine) hfree hany hcompound⟩

/-! ### Lists -/

/-- Complexes stand with commas between them. -/
lemma expressible_any (h : ∀ m ∈ s :: ss, Expressible .complex m)
    (hany : ∀ m ∈ s :: ss, m.isAny = false) (hfree : ∀ m ∈ s :: ss, m.patternFree = true)
    (hne : ss ≠ []) : Expressible .list (.any (s :: ss)) := by
  induction ss generalizing s with
  | nil => exact absurd rfl hne
  | cons t ss ih =>
      -- what stands behind the comma is read as a selector with these parts
      have hothers : ∃ others text, (∀ engine, selectorList engine text = .ok (others, [])) ∧
          others.members = t :: ss := by
        cases ss with
        | nil =>
            obtain ⟨text, htext⟩ := h t (by simp)
            exact ⟨t, text, htext, Selector.members_of_not_isAny (hany t (by simp))⟩
        | cons u ss =>
            obtain ⟨text, htext⟩ := ih (fun m hm => h m (List.mem_cons_of_mem _ hm))
              (fun m hm => hany m (List.mem_cons_of_mem _ hm))
              (fun m hm => hfree m (List.mem_cons_of_mem _ hm)) (List.cons_ne_nil _ _)
            exact ⟨_, text, htext, rfl⟩
      obtain ⟨others, text₂, h₂, hmembers⟩ := hothers
      obtain ⟨text₁, h₁⟩ := h s List.mem_cons_self
      refine ⟨text₁ ++ ',' :: text₂, fun engine => ?_⟩
      rw [selectorList_comma (h₁ engine) (h₂ engine) (hfree s List.mem_cons_self), hmembers,
        Selector.members_of_not_isAny (hany s List.mem_cons_self), List.singleton_append]

/-! ### Normal forms -/

/-- **Every normal form without patterns is expressible**, on every rank. -/
theorem expressible_of_normal {accepted : Pattern → Prop} {r : Rank} (h : Normal accepted r s)
    (hfree : s.patternFree = true) : Expressible r s := by
  induction h with
  | test h => exact exists_writes_test h hfree
  | not _ ih =>
      obtain ⟨text, htext⟩ := ih hfree
      exact ⟨_, writes_wrapped .not htext hfree⟩
  | has _ ih =>
      obtain ⟨text, htext⟩ := ih hfree
      exact ⟨_, writes_wrapped .has htext hfree⟩
  | hasChild _ ih =>
      obtain ⟨text, htext⟩ := ih hfree
      exact ⟨_, writes_wrapped .hasChild htext hfree⟩
  | universal =>
      have hnone : ∀ q ∈ ([] : List Selector), q.isQualifier = true := by simp
      exact expressible_conj (by simp) hnone
  | tag hn =>
      have hnone : ∀ q ∈ ([] : List Selector), q.isQualifier = true := by simp
      exact expressible_conj_tag hn (by simp) hnone
  | @qualifier q hq ih =>
      have hform : ∀ q' ∈ [q], q'.isQualifier = true := by simpa using hq.isQualifier
      exact expressible_conj (by simpa using ih hfree) hform
  | @tagged name qs hn hne hqs ih =>
      have hqfree := (List.forall_mem_cons.1 (Selector.allPatternFree_iff.1 hfree)).2
      have hlen : 2 ≤ (Selector.simple (.tag name) :: qs).length := by
        have := List.length_pos_iff.2 hne
        rw [List.length_cons]
        omega
      rw [← Selector.conj_of_two_le hlen]
      exact expressible_conj_tag hn (fun q hmem => ih q hmem (hqfree q hmem))
        fun q hmem => (hqs q hmem).isQualifier
  | all hlen hqs ih =>
      have hqfree := Selector.allPatternFree_iff.1 hfree
      rw [← Selector.conj_of_two_le hlen]
      exact expressible_conj (fun q hmem => ih q hmem (hqfree q hmem))
        fun q hmem => (hqs q hmem).isQualifier
  | compound _ ih => exact ih hfree
  | complex hl hr ihl ihr =>
      obtain ⟨hlfree, hrfree⟩ := Bool.and_eq_true_iff.1 hfree
      exact expressible_complex _ (ihl hlfree) (ihr hrfree) hlfree hl.not_isAny hr.isCompound
  | single _ ih => exact ih hfree
  | @any ss hlen hss ih =>
      have hsfree := Selector.allPatternFree_iff.1 hfree
      match ss, hlen with
      | s :: t :: ss, _ =>
        exact expressible_any (fun m hmem => ih m hmem (hsfree m hmem))
          (fun m hmem => (hss m hmem).not_isAny) hsfree (List.cons_ne_nil _ _)

/-- **The query language can express every normal form without patterns, and nothing else that does
not depend on the engine**: such a selector is what some query compiles to with any engine, and what
a query compiles to with any engine is such a selector. -/
theorem exists_compileWith_iff (accepted : Pattern → Prop) (s : Selector) :
    (∃ q, ∀ engine, compileWith engine q = .ok s) ↔
      Normal accepted .list s ∧ s.patternFree = true := by
  constructor
  · rintro ⟨q, hq⟩
    have hread := compileWith_eq_ok.1 (hq .disabled)
    have hnormal := normal_selectorList Engine.disabled_faithful hread
    have hnone : ∀ p, ¬ Engine.disabled.Admits p := fun p hp => nomatch hp.compiled
    exact ⟨hnormal.mono fun p hp => absurd hp (hnone p), hnormal.patternFree hnone⟩
  · rintro ⟨hnormal, hfree⟩
    obtain ⟨text, htext⟩ := expressible_of_normal hnormal hfree
    refine ⟨String.ofList text, fun engine => compileWith_eq_ok.2 ?_⟩
    rw [String.toList_ofList]
    exact htext engine

/-- A tag of the character zero and a line end, an attribute whose operand closes a comment, quotes
and brackets, and a negation with a complex in it. -/
theorem exists_compileWith_oddWords :
    ∃ q, ∀ engine, compileWith engine q = .ok (.any [
      .all [.simple (.tag "\x00\n"), .simple (.hasAttribute "] a" (.equals "*/\"'])")),
        .simple (.nthChild ⟨0, -2147483647⟩ true false)],
      .not (.complex .descendant (.simple (.contains "\\," true)) .universal)]) := by
  have hlowered : LoweredName "\x00\n" ∧ LoweredName "] a" :=
    ⟨⟨"\x00\n", by decide, rfl⟩, ⟨"] A", by decide, rfl⟩⟩
  refine (exists_compileWith_iff (fun _ => False) _).2 ⟨.any le_rfl ?_, rfl⟩
  rw [List.forall_mem_cons, List.forall_mem_singleton]
  refine ⟨.compound (.tagged hlowered.1 (by simp) ?_), .compound (.qualifier (.not (.single ?_)))⟩
  · rw [List.forall_mem_cons, List.forall_mem_singleton]
    exact ⟨.test ⟨hlowered.2, nofun⟩, .test (by decide : Formula.Bounded ⟨0, -2147483647⟩)⟩
  · exact .complex (.compound (.qualifier (.test ⟨"\\,", rfl⟩))) .universal

end MarkupQuery.Query
