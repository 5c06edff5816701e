import Mathlib
import MarkupQuery.Lenient

/-!
Runs of queries that never fail.

A caller asks questions with the texts of queries, and clears the warnings now and then. `runCalls`
makes the calls one after another, from no warnings on, with any engine for the patterns. What each
of them answers and leaves behind is said by its query alone (`runCalls_ask`, `runCalls_refused`),
so what is recorded after any run is said without running anything: one warning for each kind of
mistake made since the warnings were last cleared (`mistakes`), however many queries had it. There
are seven kinds, and so never more warnings than that (`runCalls_spec`).
-/

namespace MarkupQuery

open Query (ErrorKind)

variable {N : Type}

/-- A question about a node or about a selection that the text of a query is needed for. -/
inductive Question (N : Type) where
  /-- Whether the node matches. -/
  | holds (x : N)
  /-- What matches under the node. -/
  | find (x : N)
  /-- What matches among the node and all under it. -/
  | findAll (x : N)
  /-- What matches under each member. -/
  | findIn (selection : Selection N)
  /-- Which members match. -/
  | filter (selection : Selection N)
  /-- Which members do not match. -/
  | reject (selection : Selection N)

/-- The answer to a question. -/
inductive Answer (N : Type) where
  /-- Yes or no. -/
  | truth (value : Bool)
  /-- Some nodes in an order. -/
  | nodes (selection : Selection N)

/-- What a caller may do. -/
inductive Call (N : Type) where
  /-- To ask a question of a tree. -/
  | ask (v : View N) (question : Question N) (query : String)
  /-- To clear the warnings. -/
  | clear

namespace Question

/-- Asks the question with the text of a query. -/
def ask [BEq N] (engine : Engine) (v : View N) (query : String) :
    Question N → Warned (Answer N)
  | holds x => .truth <$> v.matchesQuery engine x query
  | find x => .nodes <$> v.find engine x query
  | findAll x => .nodes <$> v.findAll engine x query
  | findIn selection => .nodes <$> selection.find engine v query
  | filter selection => .nodes <$> selection.filter engine v query
  | reject selection => .nodes <$> selection.reject engine v query

/-- The answer that a selector gives. -/
def answer [BEq N] (v : View N) (s : Selector) : Question N → Answer N
  | holds x => .truth (s.holds v x)
  | find x => .nodes ⟨s.matchAll v x false⟩
  | findAll x => .nodes ⟨s.matchAll v x true⟩
  | findIn selection => .nodes ⟨selection.nodes.flatMap fun x => s.matchAll v x false⟩
  | filter selection => .nodes ⟨s.keep v selection.nodes⟩
  | reject selection => .nodes ⟨s.drop v selection.nodes⟩

/-- The answer where there is no selector: no, or no nodes. -/
def noAnswer : Question N → Answer N
  | holds _ => .truth false
  | find _ | findAll _ | findIn _ | filter _ | reject _ => .nodes {}

end Question

namespace Call

/-- Makes the call. Clearing the warnings has no answer. -/
def run [BEq N] (engine : Engine) : Call N → Warned (Option (Answer N))
  | ask v question query => some <$> question.ask engine v query
  | clear => do
    modify Warnings.clear
    pure none

/-- The kind of the mistake in the query of a call. -/
def mistake? (engine : Engine) : Call N → Option ErrorKind
  | ask _ _ query =>
    match Query.compileWith engine query with
    | .ok _ => none
    | .error e => some e.kind
  | clear => none

/-- Whether the call clears the warnings. -/
def clears : Call N → Bool
  | ask _ _ _ => false
  | clear => true

end Call

/-- Makes the calls one after another, and tells the answers and the warnings that are left. -/
def runCalls [BEq N] (engine : Engine) (calls : List (Call N)) :
    List (Option (Answer N)) × Warnings :=
  Id.run ((calls.mapM (Call.run engine)).run {})

/-- The kinds of the mistakes made since the warnings were last cleared, latest first. -/
def mistakes (engine : Engine) (calls : List (Call N)) : List ErrorKind :=
  (calls.reverse.takeWhile (!·.clears)).filterMap (Call.mistake? engine)

/-- What a mistake in a query is remembered by. -/
def Query.ErrorKind.entry (kind : ErrorKind) : String :=
  Warnings.entry queryComponent kind.warning

lemma entry_injective : Function.Injective ErrorKind.entry := by
  intro a b h
  have hwarning : a.warning = b.warning :=
    (String.append_right_inj ("[" ++ queryComponent ++ "] ")).mp h
  have hfront := (String.append_left_inj ")").mp hwarning
  exact ErrorKind.message_injective
    ((String.append_right_inj "ignoring malformed selectors (").mp hfront)

/-- Kinds that are all different are no more than there are kinds. -/
lemma length_le_seven {kinds : List ErrorKind} (h : kinds.Nodup) : kinds.length ≤ 7 := by
  have hsub : kinds ⊆ ErrorKind.all := fun kind _ => kind.mem_all
  exact (List.subperm_of_subset h hsub).length_le

/-! ### One call -/

section

variable [BEq N] (engine : Engine)

lemma runCalls_concat (calls : List (Call N)) (call : Call N) :
    runCalls engine (calls ++ [call]) =
      ((runCalls engine calls).1 ++ [(Id.run ((call.run engine).run (runCalls engine calls).2)).1],
        (Id.run ((call.run engine).run (runCalls engine calls).2)).2) := by
  rw [runCalls, List.mapM_append, List.mapM_cons, List.mapM_nil]
  rfl

/-- A question comes to the answer of the selector, or to none. -/
lemma ask_eq (v : View N) (question : Question N) (query : String) :
    question.ask engine v query =
      withQuery engine query question.noAnswer (question.answer v) := by
  cases question <;> exact map_withQuery _ _ _ _ _

/-- A query without a mistake is answered by its selector, and nothing is recorded. -/
lemma runCalls_ask (calls : List (Call N)) (v : View N) (question : Question N) {query : String}
    {s : Selector} (h : Query.compileWith engine query = .ok s) :
    runCalls engine (calls ++ [.ask v question query]) =
      ((runCalls engine calls).1 ++ [some (question.answer v s)], (runCalls engine calls).2) := by
  rw [runCalls_concat, Call.run, ask_eq, withQuery_of_ok h]
  rfl

/-- A query with a mistake matches nothing, and the kind of the mistake is recorded. -/
lemma runCalls_refused (calls : List (Call N)) (v : View N) (question : Question N)
    {query : String} {e : Query.Error} (h : Query.compileWith engine query = .error e) :
    runCalls engine (calls ++ [.ask v question query]) =
      ((runCalls engine calls).1 ++ [some question.noAnswer],
        (runCalls engine calls).2.record queryComponent e.kind.warning) := by
  rw [runCalls_concat, Call.run, ask_eq, withQuery_of_error h]
  rfl

lemma runCalls_clear (calls : List (Call N)) :
    runCalls engine (calls ++ [.clear]) = ((runCalls engine calls).1 ++ [none], {}) := by
  rw [runCalls_concat]
  rfl

omit [BEq N] in
lemma mistakes_ask (calls : List (Call N)) (v : View N) (question : Question N) (query : String) :
    mistakes engine (calls ++ [.ask v question query]) =
      ((Call.ask v question query).mistake? engine).toList ++ mistakes engine calls := by
  rw [mistakes, List.reverse_concat, List.takeWhile_cons_of_pos rfl, List.filterMap_cons]
  cases (Call.ask v question query).mistake? engine <;> rfl

omit [BEq N] in
lemma mistakes_clear (calls : List (Call N)) : mistakes engine (calls ++ [.clear]) = [] := by
  rw [mistakes, List.reverse_concat]
  rfl

/-! ### A run of calls -/

/-- What is recorded after a run: what stands for a mistake made since, and nothing else. No entry
is there twice. -/
lemma recorded_runCalls (calls : List (Call N)) :
    (runCalls engine calls).2.Nodup ∧ ∀ e, e ∈ (runCalls engine calls).2.entries ↔
      e ∈ (mistakes engine calls).map ErrorKind.entry := by
  induction calls using List.reverseRecOn with
  | nil => exact ⟨List.nodup_nil, fun _ => Iff.rfl⟩
  | append_singleton calls call ih =>
      cases call with
      | clear =>
          rw [runCalls_clear, mistakes_clear]
          exact ⟨List.nodup_nil, fun _ => Iff.rfl⟩
      | ask v question query =>
          rw [mistakes_ask]
          cases h : Query.compileWith engine query with
          | ok s =>
              rw [runCalls_ask engine calls v question h, Call.mistake?, h]
              exact ih
          | error e =>
              rw [runCalls_refused engine calls v question h, Call.mistake?, h]
              refine ⟨Warnings.nodup_record ih.1 _ _, fun entry => ?_⟩
              rw [Warnings.mem_record, ih.2, Option.toList_some, List.singleton_append,
                List.map_cons, List.mem_cons]
              rfl

/-- **Queries that never fail leave one warning for each kind of mistake**, whatever engine makes
their patterns. After any run of calls a query is answered by its selector and leaves no trace, or
it has a mistake, matches nothing, and leaves its kind. What is recorded are the kinds of the
mistakes made since the warnings were last cleared, each once, and at most seven. -/
theorem runCalls_spec (calls : List (Call N)) :
    (∀ v question query s, Query.compileWith engine query = .ok s →
      runCalls engine (calls ++ [.ask v question query]) =
        ((runCalls engine calls).1 ++ [some (question.answer v s)], (runCalls engine calls).2)) ∧
    (∀ v question query e, Query.compileWith engine query = .error e →
      runCalls engine (calls ++ [.ask v question query]) =
        ((runCalls engine calls).1 ++ [some question.noAnswer],
          (runCalls engine calls).2.record queryComponent e.kind.warning)) ∧
    runCalls engine (calls ++ [.clear]) = ((runCalls engine calls).1 ++ [none], {}) ∧
    (runCalls engine calls).2.entries.Perm ((mistakes engine calls).dedup.map ErrorKind.entry) ∧
    (runCalls engine calls).2.count = (mistakes engine calls).dedup.length ∧
    (runCalls engine calls).2.count ≤ 7 := by
  obtain ⟨hnodup, hmem⟩ := recorded_runCalls engine calls
  have hkinds := List.nodup_dedup (mistakes engine calls)
  have hperm : (runCalls engine calls).2.entries.Perm
      ((mistakes engine calls).dedup.map ErrorKind.entry) := by
    refine (List.perm_ext_iff_of_nodup hnodup (hkinds.map entry_injective)).mpr fun e => ?_
    rw [hmem, List.mem_map, List.mem_map]
    simp only [List.mem_dedup]
  have hcount : (runCalls engine calls).2.count = (mistakes engine calls).dedup.length := by
    rw [Warnings.count, hperm.length_eq, List.length_map]
  exact ⟨fun v question _ _ => runCalls_ask engine calls v question,
    fun v question _ _ => runCalls_refused engine calls v question, runCalls_clear engine calls,
    hperm, hcount, hcount ▸ length_le_seven hkinds⟩

end

/-- Three queries with mistakes, the first of them before the warnings are cleared. -/
def threeMistakes : List (Call NodeId) :=
  [.ask Tree.bare.view (.find 0) "p[", .clear, .ask Tree.bare.view (.filter ⟨[0]⟩) ":not(",
    .ask Tree.bare.view (.holds 0) "#"]

theorem runCalls_threeMistakes :
    Query.compileWith .literal "*" = .ok .universal ∧
    Query.compileWith .literal ":nope" = .error ⟨.unexpectedToken, 1, none⟩ ∧
    runCalls .literal (threeMistakes ++ [.ask Tree.bare.view (.filter ⟨[0]⟩) "*"]) =
      ((runCalls .literal threeMistakes).1 ++ [some (.nodes ⟨[0]⟩)],
        (runCalls .literal threeMistakes).2) ∧
    runCalls .literal (threeMistakes ++ [.ask Tree.bare.view (.reject ⟨[0]⟩) ":nope"]) =
      ((runCalls .literal threeMistakes).1 ++ [some (.nodes {})],
        (runCalls .literal threeMistakes).2.record queryComponent
          ErrorKind.unexpectedToken.warning) ∧
    (runCalls .literal threeMistakes).2.count ≤ 7 := by
  have hstar : Query.compileWith .literal "*" = .ok .universal := by cbv
  have hnope : Query.compileWith .literal ":nope" = .error ⟨.unexpectedToken, 1, none⟩ := by cbv
  have hkeep : (Question.filter ⟨[0]⟩).answer Tree.bare.view .universal = .nodes ⟨[0]⟩ := rfl
  obtain ⟨hask, hrefused, _, _, _, hcount⟩ := runCalls_spec .literal threeMistakes
  refine ⟨hstar, hnope, ?_, ?_, hcount⟩
  · rw [hask _ _ _ _ hstar, hkeep]
  · rw [hrefused _ _ _ _ hnope, Question.noAnswer]

example : mistakes .literal threeMistakes = [.expectedName, .unexpectedEnd] := by cbv

end MarkupQuery
