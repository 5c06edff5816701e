import MarkupQuery.Query.Rule

/-!
The source of a pattern inside a query.

The source goes up to the first closing bracket, round or square, that closes more than was opened
in it. All brackets count alike, escaped ones too. The bracket is left for the rule around the
pattern.

The brackets that are open are counted in a machine word. `balancedSpan_cons` is what one character
does to the count.
-/

namespace MarkupQuery.Query

/-- Whether the character counts as an opening bracket. -/
def opensBracket (c : Char) : Bool :=
  c == '(' || c == '['

/-- Whether the character counts as a closing bracket. -/
def closesBracket (c : Char) : Bool :=
  c == ')' || c == ']'

/-- The text up to the bracket that closes more than `depth` open ones, and the text from it on.
The open brackets are counted in a word of 32 bits, in which the least number comes after the
greatest. -/
def balancedSpan (depth : Int32) : List Char → Option (List Char × List Char)
  | [] => none
  | c :: r =>
    let go depth := (balancedSpan depth r).map fun (span, rest) => (c :: span, rest)
    if opensBracket c then go (depth + 1)
    else if closesBracket c then
      if depth - 1 < 0 then some ([], c :: r) else go (depth - 1)
    else go depth

/-- A pattern. At least two characters have to be left. -/
def patternOperand (engine : Engine) : Rule Pattern := fun text =>
  if text.length < 2 then failAt .unexpectedEnd text
  else
    match balancedSpan 0 text with
    | none => failAt .unexpectedEnd []
    | some (source, rest) =>
      match engine.compile (String.ofList source) with
      | .ok pattern => .ok (pattern, rest)
      | .error e => .error ⟨.unexpectedToken, text.length, some e⟩

theorem opensBracket_of_closesBracket {c : Char} (h : closesBracket c = true) :
    opensBracket c = false := by
  simp only [closesBracket, Bool.or_eq_true, beq_iff_eq] at h
  rcases h with rfl | rfl <;> rfl

/-- A character either ends the span, which only a closing bracket does, or belongs to it. -/
theorem balancedSpan_cons (depth : Int32) (c : Char) :
    (closesBracket c = true ∧ ∀ r, balancedSpan depth (c :: r) = some ([], c :: r)) ∨
    ∃ d, ∀ r, balancedSpan depth (c :: r) = (balancedSpan d r).map fun p => (c :: p.1, p.2) := by
  cases hc : closesBracket c with
  | true =>
    have ho := opensBracket_of_closesBracket hc
    by_cases hd : depth - 1 < 0
    · exact .inl ⟨rfl, fun r => by simp [balancedSpan, ho, hc, hd]⟩
    · exact .inr ⟨depth - 1, fun r => by simp [balancedSpan, ho, hc, hd]⟩
  | false =>
    cases ho : opensBracket c with
    | true => exact .inr ⟨depth + 1, fun r => by simp [balancedSpan, ho]⟩
    | false => exact .inr ⟨depth, fun r => by simp [balancedSpan, ho, hc]⟩

/-- The span and what is left make up the text, which goes on with a closing bracket. -/
theorem append_of_balancedSpan {depth : Int32} {text span rest : List Char}
    (h : balancedSpan depth text = some (span, rest)) :
    text = span ++ rest ∧ ∃ c r, rest = c :: r ∧ closesBracket c := by
  induction text generalizing depth span rest with
  | nil => simp [balancedSpan] at h
  | cons c r ih =>
    rcases balancedSpan_cons depth c with ⟨hc, heq⟩ | ⟨d, heq⟩
    · rw [heq] at h
      cases h
      exact ⟨rfl, c, r, rfl, hc⟩
    · rw [heq] at h
      obtain ⟨⟨span', rest'⟩, h', hspan⟩ := Option.map_eq_some_iff.1 h
      cases hspan
      obtain ⟨rfl, hclosed⟩ := ih h'
      exact ⟨rfl, hclosed⟩

end MarkupQuery.Query
