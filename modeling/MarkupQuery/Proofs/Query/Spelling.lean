import Mathlib.Data.Nat.Digits.Defs
import Mathlib.Tactic
import MarkupQuery.Proofs.Query.Word
import MarkupQuery.Query.Compile

/-!
The ways to write a word.

A character of a word may stand for itself, behind a backslash, or as a number in an escape
(`Spells`), and a word is written by writing its characters one after the other (`Spelling`). A
string may also have line ends behind backslashes in it, which stand for nothing.

* `escape_numeric`: a numeric escape with its terminator is the character of its number;
* `many_spelling`: what a loop reads from a spelling, given what its step reads from one character;
* `name_spelling`, `identifier_spelling`, `quotedString_spelling`: a spelling is read as the word
  that it spells, up to its end;
* `read_spelling`: the same at any place of a query.
-/

namespace MarkupQuery.Query

variable {literal : Char → Bool} {skipped : List (List Char)}
  {u text tail digits chars : List Char} {c : Char}

/-! ### Spellings -/

/-- The hexadecimal digits, each at the place of its value. -/
def hexDigits : List Char :=
  "0123456789abcdef".toList

/-- The number that hexadecimal digits of either case make, the last of them being the units. -/
def numberOf (digits : List Char) : ℕ :=
  Nat.ofDigits 16 (digits.map fun d => hexDigits.idxOf d.toLower).reverse

/-- The number in an escape stands for the character with that code point, and for the replacement
character if there is none, or if it is zero. -/
def StandsFor (n : ℕ) (c : Char) : Prop :=
  if n = 0 ∨ 0xD800 ≤ n ∧ n ≤ 0xDFFF ∨ 0x10FFFF < n then c = '\ufffd' else c.toNat = n

instance (n : ℕ) (c : Char) : Decidable (StandsFor n c) :=
  inferInstanceAs (Decidable (ite _ (c = '\ufffd') (c.toNat = n)))

/-- The blanks that may end a numeric escape. -/
def terminators : List (List Char) :=
  [[' '], ['\t'], ['\n'], ['\x0c'], ['\r'], ['\r', '\n']]

/-- The line ends that a backslash takes out of a string. -/
def lineJoins : List (List Char) :=
  [['\\', '\n'], ['\\', '\x0c'], ['\\', '\r'], ['\\', '\r', '\n']]

/-- A way to write one character. Which characters may stand for themselves depends on where the
word stands. -/
inductive Spells (literal : Char → Bool) : List Char → Char → Prop
  | plain {c : Char} (h : literal c = true) : Spells literal [c] c
  | escaped {c : Char} (hx : isHexDigit c = false) (hn : isNewline c = false) :
      Spells literal ['\\', c] c
  | numeric {digits terminator : List Char} {c : Char} (hne : digits ≠ [])
      (hlen : digits.length ≤ 6) (hx : ∀ d ∈ digits, isHexDigit d = true)
      (ht : terminator ∈ terminators) (hc : StandsFor (numberOf digits) c) :
      Spells literal ('\\' :: (digits ++ terminator)) c

/-- A way to write a word: its characters one after the other, with texts between them that stand
for nothing. -/
inductive Spelling (literal : Char → Bool) (skipped : List (List Char)) :
    List Char → List Char → Prop
  | nil : Spelling literal skipped [] []
  | cons {u text chars : List Char} {c : Char} (hu : Spells literal u c)
      (h : Spelling literal skipped text chars) : Spelling literal skipped (u ++ text) (c :: chars)
  | skip {j text chars : List Char} (hj : j ∈ skipped)
      (h : Spelling literal skipped text chars) : Spelling literal skipped (j ++ text) chars

/-- No line end lies half in one text and half in the other. -/
def CleanCut (text rest : List Char) : Prop :=
  text.getLast? = some '\r' → rest.head? ≠ some '\n'

/-! ### Numbers in escapes -/

lemma toNat_le_of_isHexDigit (h : isHexDigit c = true) : c.toNat ≤ 102 := by
  simp only [isHexDigit, Char.isDigit, Bool.or_eq_true, Bool.and_eq_true, decide_eq_true_eq] at h
  rcases h with (⟨-, h⟩ | ⟨-, h⟩) | ⟨-, h⟩
  · exact Nat.le_trans (UInt32.le_iff_toNat_le.1 h) (by decide)
  · exact UInt32.le_iff_toNat_le.1 h
  · exact Nat.le_trans (UInt32.le_iff_toNat_le.1 h) (by decide)

/-- What holds of the first characters holds of the hexadecimal digits. -/
lemma of_isHexDigit {P : Char → Prop}
    (h : ∀ n ≤ 102, isHexDigit (Char.ofNat n) = true → P (Char.ofNat n))
    (hc : isHexDigit c = true) : P c := by
  have := h c.toNat (toNat_le_of_isHexDigit hc)
  rw [Char.ofNat_toNat] at this
  exact this hc

lemma hexValue_eq (h : isHexDigit c = true) : hexValue c = hexDigits.idxOf c.toLower :=
  of_isHexDigit (P := fun c => hexValue c = hexDigits.idxOf c.toLower) (by decide) h

lemma hexNumber_eq (h : ∀ d ∈ digits, isHexDigit d = true) :
    hexNumber digits = numberOf digits := by
  induction digits using List.reverseRecOn with
  | nil => rfl
  | append_singleton digits d ih =>
      have hd : hexValue d = hexDigits.idxOf d.toLower := hexValue_eq (h d (by simp))
      have hdigits := ih fun e he => h e (List.mem_append_left _ he)
      rw [hexNumber] at hdigits
      rw [hexNumber, List.foldl_append, hdigits, List.foldl_cons, List.foldl_nil, hd, numberOf,
        numberOf, List.map_append, List.reverse_append, List.map_singleton, List.reverse_singleton,
        List.singleton_append, Nat.ofDigits_cons, Nat.add_comm]

lemma charOfNumber_eq {n : ℕ} (h : StandsFor n c) : charOfNumber n = c := by
  rw [StandsFor] at h
  split at h
  · next hn =>
    rw [charOfNumber, if_neg, h, replacementChar]
    rintro ⟨hne, hvalid⟩
    simp only [Nat.isValidChar] at hvalid
    omega
  · next hn =>
    have hvalid : n.isValidChar := by
      rw [← h]
      exact c.valid
    rw [charOfNumber, if_pos ⟨by omega, hvalid⟩, ← h, Char.ofNat_toNat]

/-! ### One character -/

lemma not_isHexDigit_of_isBlank (h : isBlank c = true) : isHexDigit c = false := by
  rcases (isBlank_iff c).1 h with rfl | rfl | rfl | rfl | rfl <;> decide

lemma terminator_first {terminator : List Char} (h : terminator ∈ terminators) :
    ∃ b r, terminator = b :: r ∧ isBlank b = true := by
  simp only [terminators, List.mem_cons, List.not_mem_nil, or_false] at h
  rcases h with rfl | rfl | rfl | rfl | rfl | rfl <;> exact ⟨_, _, rfl, rfl⟩

lemma dropTerminator_terminator {terminator rest : List Char} (h : terminator ∈ terminators)
    (hcut : CleanCut terminator rest) : dropTerminator (terminator ++ rest) = rest := by
  simp only [terminators, List.mem_cons, List.not_mem_nil, or_false] at h
  rcases h with rfl | rfl | rfl | rfl | rfl | rfl
  · rfl
  · rfl
  · rfl
  · rfl
  · refine dropTerminator_return (r := rest) fun r heq => hcut rfl ?_
    rw [heq]
    rfl
  · rfl

lemma escapeDigits_eq {rest : List Char} {b : Char} (hlen : digits.length ≤ 6)
    (hx : ∀ d ∈ digits, isHexDigit d = true) (hb : isBlank b = true) :
    escapeDigits (digits ++ b :: rest) = digits := by
  have hnil : ((b :: rest).take (6 - digits.length)).takeWhile isHexDigit = [] := by
    cases 6 - digits.length with
    | zero => rfl
    | succ n =>
        rw [List.take_succ_cons, List.takeWhile_cons, if_neg]
        simp [not_isHexDigit_of_isBlank hb]
  rw [escapeDigits, List.take_append, List.take_of_length_le hlen,
    List.takeWhile_append_of_pos hx, hnil, List.append_nil]

/-- A numeric escape takes its terminator and is the character of its number. -/
theorem escape_numeric {terminator rest : List Char} (hne : digits ≠ [])
    (hlen : digits.length ≤ 6) (hx : ∀ d ∈ digits, isHexDigit d = true)
    (ht : terminator ∈ terminators) (hcut : CleanCut terminator rest) :
    escape ('\\' :: (digits ++ terminator ++ rest)) =
      .ok (charOfNumber (hexNumber digits), rest) := by
  obtain ⟨b, r, rfl, hb⟩ := terminator_first ht
  obtain ⟨d, ds, rfl⟩ := List.exists_cons_of_ne_nil hne
  have hd : isHexDigit d = true := hx d List.mem_cons_self
  have hnewline : isNewline d = false := by
    by_contra hn
    have hblank := isBlank_of_isNewline (Bool.of_not_eq_false hn)
    rw [not_isHexDigit_of_isBlank hblank] at hd
    cases hd
  have hdigits : escapeDigits (d :: (ds ++ (b :: r) ++ rest)) = d :: ds := by
    rw [List.append_assoc]
    exact escapeDigits_eq hlen hx hb
  have hdrop : (d :: (ds ++ (b :: r) ++ rest)).drop (d :: ds).length = b :: r ++ rest := by
    rw [List.append_assoc, ← List.cons_append, List.drop_left]
  rw [List.cons_append, List.cons_append, escape_cons hnewline, if_pos hd, hdigits, hdrop,
    dropTerminator_terminator ht hcut]

/-- Behind a backslash every spelling of a character is an escape. -/
theorem escape_spells (h : Spells literal u c) (hu : u.head? = some '\\') {rest : List Char}
    (hl : literal '\\' = false) (hcut : CleanCut u rest) : escape (u ++ rest) = .ok (c, rest) := by
  cases h with
  | plain hp =>
      cases hu
      rw [hl] at hp
      cases hp
  | escaped hx hn =>
      rw [List.cons_append, List.cons_append, List.nil_append, escape_cons hn,
        if_neg (by simp [hx])]
  | @numeric digits terminator _ hne hlen hx ht hc =>
      have hcut' : CleanCut terminator rest := by
        obtain ⟨b, r, rfl, _⟩ := terminator_first ht
        intro hlast
        refine hcut ?_
        rw [← List.cons_append, List.getLast?_append, hlast]
        rfl
      rw [List.cons_append, escape_numeric hne hlen hx ht hcut', hexNumber_eq hx,
        charOfNumber_eq hc]

/-- A spelling of a character begins with a backslash unless it is the character itself. -/
lemma Spells.cases_head (h : Spells literal u c) :
    u = [c] ∧ literal c = true ∨ ∃ r, u = '\\' :: r := by
  cases h with
  | plain hp => exact .inl ⟨rfl, hp⟩
  | escaped => exact .inr ⟨_, rfl⟩
  | numeric => exact .inr ⟨_, rfl⟩

/-! ### Words -/

lemma CleanCut.nil (rest : List Char) : CleanCut [] rest :=
  fun h => by cases h

/-- A spelling does not begin with the second half of a line end. -/
lemma Spelling.head_ne (h : Spelling literal skipped text chars) (hl : literal '\n' = false)
    (hj : ∀ j ∈ skipped, ∃ r, j = '\\' :: r) : text.head? ≠ some '\n' := by
  cases h with
  | nil => simp
  | cons hu =>
      rcases hu.cases_head with ⟨rfl, hc⟩ | ⟨r, rfl⟩
      · rintro ⟨⟩
        rw [hl] at hc
        cases hc
      · simp
  | skip hmem =>
      obtain ⟨r, rfl⟩ := hj _ hmem
      simp

/-- A clean cut behind a spelling is one behind its last part, and there is one behind each of its
parts. -/
lemma CleanCut.of_append (h : CleanCut (u ++ text) tail) (htext : text.head? ≠ some '\n') :
    CleanCut u (text ++ tail) ∧ CleanCut text tail := by
  cases text with
  | nil =>
      rw [List.append_nil] at h
      exact ⟨h, .nil tail⟩
  | cons d r =>
      refine ⟨fun _ => htext, fun hlast => h ?_⟩
      rw [List.getLast?_append, hlast]
      rfl

/-- A loop reads a spelling as what it spells if its step reads each of the parts. `f` is what the
step's findings stand for. -/
theorem many_spelling {α : Type} {step : Step α} {f : α → List Char} (hs : Shrinks step)
    (hl : literal '\n' = false) (hj : ∀ j ∈ skipped, ∃ r, j = '\\' :: r)
    (hunit : ∀ u c rest, Spells literal u c → CleanCut u rest →
      ∃ a, step (u ++ rest) = .ok (some (a, rest)) ∧ f a = [c])
    (hskip : ∀ j ∈ skipped, ∀ rest, CleanCut j rest →
      ∃ a, step (j ++ rest) = .ok (some (a, rest)) ∧ f a = [])
    (hstop : step tail = .ok none) (h : Spelling literal skipped text chars)
    (hcut : CleanCut text tail) :
    ∃ as, many step (text ++ tail) = .ok (as, tail) ∧ as.flatMap f = chars := by
  induction h with
  | nil => exact ⟨[], many_of_stop hs hstop, rfl⟩
  | cons hu htext ih =>
      obtain ⟨hcutu, hcuttext⟩ := hcut.of_append (htext.head_ne hl hj)
      obtain ⟨a, hstep, ha⟩ := hunit _ _ _ hu hcutu
      obtain ⟨as, hmany, has⟩ := ih hcuttext
      refine ⟨a :: as, ?_, ?_⟩
      · rw [List.append_assoc, many_of_found hs hstep, hmany]
        rfl
      · rw [List.flatMap_cons, ha, has, List.singleton_append]
  | skip hmem htext ih =>
      obtain ⟨hcutj, hcuttext⟩ := hcut.of_append (htext.head_ne hl hj)
      obtain ⟨a, hstep, ha⟩ := hskip _ hmem _ hcutj
      obtain ⟨as, hmany, has⟩ := ih hcuttext
      refine ⟨a :: as, ?_, ?_⟩
      · rw [List.append_assoc, many_of_found hs hstep, hmany]
        rfl
      · rw [List.flatMap_cons, ha, has, List.nil_append]

/-! ### Names -/

lemma nameChar_spells {rest : List Char} (h : Spells isNameChar u c) (hcut : CleanCut u rest) :
    nameChar (u ++ rest) = .ok (some (c, rest)) := by
  rcases h.cases_head with ⟨rfl, hc⟩ | ⟨r, rfl⟩
  · rw [List.singleton_append, nameChar, if_pos hc]
  · have hescape := escape_spells h rfl (by decide) hcut
    rw [List.cons_append, nameChar, if_neg (by decide), if_pos rfl, ← List.cons_append]
    exact found_eq_ok.2 hescape

/-- The text goes on with no name. -/
def EndsName (rest : List Char) : Prop :=
  ∀ c ∈ rest.head?, isNameChar c = false ∧ c ≠ '\\'

lemma endsName_cons {r : List Char} :
    EndsName (c :: r) ↔ isNameChar c = false ∧ c ≠ '\\' := by
  simp [EndsName]

lemma EndsName.nameChar_eq (h : EndsName tail) : nameChar tail = .ok none := by
  cases tail with
  | nil => rfl
  | cons c r => exact nameChar_cons_eq_none.2 (endsName_cons.1 h)

/-- A spelling of a name is read as the name. -/
theorem name_spelling (h : Spelling isNameChar [] text chars) (hne : chars ≠ [])
    (ht : EndsName tail) (hcut : CleanCut text tail) :
    name (text ++ tail) = .ok (String.ofList chars, tail) := by
  obtain ⟨as, hmany, has⟩ := many_spelling (f := fun a => [a]) nameChar_shrinks (by decide)
    (by simp) (fun u c rest hu hcut => ⟨c, nameChar_spells hu hcut, rfl⟩) (by simp)
    ht.nameChar_eq h hcut
  rw [List.flatMap_singleton'] at has
  subst has
  exact bind_eq_ok.2 ⟨_, hmany, if_neg (by simpa using hne)⟩

/-- The text begins with an escape, or with a character that may begin a name. -/
def BeginsName (text : List Char) : Prop :=
  ∃ c ∈ text.head?, c = '\\' ∨ isNameStart c = true

lemma BeginsName.startsWord (h : BeginsName text) (tail : List Char) :
    startsWord (text ++ tail) = true := by
  obtain ⟨c, hc, hstart⟩ := h
  cases text with
  | nil => cases hc
  | cons d r =>
      cases hc
      rw [List.cons_append, Query.startsWord]
      rcases hstart with rfl | hstart
      · simp
      · simp [hstart]

lemma Spelling.of_hyphen (h : Spelling isNameChar [] ('-' :: text) chars) :
    ∃ chars', chars = '-' :: chars' ∧ Spelling isNameChar [] text chars' := by
  generalize hspelled : '-' :: text = spelled at h
  cases h with
  | nil => cases hspelled
  | cons hu htext =>
      rcases hu.cases_head with ⟨rfl, _⟩ | ⟨r, rfl⟩
      · rw [List.singleton_append, List.cons.injEq] at hspelled
        obtain ⟨rfl, rfl⟩ := hspelled
        exact ⟨_, rfl, htext⟩
      · cases hspelled
  | skip hmem => cases hmem

/-- A spelling of an identifier is read as the identifier: behind one hyphen at most it begins with
an escape or with a character that may begin a name. -/
theorem identifier_spelling {hyphen : List Char} (hy : hyphen = [] ∨ hyphen = ['-'])
    (hb : BeginsName text) (h : Spelling isNameChar [] (hyphen ++ text) chars)
    (ht : EndsName tail) (hcut : CleanCut (hyphen ++ text) tail) :
    identifier (hyphen ++ text ++ tail) = .ok (String.ofList chars, tail) := by
  have hstart := hb.startsWord tail
  obtain ⟨c, hc, hbegin⟩ := hb
  rcases hy with rfl | rfl
  · have hword : ∀ r, text ++ tail ≠ '-' :: r := by
      intro r heq
      rw [heq] at hstart
      cases hstart
    have hne : chars ≠ [] := by
      rintro rfl
      cases h with
      | nil => cases hc
      | skip hmem => cases hmem
    rw [List.nil_append] at h hcut ⊢
    rw [identifier_word hword, if_pos hstart, name_spelling h hne ht hcut]
  · obtain ⟨chars, rfl, htext⟩ : ∃ chars', chars = '-' :: chars' ∧
        Spelling isNameChar [] text chars' := Spelling.of_hyphen h
    have hne : chars ≠ [] := by
      rintro rfl
      cases htext with
      | nil => cases hc
      | skip hmem => cases hmem
    have hcut' : CleanCut text tail := (CleanCut.of_append hcut (htext.head_ne rfl (by simp))).2
    rw [List.singleton_append, List.cons_append, identifier_hyphen, if_pos hstart,
      name_spelling htext hne ht hcut']
    refine congrArg Except.ok (Prod.ext ?_ rfl)
    exact (@String.ofList_append ['-'] chars).symm

/-! ### Strings -/

/-- A character that stands for itself between two equal quotes. -/
def isPlain (quote c : Char) : Bool :=
  c != quote && c != '\\' && !isNewline c

lemma lineJoin_first {j : List Char} (h : j ∈ lineJoins) : ∃ r, j = '\\' :: r := by
  simp only [lineJoins, List.mem_cons, List.not_mem_nil, or_false] at h
  rcases h with rfl | rfl | rfl | rfl <;> exact ⟨_, rfl⟩

section

variable {quote : Char}

lemma backslash_ne_quote (hq : isQuote quote = true) : '\\' ≠ quote := by
  rintro rfl
  cases hq

lemma stringPart_join (hq : isQuote quote = true) {j rest : List Char} (h : j ∈ lineJoins)
    (hcut : CleanCut j rest) : stringPart quote (j ++ rest) = .ok (some ([], rest)) := by
  have hne := backslash_ne_quote hq
  simp only [lineJoins, List.mem_cons, List.not_mem_nil, or_false] at h
  rcases h with rfl | rfl | rfl | rfl
  · exact stringPart_newline hne rfl (by simp)
  · exact stringPart_newline hne rfl (by simp)
  · refine stringPart_newline hne rfl fun r heq => hcut rfl ?_
    have hrest : rest = '\n' :: r := (List.cons.inj heq).2
    rw [hrest]
    rfl
  · rw [List.cons_append, List.cons_append, List.cons_append, stringPart, if_neg hne, if_pos rfl,
      List.nil_append]

lemma stringPart_spells (hq : isQuote quote = true) {rest : List Char}
    (h : Spells (isPlain quote) u c) (hcut : CleanCut u rest) :
    stringPart quote (u ++ rest) = .ok (some ([c], rest)) := by
  have hne := backslash_ne_quote hq
  rcases h.cases_head with ⟨rfl, hc⟩ | ⟨r, rfl⟩
  · simp only [isPlain, Bool.and_eq_true, bne_iff_ne, Bool.not_eq_true'] at hc
    obtain ⟨⟨hquote, hbackslash⟩, hnewline⟩ := hc
    rw [List.singleton_append, stringPart.eq_def]
    dsimp only
    rw [if_neg hquote, if_neg hbackslash, if_neg (by simp [hnewline])]
  · have hescape := escape_spells h rfl (by simp [isPlain]) hcut
    obtain ⟨d, v, hdv, hd⟩ := escape_eq_ok hescape
    rw [hdv] at hescape
    rw [hdv, stringPart_escape hne hd, hescape]
    rfl

/-- A spelling of a string between two equal quotes is read as the string, whatever stands behind
it. -/
theorem quotedString_spelling (hq : isQuote quote = true)
    (h : Spelling (isPlain quote) lineJoins text chars) (tail : List Char) :
    quotedString (quote :: (text ++ quote :: tail)) = .ok (String.ofList chars, tail) := by
  have hcut : CleanCut text (quote :: tail) := by
    rintro - ⟨⟩
    cases hq
  obtain ⟨as, hmany, has⟩ := many_spelling (f := id) (stringPart_shrinks quote)
    (by simp [isPlain, isNewline]) (fun j hj => lineJoin_first hj)
    (fun u c rest hu hcut => ⟨[c], stringPart_spells hq hu hcut, rfl⟩)
    (fun j hj rest hcut => ⟨[], stringPart_join hq hj hcut, rfl⟩)
    (stringPart_quote tail) h hcut
  rw [List.flatMap_id] at has
  subst has
  obtain ⟨d, r, hdr⟩ := List.exists_cons_of_ne_nil
    (List.append_ne_nil_of_right_ne_nil text (List.cons_ne_nil quote tail))
  rw [hdr] at hmany ⊢
  rw [quotedString, if_pos hq]
  exact bind_eq_ok.2 ⟨_, hmany, rfl⟩

end

/-! ### At a place of a query -/

/-- What a rule reads from the front of a text it reads at any place where that text stands. -/
lemma Cursor.read_eq_ok {α : Type} {rule : Rule α} {a : α} {taken rest : List Char}
    (h : rule (taken ++ rest) = .ok (a, rest)) (p : ℕ) :
    (Cursor.mk p (taken ++ rest)).read rule = .ok (a, ⟨p + taken.length, rest⟩) := by
  have hplace : p + (taken ++ rest).length - rest.length = p + taken.length := by
    rw [List.length_append]
    omega
  rw [Cursor.read]
  dsimp only
  rw [h]
  dsimp only [Cursor.length]
  rw [hplace]

/-- **Words are read as what their spellings spell.** At any place of a query a spelling of a name
is read as the name, one of an identifier as the identifier and one of a string as the string, and
the place is then right behind the spelling. What stands behind a name must not go on with it. -/
theorem read_spelling :
    (∀ (s : String) (text rest : List Char) (p : ℕ), s ≠ "" →
      Spelling isNameChar [] text s.toList → EndsName rest → CleanCut text rest →
      (Cursor.mk p (text ++ rest)).read name = .ok (s, ⟨p + text.length, rest⟩)) ∧
    (∀ (s : String) (hyphen text rest : List Char) (p : ℕ), hyphen = [] ∨ hyphen = ['-'] →
      BeginsName text → Spelling isNameChar [] (hyphen ++ text) s.toList → EndsName rest →
      CleanCut (hyphen ++ text) rest →
      (Cursor.mk p (hyphen ++ text ++ rest)).read identifier =
        .ok (s, ⟨p + (hyphen ++ text).length, rest⟩)) ∧
    (∀ (s : String) (quote : Char) (text rest : List Char) (p : ℕ), quote = '"' ∨ quote = '\'' →
      Spelling (isPlain quote) lineJoins text s.toList →
      (Cursor.mk p ([quote] ++ text ++ [quote] ++ rest)).read quotedString =
        .ok (s, ⟨p + ([quote] ++ text ++ [quote]).length, rest⟩)) := by
  refine ⟨fun s text rest p hs h ht hcut => ?_, fun s hyphen text rest p hy hb h ht hcut => ?_,
    fun s quote text rest p hq h => ?_⟩
  · have hne : s.toList ≠ [] := by simpa using hs
    have hname := name_spelling h hne ht hcut
    rw [String.ofList_toList] at hname
    exact Cursor.read_eq_ok hname p
  · have hword := identifier_spelling hy hb h ht hcut
    rw [String.ofList_toList] at hword
    exact Cursor.read_eq_ok hword p
  · have hquote : isQuote quote = true := by
      rcases hq with rfl | rfl <;> rfl
    have hstring := quotedString_spelling hquote h rest
    rw [String.ofList_toList] at hstring
    refine Cursor.read_eq_ok ?_ p
    simpa using hstring

/-- A carriage return and a line feed that end an escape together, a hyphen before a number, a
number of no character, and in the string a line end that joins and quotes in it. -/
theorem read_spelling_mixed :
    (Cursor.mk 1 ("1\\000041\r\n-".toList ++ [']'])).read name = .ok ("1A-", ⟨12, [']']⟩) ∧
    (Cursor.mk 0 (['-'] ++ "\\31\r\\.\\d800 ".toList ++ ['='])).read identifier =
      .ok ("-1.\ufffd", ⟨13, ['=']⟩) ∧
    (Cursor.mk 0 (['\''] ++ "\\\n\"\\'\\27 ".toList ++ ['\''] ++ [')'])).read quotedString =
      .ok ("\"''", ⟨11, [')']⟩) := by
  have numeric (l : Char → Bool) (digits terminator : List Char) (c : Char)
      (hx : digits.all isHexDigit = true) (h : digits ≠ [] ∧ digits.length ≤ 6 ∧
        terminator ∈ terminators ∧ StandsFor (numberOf digits) c) :
      Spells l ('\\' :: (digits ++ terminator)) c :=
    .numeric h.1 h.2.1 (List.all_eq_true.1 hx) h.2.2.1 h.2.2.2
  have hname : Spelling isNameChar [] "1\\000041\r\n-".toList "1A-".toList := by
    have hletter := numeric isNameChar "000041".toList ['\r', '\n'] 'A' rfl (by decide)
    exact .cons (.plain rfl) (.cons hletter (.cons (.plain rfl) .nil))
  have hword : Spelling isNameChar [] (['-'] ++ "\\31\r\\.\\d800 ".toList) "-1.\ufffd".toList := by
    have hdigit := numeric isNameChar ['3', '1'] ['\r'] '1' rfl (by decide)
    have hnone := numeric isNameChar "d800".toList [' '] '\ufffd' rfl (by decide)
    exact .cons (.plain rfl) (.cons hdigit (.cons (.escaped rfl rfl) (.cons hnone .nil)))
  have hstring : Spelling (isPlain '\'') lineJoins "\\\n\"\\'\\27 ".toList "\"''".toList := by
    have hquote := numeric (isPlain '\'') ['2', '7'] [' '] '\'' rfl (by decide)
    exact .skip List.mem_cons_self
      (.cons (.plain rfl) (.cons (.escaped rfl rfl) (.cons hquote .nil)))
  have hbracket : EndsName [']'] := endsName_cons.2 (by decide)
  have hequals : EndsName ['='] := endsName_cons.2 (by decide)
  exact ⟨read_spelling.1 _ _ _ 1 (by decide) hname hbracket (by simp [CleanCut]),
    read_spelling.2.1 _ ['-'] _ _ 0 (.inr rfl) ⟨'\\', rfl, .inl rfl⟩ hword hequals
      (by simp [CleanCut]),
    read_spelling.2.2 _ '\'' _ _ 0 (.inr rfl) hstring⟩

end MarkupQuery.Query
