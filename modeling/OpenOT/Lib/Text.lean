import Mathlib.Data.List.Basic
import Mathlib.Data.List.Infix

set_option relaxedAutoImplicit false
set_option autoImplicit false

/-!
# Texts of words and numbers

Texts are lists of characters, taken apart into lines and lines into words. Numbers are written in
decimal. What is written word by word and line by line is read back word by word and line by line.

## Main definitions

* `Text.words` — the words of a text, separated by white space.
* `Text.lines` — the lines of a text.
* `Text.decimal`, `Text.parseUnsigned` — a number in decimal, and back.

## Main results

* `Text.words_joined` — words with single blanks between them.
* `Text.isWord_of_mem_words` — what is read is a word.
* `Text.lines_unlines` — lines that are written one after the other.
* `Text.parseUnsigned_decimal` — a number that is written is read back.
-/

namespace Text

/-! ## Words -/

/-- The characters with the Unicode property `White_Space`. -/
def isWhitespace (c : Char) : Bool :=
  (9 ≤ c.toNat && c.toNat ≤ 13) || c.toNat == 32 || c.toNat == 0x85 || c.toNat == 0xA0 ||
    c.toNat == 0x1680 || (0x2000 ≤ c.toNat && c.toNat ≤ 0x200A) || c.toNat == 0x2028 ||
    c.toNat == 0x2029 || c.toNat == 0x202F || c.toNat == 0x205F || c.toNat == 0x3000

/-- A word is not empty and holds no white space. -/
def IsWord (word : List Char) : Prop := word ≠ [] ∧ ∀ c ∈ word, isWhitespace c = false

instance (word : List Char) : Decidable (IsWord word) :=
  decidable_of_iff (word ≠ [] ∧ (word.all fun c => !isWhitespace c) = true) (by simp [IsWord])

/-- The words of a text. -/
def words (text : List Char) : List (List Char) := (text.splitOnP isWhitespace).filter (· ≠ [])

/-- Words with single blanks between them. -/
def joined : List (List Char) → List Char
  | [] => []
  | [word] => word
  | word :: next :: rest => word ++ ' ' :: joined (next :: rest)

/-- A word in front of white space. -/
lemma words_cons {word rest : List Char} {c : Char} (h : IsWord word) (hc : isWhitespace c = true) :
    words (word ++ c :: rest) = word :: words rest := by
  rw [words, List.splitOnP_append_cons_of_forall_mem h.2 c hc,
    List.filter_cons_of_pos (by simp [h.1])]
  rfl

/-- A word on its own. -/
lemma words_word {word : List Char} (h : IsWord word) : words word = [word] := by
  rw [words, List.splitOnP_eq_singleton h.2, List.filter_cons_of_pos (by simp [h.1]), List.filter_nil]

/-- **Words that are written are read back.** -/
lemma words_joined {ws : List (List Char)} (h : ∀ word ∈ ws, IsWord word) :
    words (joined ws) = ws := by
  induction ws with
  | nil => rfl
  | cons word rest ih =>
    obtain ⟨hword, hrest⟩ := List.forall_mem_cons.mp h
    cases rest with
    | nil => exact words_word hword
    | cons next rest => rw [joined, words_cons hword (by decide), ih hrest]

/-- A piece between separators holds no separator. -/
lemma not_mem_of_splitOnP {p : Char → Bool} {text piece : List Char} (h : piece ∈ text.splitOnP p) :
    ∀ c ∈ piece, p c = false := by
  induction text generalizing piece with
  | nil =>
    obtain rfl := List.mem_singleton.mp h
    simp
  | cons a text ih =>
    rw [List.splitOnP_cons_eq_if_modifyHead] at h
    split_ifs at h with ha
    · rcases List.mem_cons.mp h with rfl | hrest
      · simp
      · exact ih hrest
    · cases hpieces : text.splitOnP p with
      | nil => exact absurd hpieces (List.splitOnP_ne_nil p text)
      | cons first pieces =>
        rw [hpieces, List.modifyHead_cons] at h
        rcases List.mem_cons.mp h with rfl | hrest
        · exact List.forall_mem_cons.mpr ⟨by simpa using ha, ih (hpieces ▸ List.mem_cons_self)⟩
        · exact ih (hpieces ▸ List.mem_cons_of_mem _ hrest)

/-- **What is read is a word.** -/
lemma isWord_of_mem_words {text word : List Char} (h : word ∈ words text) : IsWord word := by
  obtain ⟨hpiece, hne⟩ := List.mem_filter.mp h
  exact ⟨by simpa using hne, not_mem_of_splitOnP hpiece⟩

/-! ## Lines -/

/-- A line without a carriage return at its end. -/
def dropReturn (line : List Char) : List Char :=
  if line.getLast? = some '\r' then line.dropLast else line

/-- The lines of a text behind the beginning of the first line. -/
def linesFrom : List Char → List Char → List (List Char)
  | line, [] => if line = [] then [] else [line]
  | line, c :: rest =>
    if c = '\n' then dropReturn line :: linesFrom [] rest else linesFrom (line ++ [c]) rest

/-- The lines of a text: each ends with a newline, with a carriage return before it if there is one;
a last line need not end with a newline. -/
def lines (text : List Char) : List (List Char) := linesFrom [] text

/-- Lines one after the other. -/
def unlines (ls : List (List Char)) : List Char := ls.flatMap (· ++ ['\n'])

lemma linesFrom_append {start line rest : List Char} (h : '\n' ∉ line) :
    linesFrom start (line ++ '\n' :: rest) = dropReturn (start ++ line) :: lines rest := by
  induction line generalizing start with
  | nil => simp [linesFrom, lines]
  | cons c line ih =>
    rw [List.mem_cons, not_or] at h
    rw [List.cons_append, linesFrom, if_neg (Ne.symm h.1), ih h.2, List.append_assoc]
    rfl

/-- **Lines that are written are read back**, if none holds a newline or ends with a carriage
return. -/
lemma lines_unlines {ls : List (List Char)}
    (h : ∀ line ∈ ls, '\n' ∉ line ∧ line.getLast? ≠ some '\r') : lines (unlines ls) = ls := by
  induction ls with
  | nil => rfl
  | cons line ls ih =>
    obtain ⟨⟨hline, hreturn⟩, hrest⟩ := List.forall_mem_cons.mp h
    have ih := ih hrest
    unfold unlines at ih ⊢
    rw [List.flatMap_cons, List.append_assoc, List.singleton_append, lines,
      linesFrom_append hline, ih, List.nil_append, dropReturn, if_neg hreturn]

/-- Words with blanks between them are a line. -/
lemma line_joined {ws : List (List Char)} (h : ∀ word ∈ ws, IsWord word) :
    '\n' ∉ joined ws ∧ (joined ws).getLast? ≠ some '\r' := by
  induction ws with
  | nil => simp [joined]
  | cons word rest ih =>
    obtain ⟨⟨hne, hword⟩, hrest⟩ := List.forall_mem_cons.mp h
    have hspace : ∀ c, isWhitespace c = true → c ∉ word := fun c hc hmem => by
      simp [hword c hmem] at hc
    cases rest with
    | nil =>
      exact ⟨hspace _ (by decide), fun hlast => hspace '\r' (by decide) (List.mem_of_getLast? hlast)⟩
    | cons next rest =>
      obtain ⟨hnewline, hreturn⟩ := ih hrest
      have hjoined : joined (next :: rest) ≠ [] := by
        have hnext := (hrest next List.mem_cons_self).1
        cases rest <;> simp [joined, hnext]
      rw [joined]
      refine ⟨?_, ?_⟩
      · simp [hspace '\n' (by decide), hnewline]
      · rw [List.getLast?_append_of_ne_nil _ (List.cons_ne_nil _ _),
          List.getLast?_cons_of_ne_nil hjoined]
        exact hreturn

/-! ## Numbers -/

/-- A number in decimal. -/
def decimal (n : ℕ) : List Char := Nat.toDigits 10 n

/-- The digits behind a sign; a sign alone is left as it is. -/
def dropPlus : List Char → List Char
  | '+' :: c :: rest => c :: rest
  | text => text

/-- An unsigned number below a bound: digits, possibly behind a plus sign. -/
def parseUnsigned (bound : ℕ) (text : List Char) : Option ℕ :=
  let digits := dropPlus text
  if digits ≠ [] ∧ digits.all Char.isDigit ∧ Nat.ofDigitChars 10 digits 0 < bound then
    some (Nat.ofDigitChars 10 digits 0)
  else none

lemma isDigit_of_mem_decimal {n : ℕ} {c : Char} (h : c ∈ decimal n) : c.isDigit = true :=
  Nat.isDigit_of_mem_toDigits (by decide) (by decide) h

/-- A number in decimal is a word. -/
lemma isWord_decimal (n : ℕ) : IsWord (decimal n) := by
  refine ⟨Nat.toDigits_ne_nil, fun c hc => ?_⟩
  have hdigit := isDigit_of_mem_decimal hc
  simp only [Char.isDigit, Bool.and_eq_true, decide_eq_true_eq, ge_iff_le,
    UInt32.le_iff_toNat_le] at hdigit
  have hlow : 48 ≤ c.toNat := hdigit.1
  have hhigh : c.toNat ≤ 57 := hdigit.2
  simp [isWhitespace]
  omega

/-- **A number that is written is read back.** -/
lemma parseUnsigned_decimal {bound n : ℕ} (h : n < bound) :
    parseUnsigned bound (decimal n) = some n := by
  have hplus : dropPlus (decimal n) = decimal n := by
    unfold dropPlus
    split
    · rename_i c rest heq
      have hsign := isDigit_of_mem_decimal (n := n) (c := '+') (by rw [heq]; exact List.mem_cons_self)
      simp at hsign
    · rfl
  have hvalue : Nat.ofDigitChars 10 (decimal n) 0 = n := Nat.ofDigitChars_ten_toDigits
  have hdigits : (decimal n).all Char.isDigit = true :=
    List.all_eq_true.mpr fun c hc => isDigit_of_mem_decimal hc
  rw [parseUnsigned, hplus, hvalue, if_pos ⟨Nat.toDigits_ne_nil, hdigits, h⟩]

/-- A number that is read is below the bound. -/
lemma lt_of_parseUnsigned {bound n : ℕ} {text : List Char} (h : parseUnsigned bound text = some n) :
    n < bound := by
  unfold parseUnsigned at h
  dsimp only at h
  split_ifs at h with hcond
  obtain rfl := Option.some.inj h
  exact hcond.2.2

end Text
