import Mathlib.Data.List.TakeWhile
import SmtpLink.Text.Blank

/-!
# Words and numerals

What cutting a text into words, cutting a word at a mark and reading a numeral mean, without the
way in which it is done.

## Main definitions

* `Text.HasWords` — the words of a text, read off the text from left to right.
* `Text.IsNumeral` — the texts that stand for a number.

## Main results

* `Text.words_append_blank` — words are cut at a blank.
* `Text.hasWords_iff` — **the words of a text are those that can be read off.**
* `Text.words_trim` — trimming makes no difference to words.
* `Text.cutAt_eq_iff`, `Text.numeral?_eq_some_iff` — what a cut and a numeral are.
-/

namespace SmtpLink.Text

variable {p : Char → Bool} {c : Char} {text word : List Char}

/-! ### Pieces -/

theorem pieces_ne_nil (p : Char → Bool) (text : List Char) : pieces p text ≠ [] := by
  cases text with
  | nil => simp
  | cons c text =>
    rw [pieces_cons]
    split
    · simp
    · cases pieces p text <;> simp [growFirst]

theorem growFirst_append (c : Char) {found : List (List Char)} (some : found ≠ [])
    (more : List (List Char)) : growFirst c (found ++ more) = growFirst c found ++ more := by
  obtain ⟨first, rest, rfl⟩ := List.exists_cons_of_ne_nil some
  rfl

/-- **A text is cut at a character that cuts.** -/
theorem pieces_append_cons (cuts : p c = true) (front back : List Char) :
    pieces p (front ++ c :: back) = pieces p front ++ pieces p back := by
  induction front with
  | nil =>
    rw [List.nil_append, pieces_cons, if_pos cuts]
    rfl
  | cons d front ih =>
    rw [List.cons_append, pieces_cons, pieces_cons, ih]
    split
    · rfl
    · rw [growFirst_append d (pieces_ne_nil p front)]

/-- A text without a character that cuts is one piece. -/
theorem pieces_of_solid (solid : ∀ c ∈ text, p c = false) : pieces p text = [text] := by
  induction text with
  | nil => rfl
  | cons c text ih =>
    obtain ⟨first, rest⟩ := List.forall_mem_cons.mp solid
    rw [pieces_cons, if_neg (by simp [first]), ih rest]
    rfl

/-! ### Words -/

@[simp] theorem words_nil : words [] = [] := rfl

/-- **Words are cut at a blank.** -/
theorem words_append_blank (blank : isBlank c = true) (front back : List Char) :
    words (front ++ c :: back) = words front ++ words back := by
  rw [words, pieces_append_cons blank, List.filter_append]
  rfl

/-- A blank in front belongs to no word. -/
theorem words_cons_blank (blank : isBlank c = true) (text : List Char) :
    words (c :: text) = words text :=
  words_append_blank blank [] text

/-- A blank at the end belongs to no word. -/
theorem words_concat_blank (blank : isBlank c = true) (text : List Char) :
    words (text ++ [c]) = words text := by
  rw [words_append_blank blank, words_nil, List.append_nil]

theorem ne_nil_of_mem_words (mem : word ∈ words text) : word ≠ [] := by
  simpa using (List.mem_filter.mp mem).2

/-- A text without blanks is one word. -/
theorem words_of_solid (some : word ≠ []) (solid : ∀ c ∈ word, isBlank c = false) :
    words word = [word] := by
  rw [words, pieces_of_solid solid]
  simp [some]

/-- A word at the beginning is the first word. -/
theorem words_append (some : word ≠ []) (solid : ∀ c ∈ word, isBlank c = false)
    (ends : ∀ c ∈ text.head?, isBlank c = true) : words (word ++ text) = word :: words text := by
  cases text with
  | nil => rw [List.append_nil, words_of_solid some solid, words_nil]
  | cons c text =>
    have blank : isBlank c = true := ends c rfl
    rw [words_append_blank blank, words_of_solid some solid, words_cons_blank blank]
    rfl

/-- The words of a text, read off from left to right: blanks are passed over, and a word goes on up
to the next blank or the end. -/
inductive HasWords : List Char → List (List Char) → Prop
  /-- Nothing is left. -/
  | nil : HasWords [] []
  /-- A blank between words. -/
  | blank {c : Char} {text : List Char} {found : List (List Char)} (blank : isBlank c = true)
      (rest : HasWords text found) : HasWords (c :: text) found
  /-- A word, with the end of the text or a blank behind it. -/
  | word {word text : List Char} {found : List (List Char)} (some : word ≠ [])
      (solid : ∀ c ∈ word, isBlank c = false) (ends : ∀ c ∈ text.head?, isBlank c = true)
      (rest : HasWords text found) : HasWords (word ++ text) (word :: found)

/-- Every text can be read off. -/
theorem exists_hasWords (text : List Char) : ∃ found, HasWords text found := by
  induction text with
  | nil => exact ⟨[], .nil⟩
  | cons c text ih =>
    obtain ⟨found, read⟩ := ih
    cases blank : isBlank c with
    | true => exact ⟨found, .blank blank read⟩
    | false =>
      have alone : ∀ d ∈ [c], isBlank d = false := List.forall_mem_singleton.mpr blank
      -- the character begins a word, or is the first of the word that comes next
      cases read with
      | nil => exact ⟨[[c]], .word (by simp) alone (by simp) .nil⟩
      | @blank d text found blank' rest =>
        refine ⟨[c] :: found, .word (by simp) alone ?_ (.blank blank' rest)⟩
        intro e mem
        obtain rfl : d = e := by simpa using mem
        exact blank'
      | @word word text found some solid ends rest =>
        refine ⟨(c :: word) :: found, .word (List.cons_ne_nil c word) ?_ ends rest⟩
        exact List.forall_mem_cons.mpr ⟨blank, solid⟩

theorem eq_of_hasWords {found : List (List Char)} (read : HasWords text found) :
    words text = found := by
  induction read with
  | nil => rfl
  | blank blank rest ih => rw [words_cons_blank blank, ih]
  | word some solid ends rest ih => rw [words_append some solid ends, ih]

/-- **The words of a text are those that can be read off.** -/
theorem hasWords_iff {found : List (List Char)} : HasWords text found ↔ words text = found := by
  constructor
  · exact eq_of_hasWords
  · rintro rfl
    obtain ⟨found, read⟩ := exists_hasWords text
    rw [eq_of_hasWords read]
    exact read

/-- Only blanks make no word. -/
theorem words_eq_nil_iff : words text = [] ↔ ∀ c ∈ text, isBlank c = true := by
  rw [← hasWords_iff]
  constructor
  · intro none
    generalize found : ([] : List (List Char)) = words at none
    induction none with
    | nil => simp
    | blank blank rest ih => exact List.forall_mem_cons.mpr ⟨blank, ih found⟩
    | word => exact absurd found (by simp)
  · intro blanks
    induction text with
    | nil => exact .nil
    | cons c text ih =>
      obtain ⟨blank, rest⟩ := List.forall_mem_cons.mp blanks
      exact .blank blank (ih rest)

/-! ### Trimming -/

theorem words_dropWhile (text : List Char) : words (text.dropWhile isBlank) = words text := by
  induction text with
  | nil => rfl
  | cons c text ih =>
    cases blank : isBlank c with
    | true => rw [List.dropWhile_cons_of_pos blank, ih, words_cons_blank blank]
    | false => rw [List.dropWhile_cons_of_neg (by simp [blank])]

theorem words_dropEndWhile (text : List Char) :
    words (dropEndWhile isBlank text) = words text := by
  rw [dropEndWhile]
  induction reversed : text.reverse generalizing text with
  | nil => rw [List.reverse_eq_nil_iff.mp reversed]; rfl
  | cons c back ih =>
    have whole : text = back.reverse ++ [c] := by
      rw [← List.reverse_cons, ← reversed, List.reverse_reverse]
    cases blank : isBlank c with
    | true =>
      rw [List.dropWhile_cons_of_pos blank, ih back.reverse (List.reverse_reverse back), whole,
        words_concat_blank blank]
    | false => rw [List.dropWhile_cons_of_neg (by simp [blank]), ← reversed, List.reverse_reverse]

/-- **Trimming makes no difference to words.** -/
theorem words_trim (text : List Char) : words (trim text) = words text := by
  rw [trim, words_dropEndWhile, words_dropWhile]

/-- Only blanks are trimmed to nothing. -/
theorem trim_eq_nil_iff : trim text = [] ↔ words text = [] := by
  constructor
  · intro nothing
    rw [← words_trim, nothing, words_nil]
  · intro none
    rw [words_eq_nil_iff] at none
    rw [trim, List.dropWhile_eq_nil_iff.mpr none]
    rfl

/-! ### Cuts and numerals -/

/-- A text is cut at its first mark, if there is one. -/
theorem cutAt_eq_iff {mark : Char} {front : List Char} {back : Option (List Char)} :
    cutAt mark text = (front, back) ↔
      mark ∉ front ∧ text = front ++ (back.map (mark :: ·)).getD [] := by
  have none (part : List Char) (absent : mark ∉ part) : ∀ c ∈ part, (c != mark) = true :=
    fun c mem => bne_iff_ne.mpr fun same => absent (same ▸ mem)
  constructor
  · intro cut
    unfold cutAt at cut
    split at cut
    · next all =>
      obtain ⟨rfl, rfl⟩ := Prod.mk.inj cut
      rw [List.dropWhile_eq_nil_iff] at all
      refine ⟨fun mem => ?_, (List.append_nil text).symm⟩
      exact absurd (all mark mem) (by simp)
    · next c rest found =>
      obtain ⟨rfl, rfl⟩ := Prod.mk.inj cut
      have whole := List.takeWhile_append_dropWhile (p := (· != mark)) (l := text)
      have first : c = mark := by
        have stops := List.head?_dropWhile_not (· != mark) text
        rw [found] at stops
        simpa using stops
      rw [found, first] at whole
      refine ⟨fun mem => ?_, whole.symm⟩
      exact absurd (List.mem_takeWhile_imp mem) (by simp)
  · rintro ⟨absent, rfl⟩
    cases back with
    | none =>
      have all : (front ++ []).dropWhile (· != mark) = [] := by
        rw [List.append_nil, List.dropWhile_eq_nil_iff]
        exact none front absent
      show cutAt mark (front ++ []) = (front, Option.none)
      rw [cutAt, all]
      dsimp only
      rw [List.append_nil]
    | some back =>
      have before : (front ++ mark :: back).dropWhile (· != mark) = mark :: back := by
        rw [List.dropWhile_append_of_pos (none front absent),
          List.dropWhile_cons_of_neg (by simp)]
      show cutAt mark (front ++ mark :: back) = (front, Option.some back)
      rw [cutAt, before]
      dsimp only
      rw [List.takeWhile_append_of_pos (none front absent), List.takeWhile_cons_of_neg (by simp),
        List.append_nil]

/-- The texts that stand for a number: decimal digits, with a plus sign in front or without. -/
def IsNumeral (text : List Char) (n : Nat) : Prop :=
  ∃ digits, (text = digits ∨ text = '+' :: digits) ∧ digits ≠ [] ∧
    (∀ c ∈ digits, isDigit c = true) ∧ digitsValue digits = n

/-- Digits are read exactly if their number is below the bound. -/
theorem digits_eq_some_iff {digits : List Char} {bound n : Nat} :
    (if digits.isEmpty || !digits.all isDigit then none
      else if digitsValue digits < bound then some (digitsValue digits) else none) = some n ↔
      (digits ≠ [] ∧ (∀ c ∈ digits, isDigit c = true) ∧ digitsValue digits = n) ∧ n < bound := by
  rw [Option.ite_none_left_eq_some, Option.ite_none_right_eq_some]
  simp only [Bool.or_eq_true, List.isEmpty_iff, Bool.not_eq_true', not_or, Bool.not_eq_false,
    List.all_eq_true, Option.some.injEq]
  constructor
  · rintro ⟨⟨some, all⟩, below, rfl⟩
    exact ⟨⟨some, all, rfl⟩, below⟩
  · rintro ⟨⟨some, all, rfl⟩, below⟩
    exact ⟨⟨some, all⟩, below, rfl⟩

/-- **A numeral is read exactly if its number is below the bound.** -/
theorem numeral?_eq_some_iff {bound n : Nat} :
    numeral? bound text = some n ↔ IsNumeral text n ∧ n < bound := by
  have plusIsNoDigit : isDigit '+' = false := rfl
  refine digits_eq_some_iff.trans (and_congr_left fun _ => ?_)
  by_cases plus : text.head? = some '+'
  · obtain ⟨rest, rfl⟩ := List.head?_eq_some_iff.mp plus
    rw [if_pos (by simp), List.tail_cons]
    constructor
    · intro numeral
      exact ⟨rest, .inr rfl, numeral⟩
    · rintro ⟨digits, rfl | same, some, all, value⟩
      · exact absurd (all '+' List.mem_cons_self) (by simp [plusIsNoDigit])
      · obtain ⟨-, rfl⟩ := List.cons.inj same
        exact ⟨some, all, value⟩
  · rw [if_neg (by simpa using plus)]
    constructor
    · intro numeral
      exact ⟨text, .inl rfl, numeral⟩
    · rintro ⟨digits, rfl | rfl, numeral⟩
      · exact numeral
      · exact absurd rfl plus

end SmtpLink.Text
