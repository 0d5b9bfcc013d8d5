import Mathlib
import UnitLinker.Instruction.Operand

/-!
# Numbers and constants as text

A number can be told from what stands around it in a text as long as that is no digit.
Constants of different sorts have texts that start differently, and a quote inside of a
text is doubled, so that two constants with the same text are the same. Only reals are
rounded and may share a text.
-/

namespace UnitLinker

namespace Text

/-- Characters that do not go on with a number in front of them. -/
def StopsNumber (rest : List Char) : Prop := ∀ char ∈ rest.head?, char.isDigit = false

@[simp] theorem stopsNumber_nil : StopsNumber [] := nofun

@[simp] theorem stopsNumber_cons {char : Char} {rest : List Char} :
    StopsNumber (char :: rest) ↔ char.isDigit = false := by
  simp [StopsNumber]

section Digits

variable {digits others rest more : List Char}

/-- The digits of a number end where the number is stopped. -/
theorem takeWhile_digits (number : ∀ char ∈ digits, char.isDigit = true)
    (stops : StopsNumber rest) : (digits ++ rest).takeWhile Char.isDigit = digits := by
  rw [List.takeWhile_append_of_pos number]
  cases rest with
  | nil => simp
  | cons char rest => simp [stopsNumber_cons.1 stops]

/-- Digits are told from what follows them. -/
theorem digits_append_inj (number : ∀ char ∈ digits, char.isDigit = true)
    (otherNumber : ∀ char ∈ others, char.isDigit = true) (stops : StopsNumber rest)
    (otherStops : StopsNumber more) (same : digits ++ rest = others ++ more) :
    digits = others ∧ rest = more := by
  have sameDigits : digits = others := by
    rw [← takeWhile_digits number stops, same, takeWhile_digits otherNumber otherStops]
  rw [sameDigits] at same
  exact ⟨sameDigits, List.append_cancel_left same⟩

end Digits

theorem between_inj {before after text other : String}
    (same : before ++ text ++ after = before ++ other ++ after) : text = other :=
  (String.append_right_inj _).1 ((String.append_left_inj _).1 same)

variable {first second : UInt64}

/-- A word is written in digits. -/
theorem isDigit_of_mem_word {word : UInt64} :
    ∀ char ∈ (toString word).toList, char.isDigit = true := by
  intro char member
  have digits : (toString word).toList = Nat.toDigits 10 word.toNat := Nat.toList_repr
  rw [digits] at member
  exact Nat.isDigit_of_mem_toDigits (by decide) (by decide) member

/-- Words are told apart by their texts. -/
theorem word_inj (same : toString first = toString second) : first = second :=
  UInt64.toNat_inj.1 (Nat.repr_inj.1 same)

/-- A number is told from the text after it. -/
theorem word_append_inj {rest more : String} (stops : StopsNumber rest.toList)
    (otherStops : StopsNumber more.toList)
    (same : toString first ++ rest = toString second ++ more) : first = second ∧ rest = more := by
  have lists := congrArg String.toList same
  rw [String.toList_append, String.toList_append] at lists
  obtain ⟨sameDigits, sameRest⟩ :=
    digits_append_inj isDigit_of_mem_word isDigit_of_mem_word stops otherStops lists
  exact ⟨word_inj (String.toList_inj.1 sameDigits), String.toList_inj.1 sameRest⟩

/-- A number is told from the text before it: it is what stands after the last character
that is no digit. -/
theorem append_word_inj {text other : String} (stops : StopsNumber text.toList.reverse)
    (otherStops : StopsNumber other.toList.reverse)
    (same : text ++ toString first = other ++ toString second) :
    text = other ∧ first = second := by
  have lists := congrArg (fun text => text.toList.reverse) same
  simp only [String.toList_append, List.reverse_append] at lists
  have number : ∀ word : UInt64, ∀ char ∈ (toString word).toList.reverse, char.isDigit = true :=
    fun word char member => isDigit_of_mem_word char (List.mem_reverse.1 member)
  obtain ⟨sameDigits, sameText⟩ :=
    digits_append_inj (number first) (number second) stops otherStops lists
  exact ⟨String.toList_inj.1 (List.reverse_inj.1 sameText),
    word_inj (String.toList_inj.1 (List.reverse_inj.1 sameDigits))⟩

end Text

namespace Value

/-- Doubling keeps apart what was different: one quote stands for no character. -/
theorem doubleQuotes_injective : Function.Injective doubleQuotes := by
  intro first second same
  induction first generalizing second with
  | nil =>
    cases second with
    | nil => rfl
    | cons letter rest =>
      simp only [doubleQuotes] at same
      split at same <;> cases same
  | cons letter rest ih =>
    cases second with
    | nil =>
      simp only [doubleQuotes] at same
      split at same <;> cases same
    | cons other more =>
      by_cases quote : letter = '\x27' <;> by_cases otherQuote : other = '\x27' <;>
        simp only [doubleQuotes, quote, otherQuote, if_true, if_false, List.cons.injEq,
          true_and] at same ⊢
      · exact ih same
      · exact absurd same.1.symm otherQuote
      · exact same.1.elim
      · exact ⟨same.1, ih same.2⟩

/-- The sorts of constants that are written without rounding. -/
inductive ExactSort where
  | nil | bool | int | char | text
  deriving DecidableEq

def exactSort? : Value → Option ExactSort
  | .nil => some .nil
  | .bool _ => some .bool
  | .int _ => some .int
  | .real _ => none
  | .char _ => some .char
  | .text _ => some .text

/-- The sort of a constant by the first character of its text. -/
def ExactSort.ofFirst (letter : Char) : ExactSort :=
  if letter.isDigit || letter = '-' then .int
  else if letter = 'n' then .nil
  else if letter = 't' || letter = 'f' then .bool
  else if letter = '#' then .char
  else .text

/-- An integer starts with a digit or a sign. -/
theorem exists_first_int (number : Int) :
    ∃ letter, (toString number).toList.head? = some letter
      ∧ (letter.isDigit || letter = '-') = true := by
  cases number with
  | ofNat number =>
    cases digits : Nat.toDigits 10 number with
    | nil => exact absurd digits Nat.toDigits_ne_nil
    | cons letter rest =>
      have text : (toString (Int.ofNat number)).toList = letter :: rest :=
        Nat.toList_repr.trans digits
      have isDigit : letter.isDigit = true :=
        Nat.isDigit_of_mem_toDigits (by decide) (by decide) (digits ▸ List.mem_cons_self)
      exact ⟨letter, by rw [text]; rfl, by rw [isDigit]; rfl⟩
  | negSucc number => exact ⟨'-', by simp [toString, Int.repr], by decide⟩

/-- The first character of the text of a constant tells its sort. -/
theorem exists_first {value : Value} (notReal : ∀ real, value ≠ .real real) :
    ∃ letter, value.render.toList.head? = some letter
      ∧ value.exactSort? = some (.ofFirst letter) := by
  cases value with
  | nil => exact ⟨'n', by decide, by decide⟩
  | bool value =>
    cases value with
    | true => exact ⟨'t', by decide, by decide⟩
    | false => exact ⟨'f', by decide, by decide⟩
  | int value =>
    obtain ⟨letter, starts, isNumber⟩ := exists_first_int value.toInt
    exact ⟨letter, starts, congrArg some (if_pos isNumber).symm⟩
  | real real => exact absurd rfl (notReal real)
  | char value => exact ⟨'#', by simp [render, toString], rfl⟩
  | text value => exact ⟨'\x27', by simp [render], rfl⟩

/-- Constants that are no reals are told apart by their texts. -/
theorem eq_of_render_eq {first second : Value} (notReal : ∀ real, first ≠ .real real)
    (otherNotReal : ∀ real, second ≠ .real real) (same : first.render = second.render) :
    first = second := by
  have sameSort : first.exactSort? = second.exactSort? := by
    obtain ⟨letter, starts, sort⟩ := exists_first notReal
    obtain ⟨other, otherStarts, otherSort⟩ := exists_first otherNotReal
    rw [same, otherStarts, Option.some.injEq] at starts
    rw [sort, otherSort, starts]
  cases first <;> cases second <;> cases sameSort
  case nil.nil => rfl
  case bool.bool value other => cases value <;> cases other <;> simp [render] at same ⊢
  case int.int value other => rw [Int64.toInt_inj.1 (Int.repr_inj.1 same)]
  case real.real real _ => exact absurd rfl (notReal real)
  case char.char value other =>
    have codes := (String.append_right_inj _).1 same
    rw [Char.toNat_inj.1 (Nat.repr_inj.1 codes)]
  case text.text value other =>
    have letters := doubleQuotes_injective (String.ofList_inj.1 (Text.between_inj same))
    rw [String.toList_inj.1 letters]

end Value

end UnitLinker
