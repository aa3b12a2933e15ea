import SendspinConformance.Base.Replace
import SendspinConformance.Python.Text

set_option autoImplicit false

namespace Conformance.Python

open Base

-- What json.dumps writes around its texts and numbers, and what ends a line.
def punctuation : List Char := ['"', '\\', ',', '[', ']', '\x7b', '\x7d', '\n']

-- A stretch of characters a JSON text can hold only inside one of its texts or numbers.
structure Word (word : List Char) : Prop where
  nonempty : word ≠ []
  plain : ∀ char ∈ word, char ∉ punctuation
  starts : word.head? ≠ some ' ' ∧ word.head? ≠ some ':'

-- The texts, as json.dumps escapes them, and the numbers a value is written with.
mutual
def lexemes : Json → List (List Char)
  | .null => ["null".toList]
  | .bool value => [(if value then "true" else "false").toList]
  | .int value => [(toString value).toList]
  | .float value => [(dumpsFloat value).toList]
  | .str text => [text.toList.flatMap jsonEscape]
  | .arr items => lexemesItems items
  | .obj fields => lexemesFields fields
def lexemesItems : List Json → List (List Char)
  | [] => []
  | item :: rest => lexemes item ++ lexemesItems rest
def lexemesFields : Fields → List (List Char)
  | [] => []
  | (key, value) :: rest => key.toList.flatMap jsonEscape :: lexemes value ++ lexemesFields rest
end

variable (word : List Char)

-- The word is inside one of the stretches.
def Within (stretches : List (List Char)) : Prop := ∃ stretch ∈ stretches, word <:+: stretch

theorem within_nil : ¬ Within word [] := by simp [Within]

theorem within_cons (stretch : List Char) (rest : List (List Char)) :
    Within word (stretch :: rest) ↔ word <:+: stretch ∨ Within word rest := by
  simp [Within]

theorem within_append (first second : List (List Char)) :
    Within word (first ++ second) ↔ Within word first ∨ Within word second := by
  simp [Within, or_and_right, exists_or]

theorem within_one (stretch : List Char) : Within word [stretch] ↔ word <:+: stretch := by
  simp [Within]

variable {word}

section

variable (isWord : Word word)

include isWord

theorem word_lacks (char : Char) (mark : char ∈ punctuation) : char ∉ word := fun member =>
  isWord.plain char member mark

theorem word_not_nil : ¬ word <:+: [] := fun inside => isWord.nonempty (List.infix_nil.mp inside)

theorem infix_after (char : Char) (rest : List Char) (skipped : word.head? ≠ some char) :
    word <:+: char :: rest ↔ word <:+: rest := by
  rw [List.infix_cons_iff]
  apply Iff.intro
  · intro inside
    cases inside with
    | inr inRest => exact inRest
    | inl starts =>
        cases shape : word with
        | nil => exact absurd shape isWord.nonempty
        | cons first others =>
            rw [shape] at starts skipped
            exact absurd (by rw [(List.cons_prefix_cons.mp starts).1]; rfl) skipped
  · exact Or.inr

-- A mark and what stands before and after it.
theorem infix_around (char : Char) (left right : List Char) (mark : char ∈ punctuation) :
    word <:+: left ++ char :: right ↔ word <:+: left ∨ word <:+: right :=
  infix_across word left right char (word_lacks isWord char mark)

theorem infix_opened (char : Char) (rest : List Char) (mark : char ∈ punctuation) :
    word <:+: char :: rest ↔ word <:+: rest := by
  have around := infix_around isWord char [] rest mark
  simpa [word_not_nil isWord] using around

theorem infix_closed (char : Char) (body : List Char) (mark : char ∈ punctuation) :
    word <:+: body ++ [char] ↔ word <:+: body := by
  simpa [word_not_nil isWord] using infix_around isWord char body [] mark

theorem json_string_holds (text : String) :
    word <:+: (jsonString text).toList ↔ word <:+: text.toList.flatMap jsonEscape := by
  have spelled : (jsonString text).toList = '"' :: (text.toList.flatMap jsonEscape ++ ['"']) := by
    simp [jsonString]
  rw [spelled, infix_opened isWord '"' _ (by decide), infix_closed isWord '"' _ (by decide)]

theorem joined_holds (parts : List String) :
    word <:+: (joinWith ", " parts).toList ↔ Within word (parts.map String.toList) := by
  induction parts with
  | nil => simpa [joinWith, within_nil] using word_not_nil isWord
  | cons part rest ih =>
      cases rest with
      | nil => simp [joinWith, Within]
      | cons next others =>
          have spelled : (joinWith ", " (part :: next :: others)).toList =
              part.toList ++ ',' :: ' ' :: (joinWith ", " (next :: others)).toList := by
            simp [joinWith]
          rw [spelled, infix_around isWord ',' _ _ (by decide), infix_after isWord ' ' _ isWord.starts.1, ih]
          exact (within_cons word part.toList _).symm

-- What is between brackets.
theorem bracketed_holds (opening closing : Char) (body : List Char) (opens : opening ∈ punctuation)
    (closes : closing ∈ punctuation) : word <:+: opening :: (body ++ [closing]) ↔ word <:+: body := by
  rw [infix_opened isWord opening _ opens, infix_closed isWord closing _ closes]

theorem entry_holds (key text : String) :
    word <:+: (jsonString key ++ ": " ++ text).toList ↔
      word <:+: key.toList.flatMap jsonEscape ∨ word <:+: text.toList := by
  have spelled : (jsonString key ++ ": " ++ text).toList =
      '"' :: (key.toList.flatMap jsonEscape ++ '"' :: ':' :: ' ' :: text.toList) := by
    simp [jsonString]
  rw [spelled, infix_opened isWord '"' _ (by decide), infix_around isWord '"' _ _ (by decide),
    infix_after isWord ':' _ isWord.starts.2, infix_after isWord ' ' _ isWord.starts.1]

end

-- What json.dumps(value, sort_keys=True) holds is inside one of its texts or numbers.
mutual
theorem dumps_sorted_holds (isWord : Word word) (value : Json) :
    word <:+: (dumpsSorted value).toList ↔ Within word (lexemes value) := by
  cases value with
  | null => exact (within_one word _).symm
  | bool value => exact (within_one word _).symm
  | int value => exact (within_one word _).symm
  | float value => exact (within_one word _).symm
  | str text =>
      rw [dumpsSorted, lexemes, json_string_holds isWord, within_one word]
  | arr items =>
      have spelled : (dumpsSorted (.arr items)).toList = '[' :: ((joinWith ", " (dumpsSortedItems items)).toList ++ [']']) := by
        simp [dumpsSorted]
      rw [spelled, bracketed_holds isWord '[' ']' _ (by decide) (by decide), joined_holds isWord, lexemes]
      exact dumps_items_hold isWord items
  | obj fields =>
      have spelled : (dumpsSorted (.obj fields)).toList =
          '\x7b' :: ((joinWith ", " (((dumpsSortedFields fields).insertionSort fun first second =>
            first.1 ≤ second.1).map fun entry => jsonString entry.1 ++ ": " ++ entry.2)).toList ++ ['\x7d']) := by
        simp [dumpsSorted]
      rw [spelled, bracketed_holds isWord '\x7b' '\x7d' _ (by decide) (by decide), joined_holds isWord, lexemes,
        ← dumps_fields_hold isWord fields]
      simp [Within, List.mem_insertionSort]
theorem dumps_items_hold (isWord : Word word) (items : List Json) :
    Within word ((dumpsSortedItems items).map String.toList) ↔ Within word (lexemesItems items) := by
  cases items with
  | nil => rfl
  | cons item rest =>
      rw [dumpsSortedItems, lexemesItems, List.map_cons, within_cons, within_append, dumps_sorted_holds isWord item,
        dumps_items_hold isWord rest]
theorem dumps_fields_hold (isWord : Word word) (fields : Fields) :
    (∃ entry ∈ dumpsSortedFields fields, word <:+: (jsonString entry.1 ++ ": " ++ entry.2).toList) ↔
      Within word (lexemesFields fields) := by
  cases fields with
  | nil => simp [dumpsSortedFields, lexemesFields, Within]
  | cons field rest =>
      obtain ⟨key, value⟩ := field
      rw [dumpsSortedFields, lexemesFields, List.cons_append, within_cons, within_append, ← dumps_sorted_holds isWord value,
        ← dumps_fields_hold isWord rest, ← or_assoc, ← entry_holds isWord]
      simp
end

end Conformance.Python
