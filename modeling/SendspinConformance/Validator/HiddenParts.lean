import SendspinConformance.Base.Runs
import SendspinConformance.Python.Written
import SendspinConformance.Validator.RedactedText

set_option autoImplicit false

namespace Conformance.Validator

open Python Base

def redactedWord : List Char := "redacted".toList

-- A word JSON writes only inside a text or a number, and no mark of redaction holds a part of.
structure Spelled (word : List Char) : Prop extends Word word where
  opens : '<' ∉ word
  closes : '>' ∉ word
  apart : ¬ word <:+: redactedWord

def Registered (secrets : List Secret) (word : List Char) : Prop := ∃ secret ∈ secrets, secret.1.toList = word

-- No stretch of the text is escaped to something that holds the word unless it holds the word itself.
def EscapesKeep (word text : List Char) : Prop :=
  ∀ stretch, stretch <:+: text → word <:+: stretch.flatMap jsonEscape → word <:+: stretch

-- What of an observed value is written down.
inductive Part where
  -- as it is
  | kept (text : String)
  | redacted (text : String)
  -- a secret field, by its length where it is a string
  | field (length : Option Nat)
  -- in a line of the log only: a text, and what JSON writes without quotes
  | logged (text : String)
  | bare (text : String)

def fieldLength : Json → Option Nat
  | .str text => some text.length
  | _ => none

mutual
def parts : Json → List Part
  | .obj fields => partsFields fields
  | .arr items => partsItems items
  | .str text => [.redacted text]
  | .null => [.bare "null"]
  | .bool value => [.bare (if value then "true" else "false")]
  | .int value => [.bare (toString value)]
  | .float value => [.bare (dumpsFloat value)]
def partsItems : List Json → List Part
  | [] => []
  | item :: rest => parts item ++ partsItems rest
def partsFields : Fields → List Part
  | [] => []
  | (key, item) :: rest =>
      .kept key :: ((if isSecretField key then [.field (fieldLength item)] else parts item) ++ partsFields rest)
end

-- The keys of a value and its strings, at any depth.
mutual
def texts : Json → List String
  | .obj fields => textsFields fields
  | .arr items => textsItems items
  | .str text => [text]
  | _ => []
def textsItems : List Json → List String
  | [] => []
  | item :: rest => texts item ++ textsItems rest
def textsFields : Fields → List String
  | [] => []
  | (key, item) :: rest => key :: (texts item ++ textsFields rest)
end

-- The strings a value's secret fields carry, at any depth.
mutual
def carried : Json → List String
  | .obj fields => carriedFields fields
  | .arr items => carriedItems items
  | _ => []
def carriedItems : List Json → List String
  | [] => []
  | item :: rest => carried item ++ carriedItems rest
def carriedFields : Fields → List String
  | [] => []
  | (key, item) :: rest =>
      (if isSecretField key then item.asStr.toList else []) ++ (carried item ++ carriedFields rest)
end

def fieldMark : Option Nat → String
  | some length => "<redacted:" ++ toString length ++ ">"
  | none => redacted

def Part.texts (secrets : List Secret) : Part → List String
  | .kept text => [text]
  | .redacted text => [redactText secrets text]
  | .field length => [fieldMark length]
  | .logged _ | .bare _ => []

def Part.lexeme (secrets : List Secret) : Part → List Char
  | .kept text | .logged text => text.toList.flatMap jsonEscape
  | .redacted text => (redactText secrets text).toList.flatMap jsonEscape
  | .field length => (fieldMark length).toList.flatMap jsonEscape
  | .bare text => text.toList

-- The part as it is observed shows nothing of the word that redaction leaves.
def Part.Unseen (secrets : List Secret) (word : List Char) : Part → Prop
  | .kept text => ¬ word <:+: text.toList ∧ ¬ word <:+: text.toList.flatMap jsonEscape
  | .redacted text => (Registered secrets word ∨ ¬ word <:+: text.toList) ∧ EscapesKeep word text.toList
  | .field (some length) => ¬ word <:+: "redacted:".toList ++ (toString length).toList
  | .field none => True
  | .logged text => ¬ word <:+: text.toList.flatMap jsonEscape
  | .bare text => ¬ word <:+: text.toList

section texts

variable (secrets : List Secret)

theorem redact_field_mark (value : Json) : redactField value = .str (fieldMark (fieldLength value)) := by
  cases value <;> rfl

mutual
theorem redact_texts (value : Json) : texts (redact secrets value) = (parts value).flatMap (Part.texts secrets) := by
  cases value with
  | obj fields => exact redact_fields_texts fields
  | arr items => exact redact_items_texts items
  | _ => rfl
theorem redact_items_texts (items : List Json) :
    textsItems (redactItems secrets items) = (partsItems items).flatMap (Part.texts secrets) := by
  cases items with
  | nil => rfl
  | cons item rest =>
      rw [redactItems, textsItems, partsItems, List.flatMap_append, redact_texts item, redact_items_texts rest]
theorem redact_fields_texts (fields : Fields) :
    textsFields (redactFields secrets fields) = (partsFields fields).flatMap (Part.texts secrets) := by
  cases fields with
  | nil => rfl
  | cons field rest =>
      obtain ⟨key, item⟩ := field
      rw [redactFields, textsFields, partsFields, List.flatMap_cons, List.flatMap_append, redact_fields_texts rest]
      by_cases secret : isSecretField key = true
      · rw [if_pos secret, if_pos secret, redact_field_mark]
        rfl
      · rw [if_neg secret, if_neg secret, redact_texts item]
        rfl
end

mutual
theorem redact_lexemes (value : Json) : lexemes (redact secrets value) = (parts value).map (Part.lexeme secrets) := by
  cases value with
  | obj fields => exact redact_fields_lexemes fields
  | arr items => exact redact_items_lexemes items
  | _ => rfl
theorem redact_items_lexemes (items : List Json) :
    lexemesItems (redactItems secrets items) = (partsItems items).map (Part.lexeme secrets) := by
  cases items with
  | nil => rfl
  | cons item rest =>
      rw [redactItems, lexemesItems, partsItems, List.map_append, redact_lexemes item, redact_items_lexemes rest]
theorem redact_fields_lexemes (fields : Fields) :
    lexemesFields (redactFields secrets fields) = (partsFields fields).map (Part.lexeme secrets) := by
  cases fields with
  | nil => rfl
  | cons field rest =>
      obtain ⟨key, item⟩ := field
      rw [redactFields, lexemesFields, partsFields, List.map_cons, List.map_append, redact_fields_lexemes rest]
      by_cases secret : isSecretField key = true
      · rw [if_pos secret, if_pos secret, redact_field_mark]
        rfl
      · rw [if_neg secret, if_neg secret, redact_lexemes item]
        rfl
end

end texts

section words

variable (secrets : List Secret) {word : List Char}

-- Between a mark's own two characters.
theorem marked_unseen (isSpelled : Spelled word) (body : List Char) :
    word <:+: '<' :: (body ++ ['>']) ↔ word <:+: body := by
  have opened := infix_across word [] (body ++ ['>']) '<' isSpelled.opens
  have closed := infix_across word body [] '>' isSpelled.closes
  rw [List.nil_append] at opened
  rw [opened, closed]
  simp [List.infix_nil, isSpelled.nonempty]

theorem redact_text_joined (spelled : ∀ secret ∈ secrets, Spelled secret.1.toList) (text : String) :
    ∃ stretches, (redactText secrets text).toList = redacted.toList.intercalate stretches ∧
      ∀ stretch ∈ stretches, stretch <:+: text.toList ∧ ∀ secret ∈ secrets, ¬ secret.1.toList <:+: stretch := by
  have listed : (redactText secrets text).toList =
      ((longestFirst secrets).map fun secret => secret.1.toList).foldl
        (fun items old => replaceAll old redacted.toList items) text.toList := by
    rw [redactText, List.foldl_map]
    exact (List.foldl_hom String.toList fun line secret => (replace_secret_list line secret).symm).symm
  have ofSecret : ∀ old ∈ (longestFirst secrets).map fun secret => secret.1.toList, Spelled old := by
    intro old member
    obtain ⟨secret, inOrder, rfl⟩ := List.mem_map.mp member
    exact spelled secret ((longest_first_mem secrets secret).mp inOrder)
  obtain ⟨stretches, joined, clean⟩ := replaced_joined '<' '>' redactedWord _
    (fun old member => (ofSecret old member).nonempty)
    (fun old member => ⟨(ofSecret old member).opens, (ofSecret old member).closes, (ofSecret old member).apart⟩) text.toList
  refine ⟨stretches, listed.trans joined, ?_⟩
  intro stretch member
  refine ⟨(clean stretch member).1, ?_⟩
  intro secret inSecrets
  exact (clean stretch member).2 _
    (List.mem_map.mpr ⟨secret, (longest_first_mem secrets secret).mpr inSecrets, rfl⟩)

-- What is left of a text holds no word that was registered or was never in it, and neither
-- does what JSON writes for it.
theorem redacted_unseen (spelled : ∀ secret ∈ secrets, Spelled secret.1.toList) (isSpelled : Spelled word)
    (text : String) (absent : Registered secrets word ∨ ¬ word <:+: text.toList) :
    ¬ word <:+: (redactText secrets text).toList ∧
      (EscapesKeep word text.toList → ¬ word <:+: (redactText secrets text).toList.flatMap jsonEscape) := by
  obtain ⟨stretches, joined, clean⟩ := redact_text_joined secrets spelled text
  have without : ∀ stretch ∈ stretches, ¬ word <:+: stretch := by
    intro stretch member inside
    cases absent with
    | inl registered =>
        obtain ⟨secret, inSecrets, rfl⟩ := registered
        exact (clean stretch member).2 secret inSecrets inside
    | inr never => exact never (inside.trans (clean stretch member).1)
  have inJoined := infix_joined '<' '>' redactedWord word isSpelled.nonempty isSpelled.opens isSpelled.closes
    isSpelled.apart
  refine ⟨?_, ?_⟩
  · rw [joined]
    intro inside
    obtain ⟨stretch, member, held⟩ := (inJoined stretches).mp inside
    exact without stretch member held
  · intro escapes inside
    have mark : redacted.toList.flatMap jsonEscape = markOf '<' '>' redactedWord := by decide +kernel
    rw [joined, intercalate_flat_map, mark, inJoined] at inside
    obtain ⟨escaped, member, held⟩ := inside
    obtain ⟨stretch, inStretches, rfl⟩ := List.mem_map.mp member
    exact without stretch inStretches (escapes stretch (clean stretch inStretches).1 held)

theorem plain_escape (text : List Char) (plain : ∀ char ∈ text, jsonEscape char = [char]) :
    text.flatMap jsonEscape = text := by
  induction text with
  | nil => rfl
  | cons char rest ih =>
      rw [List.flatMap_cons, plain char List.mem_cons_self, ih fun other member =>
        plain other (List.mem_cons_of_mem char member)]
      rfl

theorem plain_escapes_keep (text : List Char) (plain : ∀ char ∈ text, jsonEscape char = [char]) :
    EscapesKeep word text := by
  intro stretch inText inside
  rwa [plain_escape stretch fun char member => plain char (inText.subset member)] at inside

-- What JSON writes as it is: printable ASCII but the quote and the backslash.
def isPlain (char : Char) : Bool := 32 ≤ char.toNat && char.toNat != 34 && char.toNat != 92 && char.toNat < 127

theorem plain_char (char : Char) (isPlainChar : isPlain char = true) : jsonEscape char = [char] := by
  simp only [isPlain, Bool.and_eq_true, decide_eq_true_eq, bne_iff_ne] at isPlainChar
  obtain ⟨⟨⟨low, notQuote⟩, notBackslash⟩, high⟩ := isPlainChar
  have apart : ∀ other : Char, other.toNat < 32 ∨ other.toNat = 34 ∨ other.toNat = 92 → (char == other) = false := by
    intro other outside
    refine beq_false_of_ne ?_
    rintro rfl
    omega
  have inner : (decide (32 ≤ char.toNat) && decide (char.toNat < 127)) = true := by
    simp only [Bool.and_eq_true, decide_eq_true_eq]
    omega
  rw [jsonEscape, apart '"' (by decide), apart '\\' (by decide), apart '\n' (by decide), apart '\r' (by decide),
    apart '\t' (by decide), beq_false_of_ne (by omega : char.toNat ≠ 8), beq_false_of_ne (by omega : char.toNat ≠ 12),
    inner]
  rfl

theorem digit_plain (char : Char) (isDigit : char.isDigit = true) : isPlain char = true := by
  simp only [Char.isDigit, Bool.and_eq_true, decide_eq_true_eq] at isDigit
  have low : 48 ≤ char.toNat := isDigit.1
  have high : char.toNat ≤ 57 := isDigit.2
  simp only [isPlain, Bool.and_eq_true, decide_eq_true_eq, bne_iff_ne]
  omega

theorem field_mark_list (length : Option Nat) :
    ∃ body, (fieldMark length).toList = '<' :: (body ++ ['>']) ∧ (∀ char ∈ body, isPlain char = true) ∧
      (length = none ∧ body = redactedWord ∨
        ∃ count, length = some count ∧ body = "redacted:".toList ++ (toString count).toList) := by
  cases length with
  | none => exact ⟨redactedWord, by decide, List.all_eq_true.mp (by decide), .inl ⟨rfl, rfl⟩⟩
  | some count =>
      have opens : ∀ char ∈ "redacted:".toList, isPlain char = true := List.all_eq_true.mp (by decide)
      refine ⟨"redacted:".toList ++ (toString count).toList, ?_, ?_, .inr ⟨count, rfl, rfl⟩⟩
      · simp [fieldMark]
      · intro char member
        cases List.mem_append.mp member with
        | inl inWord => exact opens char inWord
        | inr inCount =>
            have shown : (toString count).toList = Nat.toDigits 10 count := Nat.toList_repr
            rw [shown] at inCount
            exact digit_plain char (Nat.isDigit_of_mem_toDigits (by decide) (by decide) inCount)

-- A part of plain characters whose own text lacks the word, or has it only where redaction finds it.
def Part.isClear (secrets : List Secret) (word : List Char) : Part → Bool
  | .kept text | .logged text => text.toList.all isPlain && !decide (word <:+: text.toList)
  | .redacted text => text.toList.all isPlain &&
      (secrets.any (fun secret => secret.1.toList == word) || !decide (word <:+: text.toList))
  | .field (some length) => !decide (word <:+: "redacted:".toList ++ (toString length).toList)
  | .field none => true
  | .bare text => !decide (word <:+: text.toList)

theorem plain_text (text : List Char) (plain : text.all isPlain = true) : text.flatMap jsonEscape = text :=
  plain_escape text fun char member => plain_char char (List.all_eq_true.mp plain char member)

theorem clear_unseen (part : Part) (clear : part.isClear secrets word = true) : part.Unseen secrets word := by
  cases part with
  | kept text | logged text =>
      simp only [Part.isClear, Bool.and_eq_true, Bool.not_eq_true', decide_eq_false_iff_not] at clear
      simp only [Part.Unseen, plain_text _ clear.1]
      simpa using clear.2
  | redacted text =>
      simp only [Part.isClear, Bool.and_eq_true, Bool.or_eq_true, Bool.not_eq_true', decide_eq_false_iff_not] at clear
      refine ⟨clear.2.imp_left fun found => ?_, ?_⟩
      · obtain ⟨secret, registered, same⟩ := List.any_eq_true.mp found
        exact ⟨secret, registered, beq_iff_eq.mp same⟩
      · apply plain_escapes_keep
        intro char member
        exact plain_char char (List.all_eq_true.mp clear.1 char member)
  | field length =>
      cases length with
      | none => trivial
      | some count => simpa [Part.isClear, Part.Unseen] using clear
  | bare text => simpa [Part.isClear, Part.Unseen] using clear

-- A part that shows nothing of a word leaves nothing of it in the record or the log.
theorem part_hidden (spelled : ∀ secret ∈ secrets, Spelled secret.1.toList) (isSpelled : Spelled word) (part : Part)
    (unseen : part.Unseen secrets word) :
    (∀ text ∈ part.texts secrets, ¬ word <:+: text.toList) ∧ ¬ word <:+: part.lexeme secrets := by
  cases part with
  | kept text => exact ⟨by simpa [Part.texts] using unseen.1, unseen.2⟩
  | redacted text =>
      obtain ⟨absent, escapes⟩ := unseen
      obtain ⟨recorded, written⟩ := redacted_unseen secrets spelled isSpelled text absent
      exact ⟨by simpa [Part.texts] using recorded, written escapes⟩
  | logged text => exact ⟨by simp [Part.texts], unseen⟩
  | bare text => exact ⟨by simp [Part.texts], unseen⟩
  | field length =>
      obtain ⟨body, marked, plain, shape⟩ := field_mark_list length
      have apart : ¬ word <:+: body := by
        obtain ⟨rfl, rfl⟩ | ⟨count, rfl, rfl⟩ := shape
        · exact isSpelled.apart
        · exact unseen
      have whole : ∀ char ∈ (fieldMark length).toList, isPlain char = true := by
        rw [marked]
        simp only [List.forall_mem_cons, List.forall_mem_append]
        exact ⟨by decide, plain, by decide, by simp⟩
      have recorded : ¬ word <:+: (fieldMark length).toList := by
        rwa [marked, marked_unseen isSpelled]
      refine ⟨by simpa [Part.texts] using recorded, ?_⟩
      rwa [Part.lexeme, plain_escape _ fun char member => plain_char char (whole char member)]

end words

end Conformance.Validator
