import Mathlib.Data.List.Pairwise
import SendspinConformance.Validator.NoncomplianceRefs

set_option autoImplicit false

namespace Conformance.Validator

open Python

-- The text is the pattern with a choice taken and each slot filled; the lookahead is not read.
inductive Fills : List Piece → List (List Char) → List Char → Prop where
  | done : Fills [] [] []
  | text (literal : String) (pieces : List Piece) (slots : List (List Char)) (rest : List Char) :
      Fills pieces slots rest → Fills (.text literal :: pieces) slots (literal.toList ++ rest)
  | anything (slot : List Char) (pieces : List Piece) (slots : List (List Char)) (rest : List Char) :
      slot ≠ [] → Fills pieces slots rest → Fills (.anything :: pieces) (slot :: slots) (slot ++ rest)
  | oneOf (choices : List String) (choice : String) (pieces : List Piece) (slots : List (List Char))
      (rest : List Char) :
      choice ∈ choices → Fills pieces slots rest → Fills (.oneOf choices :: pieces) slots (choice.toList ++ rest)
  | notStateOrCommand (pieces : List Piece) (slots : List (List Char)) (rest : List Char) :
      Fills pieces slots rest → Fills (.notStateOrCommand :: pieces) slots rest

-- The type mismatches, whose patterns open with the name of a message.
def OpensFree (pattern : List Piece) : Prop := pattern.head? = some .anything

def EndsFree (pattern : List Piece) : Prop := pattern.getLast? = some .anything

instance (pattern : List Piece) : Decidable (OpensFree pattern) := inferInstanceAs (Decidable (_ = _))

instance (pattern : List Piece) : Decidable (EndsFree pattern) := inferInstanceAs (Decidable (_ = _))

-- A text read by a pattern fills it, and no line break stands in a slot.
theorem fullmatch_fills [UnicodeData] (pattern : List Piece) (text : List Char)
    (reads : fullmatch pattern text = true) : ∃ slots, Fills pattern slots text ∧ ∀ slot ∈ slots, '\n' ∉ slot := by
  induction pattern generalizing text with
  | nil =>
      have ended : text = [] := by simpa only [fullmatch, List.isEmpty_iff] using reads
      exact ⟨[], ended ▸ .done, by simp⟩
  | cons piece pieces ih =>
      cases piece with
      | text literal =>
          rw [fullmatch, Bool.and_eq_true, List.isPrefixOf_iff_prefix] at reads
          obtain ⟨⟨rest, rfl⟩, after⟩ := reads
          rw [List.drop_left] at after
          obtain ⟨slots, fills, unbroken⟩ := ih rest after
          exact ⟨slots, .text literal pieces slots rest fills, unbroken⟩
      | anything =>
          rw [fullmatch, List.any_eq_true] at reads
          obtain ⟨taken, within, reads⟩ := reads
          rw [Bool.and_eq_true, List.all_eq_true] at reads
          obtain ⟨slots, fills, unbroken⟩ := ih (text.drop (taken + 1)) reads.2
          have nonempty : text.take (taken + 1) ≠ [] := by
            have longer := List.mem_range.mp within
            rw [ne_eq, ← List.length_eq_zero_iff, List.length_take]
            omega
          refine ⟨text.take (taken + 1) :: slots, ?_, ?_⟩
          · have filled := Fills.anything (text.take (taken + 1)) pieces slots (text.drop (taken + 1)) nonempty fills
            rwa [List.take_append_drop] at filled
          · intro slot member
            cases List.mem_cons.mp member with
            | inl isHead =>
                intro broken
                have free := reads.1 '\n' (isHead ▸ broken)
                simp at free
            | inr isRest => exact unbroken slot isRest
      | oneOf choices =>
          rw [fullmatch, List.any_eq_true] at reads
          obtain ⟨choice, chosen, reads⟩ := reads
          rw [Bool.and_eq_true, List.isPrefixOf_iff_prefix] at reads
          obtain ⟨⟨rest, rfl⟩, after⟩ := reads
          rw [List.drop_left] at after
          obtain ⟨slots, fills, unbroken⟩ := ih rest after
          exact ⟨slots, .oneOf choices choice pieces slots rest chosen fills, unbroken⟩
      | notStateOrCommand =>
          rw [fullmatch, Bool.and_eq_true] at reads
          obtain ⟨slots, fills, unbroken⟩ := ih text reads.2
          exact ⟨slots, .notStateOrCommand pieces slots text fills, unbroken⟩

theorem anything_reads [UnicodeData] (pieces : List Piece) (slot rest : List Char) (nonempty : slot ≠ [])
    (unbroken : '\n' ∉ slot) (reads : fullmatch pieces rest = true) :
    fullmatch (.anything :: pieces) (slot ++ rest) = true := by
  have positive : 0 < slot.length := List.length_pos_iff.mpr nonempty
  rw [fullmatch, List.any_eq_true]
  refine ⟨slot.length - 1, ?_, ?_⟩
  · rw [List.mem_range, List.length_append]
    omega
  · rw [Nat.sub_add_cancel positive, List.take_left, List.drop_left, reads, Bool.and_true, List.all_eq_true]
    intro char member
    exact bne_iff_ne.mpr fun same => unbroken (same ▸ member)

theorem fills_fullmatch [UnicodeData] (pattern : List Piece) (slots : List (List Char)) (text : List Char)
    (fills : Fills pattern slots text) (unbroken : ∀ slot ∈ slots, '\n' ∉ slot)
    (plain : .notStateOrCommand ∉ pattern) : fullmatch pattern text = true := by
  induction fills with
  | done => rfl
  | text literal pieces slots rest _ ih =>
      rw [fullmatch, List.drop_left, ih unbroken fun member => plain (List.mem_cons_of_mem _ member)]
      simp
  | anything slot pieces slots rest nonempty _ ih =>
      apply anything_reads pieces slot rest nonempty (unbroken slot List.mem_cons_self)
      exact ih (fun slot member => unbroken slot (List.mem_cons_of_mem _ member))
        fun member => plain (List.mem_cons_of_mem _ member)
  | oneOf choices choice pieces slots rest chosen _ ih =>
      rw [fullmatch, List.any_eq_true]
      refine ⟨choice, chosen, ?_⟩
      rw [List.drop_left, ih unbroken fun member => plain (List.mem_cons_of_mem _ member)]
      simp
  | notStateOrCommand pieces slots rest _ _ => exact absurd List.mem_cons_self plain

-- A pattern with its fixed text taken apart into characters.
inductive Spelling where
  | chars (chars : List Char)
  | anything
  | oneOf (choices : List (List Char))
  | notStateOrCommand
deriving DecidableEq

inductive Spells : Piece → Spelling → Prop where
  | text (chars : List Char) : Spells (.text (String.ofList chars)) (.chars chars)
  | anything : Spells .anything .anything
  | oneOf (choices : List String) (spelled : List (List Char)) :
      List.Forall₂ (fun choice chars => choice = String.ofList chars) choices spelled →
        Spells (.oneOf choices) (.oneOf spelled)
  | notStateOrCommand : Spells .notStateOrCommand .notStateOrCommand

abbrev SpellsAll : List Piece → List Spelling → Prop := List.Forall₂ Spells

theorem choice_spelled (choices : List String) (spelled : List (List Char)) (choice : String)
    (alike : List.Forall₂ (fun choice chars => choice = String.ofList chars) choices spelled)
    (chosen : choice ∈ choices) : choice.toList ∈ spelled := by
  induction alike with
  | nil => exact absurd chosen List.not_mem_nil
  | cons same _ ih =>
      cases List.mem_cons.mp chosen with
      | inl isHead =>
          rw [isHead, same, String.toList_ofList]
          exact List.mem_cons_self
      | inr isRest => exact List.mem_cons_of_mem _ (ih isRest)

-- The fixed text a pattern starts or ends with, one for each choice.
def starts : List Spelling → List (List Char)
  | [] => [[]]
  | .chars chars :: rest => (starts rest).map (chars ++ ·)
  | .anything :: _ => [[]]
  | .oneOf choices :: rest => choices.flatMap fun choice => (starts rest).map (choice ++ ·)
  | .notStateOrCommand :: rest => starts rest

def ends : List Spelling → List (List Char)
  | [] => [[]]
  | .chars chars :: rest => if .anything ∈ rest then ends rest else (ends rest).map (chars ++ ·)
  | .anything :: rest => ends rest
  | .oneOf choices :: rest =>
      if .anything ∈ rest then ends rest else choices.flatMap fun choice => (ends rest).map (choice ++ ·)
  | .notStateOrCommand :: rest => ends rest

theorem fills_starts (pattern : List Piece) (spelled : List Spelling) (slots : List (List Char))
    (text : List Char) (fills : Fills pattern slots text) (spells : SpellsAll pattern spelled) :
    ∃ start ∈ starts spelled, start <+: text := by
  induction fills generalizing spelled with
  | done =>
      cases spells with
      | nil => exact ⟨[], List.mem_singleton.mpr rfl, List.nil_prefix⟩
  | text literal pieces slots rest _ ih =>
      cases spells with
      | cons head tail =>
          cases head with
          | text chars =>
              obtain ⟨start, member, leads⟩ := ih _ tail
              rw [String.toList_ofList]
              exact ⟨chars ++ start, List.mem_map.mpr ⟨start, member, rfl⟩,
                (List.prefix_append_right_inj _).mpr leads⟩
  | anything slot pieces slots rest _ _ _ =>
      cases spells with
      | cons head tail =>
          cases head with
          | anything => exact ⟨[], List.mem_singleton.mpr rfl, List.nil_prefix⟩
  | oneOf choices choice pieces slots rest chosen _ ih =>
      cases spells with
      | cons head tail =>
          cases head with
          | oneOf choices spelled alike =>
              obtain ⟨start, member, leads⟩ := ih _ tail
              exact ⟨choice.toList ++ start, List.mem_flatMap.mpr ⟨choice.toList,
                choice_spelled choices spelled choice alike chosen, List.mem_map.mpr ⟨start, member, rfl⟩⟩,
                (List.prefix_append_right_inj _).mpr leads⟩
  | notStateOrCommand pieces slots rest _ ih =>
      cases spells with
      | @cons _ _ _ spelled head tail =>
          cases head with
          | notStateOrCommand => exact ih spelled tail

-- What follows the last slot is the whole text where there is no slot.
theorem fills_ends (pattern : List Piece) (spelled : List Spelling) (slots : List (List Char))
    (text : List Char) (fills : Fills pattern slots text) (spells : SpellsAll pattern spelled) :
    ∃ ending ∈ ends spelled, ending <:+ text ∧ (.anything ∉ spelled → ending = text) := by
  induction fills generalizing spelled with
  | done =>
      cases spells with
      | nil => exact ⟨[], List.mem_singleton.mpr rfl, List.nil_suffix, fun _ => rfl⟩
  | text literal pieces slots rest _ ih =>
      cases spells with
      | @cons _ _ _ spelled head tail =>
          cases head with
          | text chars =>
              obtain ⟨ending, member, closes, whole⟩ := ih _ tail
              rw [String.toList_ofList]
              by_cases slotted : .anything ∈ spelled
              · refine ⟨ending, by simpa only [ends, if_pos slotted] using member, ?_, ?_⟩
                · exact closes.trans (List.suffix_append _ _)
                · exact fun free => absurd (List.mem_cons_of_mem _ slotted) free
              · rw [ends, if_neg slotted]
                rw [whole slotted] at member
                exact ⟨chars ++ rest, List.mem_map.mpr ⟨rest, member, rfl⟩, List.suffix_rfl, fun _ => rfl⟩
  | anything slot pieces slots rest _ _ ih =>
      cases spells with
      | cons head tail =>
          cases head with
          | anything =>
              obtain ⟨ending, member, closes, _⟩ := ih _ tail
              exact ⟨ending, member, closes.trans (List.suffix_append _ _),
                fun free => absurd List.mem_cons_self free⟩
  | oneOf choices choice pieces slots rest chosen _ ih =>
      cases spells with
      | @cons _ _ _ spelled head tail =>
          cases head with
          | oneOf choices spelledChoices alike =>
              obtain ⟨ending, member, closes, whole⟩ := ih _ tail
              by_cases slotted : .anything ∈ spelled
              · refine ⟨ending, by simpa only [ends, if_pos slotted] using member, ?_, ?_⟩
                · exact closes.trans (List.suffix_append _ _)
                · exact fun free => absurd (List.mem_cons_of_mem _ slotted) free
              · rw [ends, if_neg slotted]
                rw [whole slotted] at member
                exact ⟨choice.toList ++ rest, List.mem_flatMap.mpr ⟨choice.toList,
                  choice_spelled choices spelledChoices choice alike chosen, List.mem_map.mpr ⟨rest, member, rfl⟩⟩,
                  List.suffix_rfl, fun _ => rfl⟩
  | notStateOrCommand pieces slots rest _ ih =>
      cases spells with
      | cons head tail =>
          cases head with
          | notStateOrCommand =>
              obtain ⟨ending, member, closes, whole⟩ := ih _ tail
              exact ⟨ending, member, closes, fun free => whole fun inside => free (List.mem_cons_of_mem _ inside)⟩

-- Some place both lists reach holds different characters.
def differ : List Char → List Char → Bool
  | left :: lefts, right :: rights => !Nat.beq left.toNat right.toNat || differ lefts rights
  | _, _ => false

theorem differ_apart (left right text : List Char) (apart : differ left right = true) (leads : left <+: text) :
    ¬ right <+: text := by
  intro alsoLeads
  induction left generalizing right text with
  | nil => simp [differ] at apart
  | cons char left ih =>
      cases right with
      | nil => simp [differ] at apart
      | cons other right =>
          obtain ⟨rest, rfl⟩ := leads
          rw [List.cons_append, List.cons_prefix_cons] at alsoLeads
          obtain ⟨rfl, alsoLeads⟩ := alsoLeads
          rw [differ, Nat.beq_refl, Bool.not_true, Bool.false_or] at apart
          exact ih right (left ++ rest) apart (List.prefix_append _ _) alsoLeads

def startsApart (left right : List Spelling) : Bool :=
  (starts left).all fun start => (starts right).all fun other => differ start other

def endsApart (left right : List Spelling) : Bool :=
  (ends left).all fun ending => (ends right).all fun other => differ ending.reverse other.reverse

section

variable (left right : List Piece) (leftSpelled rightSpelled : List Spelling) (leftSlots rightSlots : List (List Char))
  (text : List Char) (leftSpells : SpellsAll left leftSpelled) (rightSpells : SpellsAll right rightSpelled)
  (fillsLeft : Fills left leftSlots text)

include leftSpells rightSpells fillsLeft

theorem starts_apart_fills (apart : startsApart leftSpelled rightSpelled = true) : ¬ Fills right rightSlots text := by
  intro fillsRight
  obtain ⟨start, startIn, startLeads⟩ := fills_starts left leftSpelled leftSlots text fillsLeft leftSpells
  obtain ⟨other, otherIn, otherLeads⟩ := fills_starts right rightSpelled rightSlots text fillsRight rightSpells
  have apartHere := List.all_eq_true.mp (List.all_eq_true.mp apart start startIn) other otherIn
  exact differ_apart start other text apartHere startLeads otherLeads

theorem ends_apart_fills (apart : endsApart leftSpelled rightSpelled = true) : ¬ Fills right rightSlots text := by
  intro fillsRight
  obtain ⟨ending, endingIn, endingCloses, _⟩ := fills_ends left leftSpelled leftSlots text fillsLeft leftSpells
  obtain ⟨other, otherIn, otherCloses, _⟩ := fills_ends right rightSpelled rightSlots text fillsRight rightSpells
  have apartHere := List.all_eq_true.mp (List.all_eq_true.mp apart ending endingIn) other otherIn
  exact differ_apart ending.reverse other.reverse text.reverse apartHere (List.reverse_prefix.mpr endingCloses)
    (List.reverse_prefix.mpr otherCloses)

end

def lineless : Spelling → Bool
  | .chars chars => !chars.contains '\n'
  | .oneOf choices => choices.all fun choice => !choice.contains '\n'
  | _ => true

-- Line breaks only come with the slots.
theorem fills_lines (pattern : List Piece) (spelled : List Spelling) (slots : List (List Char)) (text : List Char)
    (fills : Fills pattern slots text) (spells : SpellsAll pattern spelled) (fixed : spelled.all lineless = true) :
    '\n' ∉ text ↔ ∀ slot ∈ slots, '\n' ∉ slot := by
  induction fills generalizing spelled with
  | done => simp
  | text literal pieces slots rest _ ih =>
      cases spells with
      | cons head tail =>
          cases head with
          | text chars =>
              rw [List.all_cons, Bool.and_eq_true] at fixed
              have unbroken : '\n' ∉ chars := by simpa [lineless] using fixed.1
              simp only [String.toList_ofList, List.mem_append, unbroken, false_or]
              exact ih _ tail fixed.2
  | anything slot pieces slots rest _ _ ih =>
      cases spells with
      | cons head tail =>
          rw [List.all_cons, Bool.and_eq_true] at fixed
          rw [List.mem_append, not_or, List.forall_mem_cons]
          exact and_congr_right fun _ => ih _ tail fixed.2
  | oneOf choices choice pieces slots rest chosen _ ih =>
      cases spells with
      | cons head tail =>
          cases head with
          | oneOf choices spelledChoices alike =>
              rw [List.all_cons, Bool.and_eq_true] at fixed
              have free := List.all_eq_true.mp fixed.1 _ (choice_spelled choices spelledChoices choice alike chosen)
              have unbroken : '\n' ∉ choice.toList := by simpa using free
              simp only [List.mem_append, unbroken, false_or]
              exact ih _ tail fixed.2
  | notStateOrCommand pieces slots rest _ ih =>
      cases spells with
      | cons head tail =>
          rw [List.all_cons, Bool.and_eq_true] at fixed
          exact ih _ tail fixed.2

def malformedPattern : List Piece := [.text "sent a malformed ", .notStateOrCommand, .anything]

-- The two reasons a malformed client/state or client/command has of its own.
def Reserved (left right : Reference) : Prop :=
  left.pattern = malformedPattern ∧ left.ref ≠ right.ref ∧
    right.pattern ∈ [[Piece.text "sent a malformed client/command controller object"],
      [Piece.text "sent a malformed client/state"]]

instance (left right : Reference) : Decidable (Reserved left right) :=
  inferInstanceAs (Decidable (_ ∧ _ ∧ _))

-- The ten type mismatches stand first; their patterns end in text.
theorem refs_ordered :
    (∀ mismatch ∈ refs.take 10, OpensFree mismatch.pattern ∧ ¬ EndsFree mismatch.pattern) ∧
    (∀ reference ∈ refs.drop 10, ¬ OpensFree reference.pattern) ∧
    (∀ reference ∈ refs, .notStateOrCommand ∈ reference.pattern → reference.pattern = malformedPattern) := by
  decide +kernel

-- One reading of the whole table: rows that cite different lines differ in their fixed text.
theorem refs_spelled : ∃ rows : List (List Spelling),
    List.Forall₂ (fun reference row => SpellsAll reference.pattern row) refs rows ∧
    (∀ row ∈ rows, row.all lineless = true) ∧
    (∀ mismatch ∈ (refs.zip rows).take 10, ∀ entry ∈ refs.zip rows,
      endsApart mismatch.2 entry.2 = true ∨ EndsFree entry.1.pattern ∨ mismatch.1.ref = entry.1.ref) ∧
    ((refs.zip rows).drop 10).Pairwise fun left right =>
      startsApart left.2 right.2 = true ∨ Reserved left.1 right.1 ∨
        (left.1.ref = right.1.ref ∧ .notStateOrCommand ∉ left.1.pattern ∧ .notStateOrCommand ∉ right.1.pattern) := by
  apply Exists.intro
  apply And.intro
  -- The spelling is read off the literals: each step here fixes one row or one piece of it.
  · dsimp only [refs]
    repeat' first
      | exact rfl
      | apply List.Forall₂.cons
      | apply List.Forall₂.nil
      | apply Spells.text
      | apply Spells.anything
      | apply Spells.oneOf
      | apply Spells.notStateOrCommand
  · decide +kernel

theorem row_spelled (rows : List (List Spelling)) (reference : Reference) (listed : reference ∈ refs)
    (spelled : List.Forall₂ (fun reference row => SpellsAll reference.pattern row) refs rows) :
    ∃ row, (reference, row) ∈ refs.zip rows ∧ SpellsAll reference.pattern row := by
  obtain ⟨sameLength, spells⟩ := List.forall₂_iff_zip.mp spelled
  rw [← List.map_fst_zip (le_of_eq sameLength), List.mem_map] at listed
  obtain ⟨⟨_, row⟩, inTable, rfl⟩ := listed
  exact ⟨row, inTable, spells inTable⟩

section

variable [UnicodeData]

theorem malformed_reads (slots : List (List Char)) (text : List Char) (fills : Fills malformedPattern slots text)
    (unbroken : ∀ slot ∈ slots, '\n' ∉ slot) :
    fullmatch malformedPattern text = true ↔ ∀ slot ∈ slots, stateOrCommandAhead slot = false := by
  cases fills with
  | text literal pieces slots rest fills =>
      cases fills with
      | notStateOrCommand pieces slots rest fills =>
          cases fills with
          | anything slot pieces slots rest nonempty fills =>
              cases fills with
              | done =>
                  have reads := anything_reads [] slot [] nonempty (unbroken slot List.mem_cons_self) rfl
                  simp only [malformedPattern, fullmatch, List.drop_left, List.isPrefixOf_iff_prefix.mpr
                    (List.prefix_append _ _), Bool.true_and, List.append_nil] at reads ⊢
                  simp [reads]

theorem literal_read (literal : String) (text : List Char) (reads : fullmatch [.text literal] text = true) :
    text = literal.toList := by
  obtain ⟨slots, fills, _⟩ := fullmatch_fills [.text literal] text reads
  cases fills with
  | text literal pieces slots rest fills =>
      cases fills with
      | done => rw [List.append_nil]

theorem reserved_unread (left right : Reference) (reserved : Reserved left right) (text : List Char)
    (reads : fullmatch right.pattern text = true) : fullmatch left.pattern text = false := by
  obtain ⟨isMalformed, _, named⟩ := reserved
  rw [List.mem_cons, List.mem_singleton] at named
  rw [isMalformed]
  cases named with
  | inl isCommand =>
      rw [literal_read _ text (isCommand ▸ reads)]
      rfl
  | inr isState =>
      rw [literal_read _ text (isState ▸ reads)]
      rfl

-- How two rows after the type mismatches are told apart.
def Told (left right : Reference) : Prop :=
  (∀ text leftSlots rightSlots, Fills left.pattern leftSlots text → ¬ Fills right.pattern rightSlots text) ∨
    Reserved left right ∨ Reserved right left ∨
    (left.ref = right.ref ∧ .notStateOrCommand ∉ left.pattern ∧ .notStateOrCommand ∉ right.pattern)

instance : Std.Symm Told where
  symm := by
    rintro left right (apart | reserved | reserved | ⟨same, leftPlain, rightPlain⟩)
    · exact Or.inl fun text rightSlots leftSlots fillsRight fillsLeft =>
        apart text leftSlots rightSlots fillsLeft fillsRight
    · exact Or.inr (Or.inr (Or.inl reserved))
    · exact Or.inr (Or.inl reserved)
    · exact Or.inr (Or.inr (Or.inr ⟨same.symm, rightPlain, leftPlain⟩))

omit [UnicodeData] in
theorem others_told (left right : Reference) (leftIn : left ∈ refs.drop 10) (rightIn : right ∈ refs.drop 10)
    (different : left ≠ right) : Told left right := by
  obtain ⟨rows, spelled, _, _, pairs⟩ := refs_spelled
  have spells {row : Reference × List Spelling} (rowIn : row ∈ refs.zip rows) : SpellsAll row.1.pattern row.2 :=
    (List.forall₂_iff_zip.mp spelled).2 rowIn
  have told : ((refs.zip rows).drop 10).Pairwise fun left right => Told left.1 right.1 := by
    apply pairs.imp_of_mem
    intro left right leftIn rightIn shown
    rcases shown with apart | reserved | same
    · exact Or.inl fun text leftSlots rightSlots fillsLeft => starts_apart_fills _ _ _ _ leftSlots rightSlots text
        (spells (List.mem_of_mem_drop leftIn)) (spells (List.mem_of_mem_drop rightIn)) fillsLeft apart
    · exact Or.inr (Or.inl reserved)
    · exact Or.inr (Or.inr (Or.inr same))
  have listed : ((refs.zip rows).drop 10).map Prod.fst = refs.drop 10 := by
    rw [List.map_drop, List.map_fst_zip (le_of_eq spelled.length_eq)]
  have onRefs : (refs.drop 10).Pairwise Told := by
    rw [← listed]
    exact List.pairwise_map.mpr told
  exact onRefs.forall leftIn rightIn different

omit [UnicodeData] in
theorem refs_lines (reference : Reference) (slots : List (List Char)) (text : List Char) (listed : reference ∈ refs)
    (fills : Fills reference.pattern slots text) : '\n' ∉ text ↔ ∀ slot ∈ slots, '\n' ∉ slot := by
  obtain ⟨rows, spelled, lines, _⟩ := refs_spelled
  obtain ⟨row, rowIn, spells⟩ := row_spelled rows reference listed spelled
  exact fills_lines reference.pattern row slots text fills spells (lines row (List.of_mem_zip rowIn).2)

-- A type mismatch that reads the text of a pattern not open at its end cites the same lines.
theorem mismatch_cites (mismatch reference : Reference) (slots : List (List Char)) (text : List Char)
    (mismatchIn : mismatch ∈ refs.take 10) (listed : reference ∈ refs) (closed : ¬ EndsFree reference.pattern)
    (reads : fullmatch mismatch.pattern text = true) (fills : Fills reference.pattern slots text) :
    mismatch.ref = reference.ref := by
  obtain ⟨rows, spelled, _, ending, _⟩ := refs_spelled
  obtain ⟨row, rowIn, spells⟩ := row_spelled rows reference listed spelled
  obtain ⟨mismatchSlots, mismatchFills, _⟩ := fullmatch_fills mismatch.pattern text reads
  have early : ((refs.zip rows).take 10).map Prod.fst = refs.take 10 := by
    rw [List.map_take, List.map_fst_zip (le_of_eq spelled.length_eq)]
  rw [← early, List.mem_map] at mismatchIn
  obtain ⟨⟨_, mismatchRow⟩, inTable, rfl⟩ := mismatchIn
  have mismatchSpells := (List.forall₂_iff_zip.mp spelled).2 (List.mem_of_mem_take inTable)
  rcases ending _ inTable _ rowIn with apart | isOpen | same
  · exact absurd fills (ends_apart_fills _ _ _ _ mismatchSlots slots text mismatchSpells spells mismatchFills apart)
  · exact absurd isOpen closed
  · exact same

def Mismatch (reference : Reference) : Prop := reference ∈ refs ∧ OpensFree reference.pattern

omit [UnicodeData] in
theorem mismatch_early (reference : Reference) : Mismatch reference ↔ reference ∈ refs.take 10 := by
  apply Iff.intro
  · intro ⟨listed, opens⟩
    rw [← List.take_append_drop 10 refs, List.mem_append] at listed
    exact listed.resolve_right fun late => refs_ordered.2.1 reference late opens
  · intro early
    exact ⟨List.mem_of_mem_take early, (refs_ordered.1 reference early).1⟩

omit [UnicodeData] in
theorem other_late (reference : Reference) (listed : reference ∈ refs) (other : ¬ Mismatch reference) :
    reference ∈ refs.drop 10 := by
  rw [← List.take_append_drop 10 refs, List.mem_append] at listed
  exact listed.resolve_left fun early => other ((mismatch_early reference).mpr early)

-- The first row that reads a text is a type mismatch where any type mismatch reads it.
theorem first_reads (text : List Char) (first : Reference)
    (found : refs.find? (fun reference => fullmatch reference.pattern text) = some first) :
    first ∈ refs ∧ fullmatch first.pattern text = true ∧
      ∀ mismatch, Mismatch mismatch → fullmatch mismatch.pattern text = true → Mismatch first := by
  refine ⟨List.mem_of_find?_eq_some found, by simpa using List.find?_some found, ?_⟩
  intro mismatch isMismatch reads
  rw [← List.take_append_drop 10 refs, List.find?_append] at found
  cases early : (refs.take 10).find? (fun reference => fullmatch reference.pattern text) with
  | none =>
      have unread := List.find?_eq_none.mp early mismatch ((mismatch_early mismatch).mp isMismatch)
      exact absurd reads unread
  | some earliest =>
      rw [early, Option.some_or, Option.some_inj] at found
      exact (mismatch_early first).mpr (found ▸ List.mem_of_find?_eq_some early)

theorem spec_ref_first (reason : String) (ref : Option String) :
    specRefFor reason = .ok ref ↔
      ∃ first, refs.find? (fun reference => fullmatch reference.pattern reason.toList) = some first ∧
        first.ref = ref := by
  rw [specRefFor]
  cases refs.find? (fun reference => fullmatch reference.pattern reason.toList) with
  | none => simp
  | some first => simp

-- What the words in the slots must leave alone for the reason to be cited by its own pattern.
def Cited (reference : Reference) (slots : List (List Char)) (text : List Char) : Prop :=
  (∀ slot ∈ slots, '\n' ∉ slot) ∧
    (EndsFree reference.pattern →
      (∀ mismatch, Mismatch mismatch → fullmatch mismatch.pattern text = true → mismatch.ref = reference.ref) ∧
      ((.notStateOrCommand ∈ reference.pattern → ∀ slot ∈ slots, stateOrCommandAhead slot = false) ∨
        ∃ mismatch, Mismatch mismatch ∧ fullmatch mismatch.pattern text = true))

-- Neither row after the type mismatches takes a text from the other.
theorem others_agree (left right : Reference) (leftIn : left ∈ refs.drop 10) (rightIn : right ∈ refs.drop 10)
    (text : List Char) (leftReads : fullmatch left.pattern text = true)
    (rightReads : fullmatch right.pattern text = true) : left.ref = right.ref := by
  by_cases same : left = right
  · rw [same]
  · obtain ⟨leftSlots, leftFills, _⟩ := fullmatch_fills left.pattern text leftReads
    obtain ⟨rightSlots, rightFills, _⟩ := fullmatch_fills right.pattern text rightReads
    rcases others_told left right leftIn rightIn same with apart | reserved | reserved | agree
    · exact absurd rightFills (apart text leftSlots rightSlots leftFills)
    · rw [reserved_unread left right reserved text rightReads] at leftReads
      exact absurd leftReads (by decide)
    · rw [reserved_unread right left reserved text leftReads] at rightReads
      exact absurd rightReads (by decide)
    · exact agree.1

-- A text that fills the malformed pattern is cited alike by no other row after the mismatches.
theorem malformed_alone (reference first : Reference) (slots : List (List Char)) (text : List Char)
    (listed : reference ∈ refs.drop 10) (firstIn : first ∈ refs.drop 10) (fills : Fills reference.pattern slots text)
    (looks : .notStateOrCommand ∈ reference.pattern) (reads : fullmatch first.pattern text = true)
    (same : first.ref = reference.ref) : first = reference := by
  by_contra different
  obtain ⟨firstSlots, firstFills, _⟩ := fullmatch_fills first.pattern text reads
  rcases others_told first reference firstIn listed different with apart | reserved | reserved | plain
  · exact apart text firstSlots slots firstFills fills
  · exact reserved.2.1 same
  · exact reserved.2.1 same.symm
  · exact plain.2.2 looks

theorem cited_returned (reference : Reference) (slots : List (List Char)) (text : List Char)
    (listed : reference ∈ refs) (fills : Fills reference.pattern slots text) (cited : Cited reference slots text) :
    ∃ first, refs.find? (fun row => fullmatch row.pattern text) = some first ∧ first.ref = reference.ref := by
  have found (row : Reference) (rowIn : row ∈ refs) (reads : fullmatch row.pattern text = true) :
      ∃ first, refs.find? (fun row => fullmatch row.pattern text) = some first := by
    apply Option.isSome_iff_exists.mp
    exact List.find?_isSome.mpr ⟨row, rowIn, reads⟩
  by_cases quoted : ∃ mismatch, Mismatch mismatch ∧ fullmatch mismatch.pattern text = true
  · obtain ⟨mismatch, isMismatch, reads⟩ := quoted
    obtain ⟨first, isFirst⟩ := found mismatch isMismatch.1 reads
    have firstFacts := first_reads text first isFirst
    have firstMismatch := firstFacts.2.2 mismatch isMismatch reads
    refine ⟨first, isFirst, ?_⟩
    by_cases isOpen : EndsFree reference.pattern
    · exact (cited.2 isOpen).1 first firstMismatch firstFacts.2.1
    · exact mismatch_cites first reference slots text ((mismatch_early first).mp firstMismatch) listed isOpen
        firstFacts.2.1 fills
  · have reads : fullmatch reference.pattern text = true := by
      by_cases looks : .notStateOrCommand ∈ reference.pattern
      · have isMalformed := refs_ordered.2.2 reference listed looks
        have isOpen : EndsFree reference.pattern := by rw [isMalformed]; rfl
        have passed := ((cited.2 isOpen).2.resolve_right quoted) looks
        rw [isMalformed] at fills ⊢
        exact (malformed_reads slots text fills cited.1).mpr passed
      · exact fills_fullmatch reference.pattern slots text fills cited.1 looks
    have other (row : Reference) (rowIn : row ∈ refs) (rowReads : fullmatch row.pattern text = true) :
        row ∈ refs.drop 10 :=
      other_late row rowIn fun isMismatch => quoted ⟨row, isMismatch, rowReads⟩
    obtain ⟨first, isFirst⟩ := found reference listed reads
    have firstFacts := first_reads text first isFirst
    exact ⟨first, isFirst, others_agree first reference (other first firstFacts.1 firstFacts.2.1)
      (other reference listed reads) text firstFacts.2.1 reads⟩

theorem returned_cited (reference first : Reference) (slots : List (List Char)) (text : List Char)
    (listed : reference ∈ refs) (fills : Fills reference.pattern slots text)
    (isFirst : refs.find? (fun row => fullmatch row.pattern text) = some first)
    (same : first.ref = reference.ref) : Cited reference slots text := by
  obtain ⟨firstIn, reads, early⟩ := first_reads text first isFirst
  obtain ⟨firstSlots, firstFills, firstUnbroken⟩ := fullmatch_fills first.pattern text reads
  have unbroken := (refs_lines first firstSlots text firstIn firstFills).mpr firstUnbroken
  have slotsUnbroken := (refs_lines reference slots text listed fills).mp unbroken
  refine ⟨slotsUnbroken, ?_⟩
  intro isOpen
  apply And.intro
  · intro mismatch isMismatch mismatchReads
    have firstEarly := (mismatch_early first).mp (early mismatch isMismatch mismatchReads)
    have alike := mismatch_cites mismatch first firstSlots text ((mismatch_early mismatch).mp isMismatch) firstIn
      (refs_ordered.1 first firstEarly).2 mismatchReads firstFills
    rw [alike, same]
  · by_cases quoted : ∃ mismatch, Mismatch mismatch ∧ fullmatch mismatch.pattern text = true
    · exact Or.inr quoted
    · apply Or.inl
      intro looks
      have isMalformed := refs_ordered.2.2 reference listed looks
      have late : reference ∈ refs.drop 10 := by
        apply other_late reference listed
        intro isMismatch
        have opens := isMismatch.2
        rw [isMalformed] at opens
        exact absurd opens (by decide)
      have firstLate := other_late first firstIn fun isMismatch => quoted ⟨first, isMismatch, reads⟩
      have itself := malformed_alone reference first slots text late firstLate fills looks reads same
      rw [itself, isMalformed] at reads
      rw [isMalformed] at fills
      exact (malformed_reads slots text fills slotsUnbroken).mp reads

-- spec_ref_for returns the reference of the pattern a reason was made from exactly when no slot
-- breaks the line and, where the reason ends in a slot, its words neither quote a type mismatch
-- cited elsewhere nor are the ones the malformed pattern looks ahead for.
theorem spec_ref_cited (reference : Reference) (slots : List (List Char)) (reason : String)
    (listed : reference ∈ refs) (fills : Fills reference.pattern slots reason.toList) :
    specRefFor reason = .ok reference.ref ↔ Cited reference slots reason.toList := by
  rw [spec_ref_first]
  apply Iff.intro
  · intro ⟨first, isFirst, same⟩
    exact returned_cited reference first slots reason.toList listed fills isFirst same
  · exact cited_returned reference slots reason.toList listed fills

end

def nullSent : Reference :=
  ⟨[.anything, .text " sent ", .oneOf ["null"], .text " instead of a value"], some "messaging.md:22"⟩

def supportKeys : Reference :=
  ⟨[.text "client/hello used unversioned support keys: ", .anything], some "messaging.md:223"⟩

theorem null_sent_filled (slot : String) (nonempty : slot.toList ≠ []) :
    Fills nullSent.pattern [slot.toList] (slot ++ " sent null instead of a value").toList := by
  rw [String.toList_append]
  exact .anything slot.toList _ _ _ nonempty (.text " sent " _ _ _ (.oneOf ["null"] "null" _ _ _ List.mem_cons_self
    (.text " instead of a value" _ _ _ .done)))

theorem support_keys_filled (slot : String) (nonempty : slot.toList ≠ []) :
    Fills supportKeys.pattern [slot.toList] ("client/hello used unversioned support keys: " ++ slot).toList := by
  have filled := Fills.text "client/hello used unversioned support keys: " _ _ _
    (Fills.anything slot.toList [] [] [] nonempty .done)
  rwa [List.append_nil, ← String.toList_append] at filled

theorem null_in_state_cited :
    @specRefFor noUnicode ("client/state" ++ " sent null instead of a value") = .ok (some "messaging.md:22") := by
  apply (@spec_ref_cited noUnicode nullSent ["client/state".toList] _ (by decide +kernel)
    (null_sent_filled "client/state" (by decide))).mpr
  exact ⟨by decide, fun isOpen => absurd isOpen (by decide)⟩

-- A line break is read by no pattern, and a quoted type mismatch is cited in place of the rule.
theorem slot_words_cited :
    supportKeys ∈ refs ∧
    (Fills supportKeys.pattern ["a\nb".toList] ("client/hello used unversioned support keys: " ++ "a\nb").toList ∧
      @specRefFor noUnicode ("client/hello used unversioned support keys: " ++ "a\nb") ≠ .ok supportKeys.ref) ∧
    (Fills supportKeys.pattern ["a sent null instead of a value".toList]
        ("client/hello used unversioned support keys: " ++ "a sent null instead of a value").toList ∧
      @specRefFor noUnicode ("client/hello used unversioned support keys: " ++ "a sent null instead of a value") ≠
        .ok supportKeys.ref) := by
  have listed : supportKeys ∈ refs := by decide +kernel
  have broken := support_keys_filled "a\nb" (by decide)
  have quoting := support_keys_filled "a sent null instead of a value" (by decide)
  refine ⟨listed, ⟨broken, ?_⟩, quoting, ?_⟩
  · intro returned
    obtain ⟨first, isFirst, same⟩ := (@spec_ref_first noUnicode _ _).mp returned
    have cited := @returned_cited noUnicode supportKeys first _ _ listed broken isFirst same
    exact cited.1 _ List.mem_cons_self (by decide)
  · intro returned
    obtain ⟨first, isFirst, same⟩ := (@spec_ref_first noUnicode _ _).mp returned
    have cited := @returned_cited noUnicode supportKeys first _ _ listed quoting isFirst same
    have filled := null_sent_filled "client/hello used unversioned support keys: a" (by decide)
    have quoted : "client/hello used unversioned support keys: a" ++ " sent null instead of a value" =
        "client/hello used unversioned support keys: " ++ "a sent null instead of a value" := by decide
    rw [quoted] at filled
    have reads := @fills_fullmatch noUnicode nullSent.pattern _ _ filled (by decide +kernel) (by decide)
    have alike := (cited.2 (by decide)).1 nullSent ⟨by decide +kernel, by decide⟩ reads
    exact absurd alike (by decide)

end Conformance.Validator
