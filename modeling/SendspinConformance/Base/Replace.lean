import Mathlib.Data.List.Infix

set_option autoImplicit false

namespace Conformance.Base

variable {α : Type} [DecidableEq α]

-- Left to right, every occurrence of `old` gives way to `new`; the items of an
-- occurrence already replaced are skipped.
def replaceFrom (old new : List α) : Nat → List α → List α
  | _, [] => []
  | skip + 1, _ :: rest => replaceFrom old new skip rest
  | 0, head :: rest =>
      if old.isPrefixOf (head :: rest) then new ++ replaceFrom old new (old.length - 1) rest
      else head :: replaceFrom old new 0 rest

-- str.replace(old, new) for an `old` that is not empty.
def replaceAll (old new items : List α) : List α := replaceFrom old new 0 items

-- What is between the occurrences of `old`.
def piecesFrom (old : List α) : Nat → List α → List (List α)
  | _, [] => [[]]
  | skip + 1, _ :: rest => piecesFrom old skip rest
  | 0, head :: rest =>
      if old.isPrefixOf (head :: rest) then [] :: piecesFrom old (old.length - 1) rest
      else
        match piecesFrom old 0 rest with
        | [] => [[head]]
        | piece :: others => (head :: piece) :: others

def pieces (old items : List α) : List (List α) := piecesFrom old 0 items

omit [DecidableEq α] in
-- Nothing that lacks an item reaches across it.
theorem infix_across (word left right : List α) (item : α) (free : item ∉ word) :
    word <:+: left ++ item :: right ↔ word <:+: left ∨ word <:+: right := by
  apply Iff.intro
  · intro inside
    obtain ⟨before, after, same⟩ := inside
    rw [List.append_assoc] at same
    obtain ⟨middle, front, back⟩ | ⟨middle, front, back⟩ := List.append_eq_append_iff.mp same
    · -- the word starts in the left part
      obtain ⟨rest, wordFront, wordBack⟩ | ⟨rest, wordFront, wordBack⟩ := List.append_eq_append_iff.mp back
      · refine Or.inl ⟨before, rest, ?_⟩
        rw [front, wordFront, List.append_assoc]
      · cases rest with
        | nil =>
            refine Or.inl ⟨before, [], ?_⟩
            rw [front, List.append_nil]
            simpa using congrArg (before ++ ·) wordFront
        | cons first others =>
            have isItem : item = first := by simpa using (List.cons.inj wordBack).1
            exact absurd (by rw [wordFront, isItem]; simp) free
    · -- the word starts at the item or after it
      cases middle with
      | nil =>
          cases word with
          | nil => exact Or.inl ⟨left, [], by simp⟩
          | cons first others =>
              have isItem : item = first := by simpa using (List.cons.inj back).1
              exact absurd (by rw [isItem]; exact List.mem_cons_self) free
      | cons first others => exact Or.inr ⟨others, after, by simpa using (List.cons.inj back).2.symm⟩
  · intro inside
    cases inside with
    | inl inLeft => exact inLeft.trans (List.prefix_append _ _).isInfix
    | inr inRight => exact inRight.trans ((List.suffix_cons _ _).trans (List.suffix_append _ _)).isInfix

-- Where nothing occurs, nothing is replaced.
theorem replace_from_absent (old new items : List α) (skip : Nat) (absent : ¬ old <:+: items.drop skip) :
    replaceFrom old new skip items = items.drop skip := by
  induction items generalizing skip with
  | nil => cases skip <;> rfl
  | cons head rest ih =>
      cases skip with
      | succ skip => exact ih skip absent
      | zero =>
          have elsewhere : ¬ old <:+: rest.drop 0 := fun inside =>
            absent (inside.trans (List.suffix_cons head rest).isInfix)
          have notHere : old.isPrefixOf (head :: rest) = false := by
            rw [Bool.eq_false_iff, ne_eq, List.isPrefixOf_iff_prefix]
            exact fun starts => absent starts.isInfix
          rw [replaceFrom, notHere, if_neg Bool.false_ne_true, ih 0 elsewhere]
          rfl

theorem replace_all_absent (old new items : List α) (absent : ¬ old <:+: items) :
    replaceAll old new items = items :=
  replace_from_absent old new items 0 absent

-- Where `old` occurs, `new` stands afterwards.
theorem replace_from_occurs (old new items : List α) (skip : Nat) (some : old ≠ [])
    (occurs : old <:+: items.drop skip) : new <:+: replaceFrom old new skip items := by
  induction items generalizing skip with
  | nil => exact absurd (List.infix_nil.mp (by simpa using occurs)) some
  | cons head rest ih =>
      cases skip with
      | succ skip => exact ih skip occurs
      | zero =>
          rw [replaceFrom]
          by_cases here : old.isPrefixOf (head :: rest) = true
          · rw [if_pos here]
            exact (List.prefix_append _ _).isInfix
          · rw [if_neg here]
            have later : old <:+: rest := by
              obtain starts | inRest := List.infix_cons_iff.mp occurs
              · exact absurd (List.isPrefixOf_iff_prefix.mpr starts) here
              · exact inRest
            exact (ih 0 later).trans (List.suffix_cons _ _).isInfix

theorem replace_all_occurs (old new items : List α) (some : old ≠ []) (occurs : old <:+: items) :
    new <:+: replaceAll old new items :=
  replace_from_occurs old new items 0 some occurs

-- An item of the replacement is never lost to a later one.
theorem replace_all_keeps (old new items : List α) (item : α) (some : old ≠ []) (inNew : item ∈ new)
    (inItems : item ∈ items) : item ∈ replaceAll old new items := by
  by_cases occurs : old <:+: items
  · exact (replace_all_occurs old new items some occurs).subset inNew
  · rw [replace_all_absent old new items occurs]
    exact inItems

omit [DecidableEq α] in
theorem prefix_across (word left right : List α) (item : α) (free : item ∉ word) :
    word <+: left ++ item :: right ↔ word <+: left := by
  apply Iff.intro
  · intro starts
    induction left generalizing word with
    | nil =>
        cases word with
        | nil => exact List.prefix_refl []
        | cons first others =>
            have same : first = item := (List.cons_prefix_cons.mp starts).1
            exact absurd (by rw [same]; exact List.mem_cons_self) free
    | cons head rest ih =>
        cases word with
        | nil => exact List.nil_prefix
        | cons first others =>
            obtain ⟨same, more⟩ := List.cons_prefix_cons.mp starts
            rw [same, List.prefix_cons_inj]
            exact ih others (fun inOthers => free (List.mem_cons_of_mem first inOthers)) more
  · intro starts
    exact starts.trans (List.prefix_append _ _)

-- What lacks an item is replaced on each side of it alone.
theorem replace_from_across (old new left right : List α) (item : α) (skip : Nat) (some : old ≠ [])
    (free : item ∉ old) (within : skip ≤ left.length) :
    replaceFrom old new skip (left ++ item :: right) =
      replaceFrom old new skip left ++ item :: replaceFrom old new 0 right := by
  induction left generalizing skip with
  | nil =>
      have none : skip = 0 := by simpa using within
      subst none
      have notHere : ¬ old.isPrefixOf (item :: right) = true := by
        rw [List.isPrefixOf_iff_prefix, ← List.nil_append (item :: right), prefix_across old [] right item free]
        exact fun starts => some (List.prefix_nil.mp starts)
      simp only [List.nil_append, replaceFrom, if_neg notHere]
  | cons head rest ih =>
      cases skip with
      | succ skip =>
          have shorter : skip ≤ rest.length := by simpa using within
          exact ih skip shorter
      | zero =>
          have agree : old.isPrefixOf (head :: rest ++ item :: right) = old.isPrefixOf (head :: rest) := by
            rw [Bool.eq_iff_iff, List.isPrefixOf_iff_prefix, List.isPrefixOf_iff_prefix]
            exact prefix_across old (head :: rest) right item free
          rw [List.cons_append] at agree ⊢
          by_cases here : old.isPrefixOf (head :: rest) = true
          · have shorter : old.length - 1 ≤ rest.length := by
              have bound := (List.isPrefixOf_iff_prefix.mp here).length_le
              rw [List.length_cons] at bound
              omega
            rw [replaceFrom, replaceFrom, agree, if_pos here, if_pos here, ih _ shorter, List.append_assoc]
          · rw [replaceFrom, replaceFrom, agree, if_neg here, if_neg here, ih 0 (Nat.zero_le _), List.cons_append]

theorem replace_all_across (old new left right : List α) (item : α) (some : old ≠ []) (free : item ∉ old) :
    replaceAll old new (left ++ item :: right) = replaceAll old new left ++ item :: replaceAll old new right :=
  replace_from_across old new left right item 0 some free (Nat.zero_le _)

theorem pieces_from_some (old items : List α) (skip : Nat) :
    ∃ piece others, piecesFrom old skip items = piece :: others := by
  induction items generalizing skip with
  | nil => cases skip <;> exact ⟨[], [], rfl⟩
  | cons head rest ih =>
      cases skip with
      | succ skip => exact ih skip
      | zero =>
          rw [piecesFrom]
          by_cases here : old.isPrefixOf (head :: rest) = true
          · exact ⟨[], piecesFrom old (old.length - 1) rest, if_pos here⟩
          · obtain ⟨piece, others, same⟩ := ih 0
            rw [if_neg here, same]
            exact ⟨head :: piece, others, rfl⟩

-- Replacing is cutting out and joining the pieces with the replacement.
theorem replace_from_pieces (old new items : List α) (skip : Nat) :
    replaceFrom old new skip items = new.intercalate (piecesFrom old skip items) := by
  induction items generalizing skip with
  | nil => cases skip <;> rfl
  | cons head rest ih =>
      cases skip with
      | succ skip => exact ih skip
      | zero =>
          rw [replaceFrom, piecesFrom]
          by_cases here : old.isPrefixOf (head :: rest) = true
          · obtain ⟨piece, others, same⟩ := pieces_from_some old rest (old.length - 1)
            rw [if_pos here, if_pos here, ih, same, List.intercalate_cons_cons, List.nil_append]
          · obtain ⟨piece, others, same⟩ := pieces_from_some old rest 0
            rw [if_neg here, if_neg here, ih, same]
            cases others with
            | nil => simp only [List.intercalate_singleton]
            | cons second more => simp only [List.intercalate_cons_cons, List.cons_append]

-- A piece is a stretch of what was cut, and nothing of what was cut out is left in it.
theorem pieces_from_clean (old items : List α) (skip : Nat) (some : old ≠ []) :
    (∀ piece others, piecesFrom old skip items = piece :: others → piece <+: items.drop skip) ∧
    ∀ piece ∈ piecesFrom old skip items, piece <:+: items ∧ ¬ old <:+: piece := by
  induction items generalizing skip with
  | nil =>
      have only : piecesFrom old skip ([] : List α) = [[]] := by cases skip <;> rfl
      rw [only]
      refine ⟨?_, ?_⟩
      · intro piece others same
        rw [← (List.cons.inj same).1]
        exact List.nil_prefix
      · intro piece member
        rw [List.mem_singleton.mp member]
        exact ⟨List.infix_refl [], fun inside => some (List.infix_nil.mp inside)⟩
  | cons head rest ih =>
      cases skip with
      | succ skip =>
          obtain ⟨first, all⟩ := ih skip
          refine ⟨first, ?_⟩
          intro piece member
          exact ⟨(all piece member).1.trans (List.suffix_cons head rest).isInfix, (all piece member).2⟩
      | zero =>
          rw [piecesFrom]
          by_cases here : old.isPrefixOf (head :: rest) = true
          · rw [if_pos here]
            obtain ⟨first, all⟩ := ih (old.length - 1)
            refine ⟨?_, ?_⟩
            · intro piece others same
              rw [← (List.cons.inj same).1]
              exact List.nil_prefix
            · intro piece member
              cases List.mem_cons.mp member with
              | inl isEmpty =>
                  rw [isEmpty]
                  exact ⟨List.nil_infix, fun inside => some (List.infix_nil.mp inside)⟩
              | inr inLater =>
                  exact ⟨(all piece inLater).1.trans (List.suffix_cons head rest).isInfix, (all piece inLater).2⟩
          · rw [if_neg here]
            obtain ⟨piece, others, same⟩ := pieces_from_some old rest 0
            obtain ⟨first, all⟩ := ih 0
            rw [same] at all ⊢
            have starts : head :: piece <+: head :: rest :=
              List.cons_prefix_cons.mpr ⟨rfl, first piece others same⟩
            refine ⟨?_, ?_⟩
            · intro other more sameCons
              rw [← (List.cons.inj sameCons).1]
              exact starts
            · intro other member
              cases List.mem_cons.mp member with
              | inl isFirst =>
                  rw [isFirst]
                  refine ⟨starts.isInfix, ?_⟩
                  intro inside
                  -- an occurrence starting the first piece would have been cut out here
                  obtain atHead | inPiece := List.infix_cons_iff.mp inside
                  · exact here (List.isPrefixOf_iff_prefix.mpr (atHead.trans starts))
                  · exact (all piece List.mem_cons_self).2 inPiece
              | inr inLater =>
                  obtain ⟨stretch, clean⟩ := all other (List.mem_cons_of_mem piece inLater)
                  exact ⟨stretch.trans (List.suffix_cons head rest).isInfix, clean⟩

omit [DecidableEq α] in
theorem intercalate_append (mark : List α) (first second : List (List α)) (some : first ≠ []) (more : second ≠ []) :
    mark.intercalate (first ++ second) = mark.intercalate first ++ mark ++ mark.intercalate second := by
  induction first with
  | nil => exact absurd rfl some
  | cons stretch rest ih =>
      cases rest with
      | nil =>
          rw [List.singleton_append, List.intercalate_cons_of_ne_nil more, List.intercalate_singleton]
      | cons next others =>
          rw [List.cons_append, List.intercalate_cons_of_ne_nil (by simp), ih (by simp), List.intercalate_cons_cons]
          simp only [List.append_assoc]

omit [DecidableEq α] in
theorem intercalate_flat_map {β : Type} (spell : α → List β) (mark : List α) (stretches : List (List α)) :
    (mark.intercalate stretches).flatMap spell =
      (mark.flatMap spell).intercalate (stretches.map fun stretch => stretch.flatMap spell) := by
  induction stretches with
  | nil => rfl
  | cons stretch rest ih =>
      cases rest with
      | nil => simp
      | cons next others =>
          rw [List.intercalate_cons_cons, List.flatMap_append, List.flatMap_append, ih]
          simp [List.intercalate_cons_cons]

theorem pieces_some (old items : List α) : pieces old items ≠ [] := by
  obtain ⟨piece, others, same⟩ := pieces_from_some old items 0
  rw [pieces, same]
  exact List.cons_ne_nil piece others

-- A mark stands between two of its own items, which what is looked for lacks.
section marked

variable (opening closing : α) (middle : List α)

def markOf : List α := opening :: (middle ++ [closing])

omit [DecidableEq α] in
theorem joined_cons (stretch : List α) (others : List (List α)) (some : others ≠ []) :
    (markOf opening closing middle).intercalate (stretch :: others) =
      stretch ++ opening :: (middle ++ closing :: (markOf opening closing middle).intercalate others) := by
  rw [List.intercalate_cons_of_ne_nil some, markOf]
  simp

omit [DecidableEq α] in
theorem infix_joined (word : List α) (some : word ≠ []) (opens : opening ∉ word) (closes : closing ∉ word)
    (apart : ¬ word <:+: middle) (stretches : List (List α)) :
    word <:+: (markOf opening closing middle).intercalate stretches ↔ ∃ stretch ∈ stretches, word <:+: stretch := by
  induction stretches with
  | nil => simp [List.intercalate_nil, some]
  | cons stretch rest ih =>
      cases rest with
      | nil => simp
      | cons next others =>
          rw [joined_cons _ _ _ stretch _ (List.cons_ne_nil next others), infix_across word _ _ opening opens,
            infix_across word _ _ closing closes, ih, or_iff_right apart]
          simp [or_and_right, exists_or]

theorem replace_all_joined (old : List α) (some : old ≠ []) (opens : opening ∉ old) (closes : closing ∉ old)
    (apart : ¬ old <:+: middle) (stretches : List (List α)) :
    replaceAll old (markOf opening closing middle) ((markOf opening closing middle).intercalate stretches) =
      (markOf opening closing middle).intercalate (stretches.flatMap (pieces old)) := by
  induction stretches with
  | nil => rfl
  | cons stretch rest ih =>
      cases rest with
      | nil => simpa [replaceAll, pieces] using replace_from_pieces old _ stretch 0
      | cons next others =>
          have more : (next :: others).flatMap (pieces old) ≠ [] := by
            rw [List.flatMap_cons]
            exact List.append_ne_nil_of_left_ne_nil (pieces_some old next) _
          rw [joined_cons _ _ _ stretch _ (List.cons_ne_nil next others),
            replace_all_across old _ _ _ opening some opens, replace_all_across old _ _ _ closing some closes,
            replace_all_absent old _ middle apart, ih, List.flatMap_cons (x := stretch),
            intercalate_append _ _ _ (pieces_some old stretch) more, replaceAll, replace_from_pieces old _ stretch 0]
          simp [markOf, pieces]

-- Replacements one after another cut a text into stretches of it that hold nothing replaced.
theorem replaced_joined (olds : List (List α)) (some : ∀ old ∈ olds, old ≠ [])
    (unmarked : ∀ old ∈ olds, opening ∉ old ∧ closing ∉ old ∧ ¬ old <:+: middle) (items : List α) :
    ∃ stretches, olds.foldl (fun text old => replaceAll old (markOf opening closing middle) text) items =
        (markOf opening closing middle).intercalate stretches ∧
      ∀ stretch ∈ stretches, stretch <:+: items ∧ ∀ old ∈ olds, ¬ old <:+: stretch := by
  induction olds using List.reverseRecOn with
  | nil => exact ⟨[items], by simp, by simp⟩
  | append_singleton earlier old ih =>
      obtain ⟨stretches, joined, clean⟩ := ih (fun other member => some other (by simp [member]))
        fun other member => unmarked other (by simp [member])
      have last : old ∈ earlier ++ [old] := by simp
      obtain ⟨opens, closes, apart⟩ := unmarked old last
      refine ⟨stretches.flatMap (pieces old), ?_, ?_⟩
      · rw [List.foldl_append, joined]
        exact replace_all_joined opening closing middle old (some old last) opens closes apart stretches
      · intro stretch member
        obtain ⟨whole, inStretches, piece⟩ := List.mem_flatMap.mp member
        obtain ⟨part, without⟩ := (pieces_from_clean old whole 0 (some old last)).2 stretch piece
        refine ⟨part.trans (clean whole inStretches).1, ?_⟩
        intro other inOlds inside
        cases List.mem_append.mp inOlds with
        | inl before => exact (clean whole inStretches).2 other before (inside.trans part)
        | inr isLast => exact without (List.mem_singleton.mp isLast ▸ inside)

end marked

end Conformance.Base
