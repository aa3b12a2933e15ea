import SendspinConformance.Validator.Recorder

set_option autoImplicit false

namespace Conformance.Validator

open Python Base

variable (order secrets : List Secret)

-- The secret's characters, which are not none.
theorem secret_some (secret : Secret) : secret.1.toList ≠ [] := by
  intro isEmpty
  exact secret.2 (String.toList_inj.mp (by rw [isEmpty]; rfl))

theorem longest_first_mem (secret : Secret) : secret ∈ longestFirst secrets ↔ secret ∈ secrets :=
  (List.perm_insertionSort _ secrets).mem_iff

theorem mark_opens : '<' ∈ redacted.toList := by
  have spelled : redacted.toList = '<' :: "redacted>".toList := rfl
  rw [spelled]
  exact List.mem_cons_self

theorem replace_secret_list (text : String) (secret : Secret) :
    (replaceSecret text secret).toList = replaceAll secret.1.toList redacted.toList text.toList :=
  String.toList_ofList

theorem replace_secret_absent (text : String) (secret : Secret) (absent : ¬ secret.1.toList <:+: text.toList) :
    replaceSecret text secret = text := by
  rw [replaceSecret, replace_all_absent _ _ _ absent, String.ofList_toList]

theorem replaced_absent (text : String) (absent : ∀ secret ∈ order, ¬ secret.1.toList <:+: text.toList) :
    order.foldl replaceSecret text = text := by
  induction order with
  | nil => rfl
  | cons secret rest ih =>
      rw [List.foldl_cons, replace_secret_absent text secret (absent secret List.mem_cons_self)]
      exact ih fun other member => absent other (List.mem_cons_of_mem secret member)

-- A mark once made still opens after the replacements that follow.
theorem replaced_opens (text : String) (opens : '<' ∈ text.toList) : '<' ∈ (order.foldl replaceSecret text).toList := by
  induction order generalizing text with
  | nil => exact opens
  | cons secret rest ih =>
      rw [List.foldl_cons]
      apply ih
      rw [replace_secret_list]
      exact replace_all_keeps _ _ _ _ (secret_some secret) mark_opens opens

theorem replaced_marks (text : String) (occurs : ∃ secret ∈ order, secret.1.toList <:+: text.toList) :
    '<' ∈ (order.foldl replaceSecret text).toList := by
  induction order with
  | nil => simp at occurs
  | cons secret rest ih =>
      rw [List.foldl_cons]
      by_cases here : secret.1.toList <:+: text.toList
      · apply replaced_opens
        rw [replace_secret_list]
        exact (replace_all_occurs _ _ _ (secret_some secret) here).subset mark_opens
      · rw [replace_secret_absent text secret here]
        obtain ⟨other, member, inside⟩ := occurs
        cases List.mem_cons.mp member with
        | inl isFirst => exact absurd (isFirst ▸ inside) here
        | inr inRest => exact ih ⟨other, inRest, inside⟩

-- A text without the character a mark opens with is kept exactly when it holds no secret.
theorem redact_text_kept (text : String) (unmarked : '<' ∉ text.toList) :
    redactText secrets text = text ↔ ∀ secret ∈ secrets, ¬ secret.1.toList <:+: text.toList := by
  apply Iff.intro
  · intro kept secret member inside
    apply unmarked
    rw [← kept]
    exact replaced_marks _ text ⟨secret, (longest_first_mem secrets secret).mpr member, inside⟩
  · intro absent
    apply replaced_absent
    intro secret member
    exact absent secret ((longest_first_mem secrets secret).mp member)

end Conformance.Validator
