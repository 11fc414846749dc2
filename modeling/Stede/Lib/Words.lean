import Mathlib

set_option autoImplicit false

/- Searching a text put together of chunks. A word without separators is found in the
whole exactly if it is found in a chunk, provided that chunks meet at separators. -/
namespace Words

variable {γ : Type}

/-- Something to search for: not empty, and without separators. -/
structure Word (separates : γ → Bool) (word : List γ) : Prop where
  filled : word ≠ []
  unbroken : ∀ character ∈ word, separates character = false

/-- A separator stands on one side of the place where two chunks meet. -/
def Meet (separates : γ → Bool) (left right : List γ) : Prop :=
  (∃ last ∈ left.getLast?, separates last = true) ∨
    ∃ first ∈ right.head?, separates first = true

variable {separates : γ → Bool} {word left right : List γ}

theorem Meet.append_right (meet : Meet separates left right) (rest : List γ) :
    Meet separates left (right ++ rest) := by
  cases meet with
  | inl before => exact Or.inl before
  | inr after =>
      have ⟨first, first_of, separator⟩ := after
      refine Or.inr ⟨first, ?_, separator⟩
      rw [Option.mem_def] at first_of ⊢
      rw [List.head?_append, first_of, Option.some_or]

/-- A text of separators contains no word. -/
theorem Word.not_infix_of_separators (whole : Word separates word) {text : List γ}
    (separators : ∀ character ∈ text, separates character = true) : ¬ word <:+: text := by
  intro found
  have ⟨first, member⟩ := List.exists_mem_of_ne_nil word whole.filled
  have unbroken := whole.unbroken first member
  rw [separators first (found.subset member)] at unbroken
  cases unbroken

theorem Word.infix_append_iff (whole : Word separates word) (meet : Meet separates left right) :
    word <:+: left ++ right ↔ word <:+: left ∨ word <:+: right := by
  have none_across : ¬ ∃ front back, front ≠ [] ∧ back ≠ [] ∧ word = front ++ back ∧
      front <:+ left ∧ back <+: right := by
    intro ⟨front, back, front_filled, back_filled, split, ⟨before, left_eq⟩, ⟨after, right_eq⟩⟩
    have unbroken := whole.unbroken
    rw [split] at unbroken
    cases meet with
    | inl ends =>
        have ⟨last, last_of, separator⟩ := ends
        rw [← left_eq, Option.mem_def, List.getLast?_append_of_ne_nil before front_filled] at last_of
        have inside := unbroken last (List.mem_append_left _ (List.mem_of_getLast? last_of))
        exact absurd (inside.symm.trans separator) (by decide)
    | inr starts =>
        have ⟨first, first_of, separator⟩ := starts
        rw [← right_eq, Option.mem_def, List.head?_append_of_ne_nil back back_filled] at first_of
        have inside := unbroken first (List.mem_append_right _ (List.mem_of_head? first_of))
        exact absurd (inside.symm.trans separator) (by decide)
  rw [List.infix_append_iff_ne_nil, or_iff_left none_across]

/-- In chunks that meet at separators. -/
theorem Word.infix_flatten_iff (whole : Word separates word) {chunks : List (List γ)}
    (meet : chunks.IsChain (Meet separates)) :
    word <:+: chunks.flatten ↔ ∃ chunk ∈ chunks, word <:+: chunk := by
  induction chunks with
  | nil => simp [whole.filled]
  | cons chunk rest ih =>
      have apart : word <:+: chunk ++ rest.flatten ↔ word <:+: chunk ∨ word <:+: rest.flatten := by
        cases rest with
        | nil => simp [whole.filled]
        | cons next more =>
            have first : Meet separates chunk next := (List.isChain_cons_cons.mp meet).1
            exact whole.infix_append_iff (first.append_right _)
      rw [List.flatten_cons, apart, ih meet.tail, List.exists_mem_cons_iff]

/-- In lines joined by a separator. -/
theorem Word.infix_intercalate_iff (whole : Word separates word) {separator : γ}
    (separated : separates separator = true) (lines : List (List γ)) :
    word <:+: [separator].intercalate lines ↔ ∃ line ∈ lines, word <:+: line := by
  induction lines with
  | nil => simp [List.intercalate, whole.filled]
  | cons line rest ih =>
      cases rest with
      | nil => simp [List.intercalate]
      | cons next more =>
          have joined : [separator].intercalate (line :: next :: more) =
              line ++ ([separator] ++ [separator].intercalate (next :: more)) := by
            simp [List.intercalate]
          have before : Meet separates line ([separator] ++ [separator].intercalate (next :: more)) :=
            Or.inr ⟨separator, rfl, separated⟩
          have after : Meet separates [separator] ([separator].intercalate (next :: more)) :=
            Or.inl ⟨separator, rfl, separated⟩
          have bare : ¬ word <:+: [separator] := whole.not_infix_of_separators fun character member =>
            (List.mem_singleton.mp member) ▸ separated
          rw [joined, whole.infix_append_iff before, whole.infix_append_iff after, or_iff_right bare, ih]
          exact (List.exists_mem_cons_iff _ line (next :: more)).symm

end Words
