/-!
# Blanks

The characters with the property `White_Space`, and texts without the blanks at their two
ends.  Core's `Char.isWhitespace` knows four of them, which is too few for text that
people type.
-/

namespace ScriptBridge.Text

/-- The characters with the property `White_Space`, all 25 of them. -/
def isBlank (character : Char) : Bool :=
  let point := character.toNat
  (0x09 ≤ point && point ≤ 0x0d) || point == 0x20 || point == 0x85 || point == 0xa0
    || point == 0x1680 || (0x2000 ≤ point && point ≤ 0x200a)
    || point == 0x2028 || point == 0x2029 || point == 0x202f || point == 0x205f
    || point == 0x3000

/-- The text without the blanks at its two ends. -/
def trim (text : List Char) : List Char :=
  ((text.dropWhile isBlank).reverse.dropWhile isBlank).reverse

theorem dropWhile_isBlank_append {blanks body : List Char}
    (blank : ∀ character ∈ blanks, isBlank character = true)
    (clear : ∀ character ∈ body.head?, isBlank character = false) :
    (blanks ++ body).dropWhile isBlank = body := by
  rw [List.dropWhile_append_of_pos blank]
  cases body with
  | nil => rfl
  | cons first rest =>
      rw [List.dropWhile_cons_of_neg]
      simp [clear first rfl]

theorem trim_append {before body after : List Char}
    (blankBefore : ∀ character ∈ before, isBlank character = true)
    (blankAfter : ∀ character ∈ after, isBlank character = true)
    (clear : ∀ character ∈ body, isBlank character = false) :
    trim (before ++ body ++ after) = body := by
  have blankAround := List.forall_mem_append.mpr ⟨blankBefore, blankAfter⟩
  have last : ∀ character ∈ body.reverse.head?, isBlank character = false := by
    intro character isHead
    exact clear character (List.mem_reverse.mp (List.mem_of_mem_head? isHead))
  cases body with
  | nil =>
      have dropped : (before ++ after ++ []).dropWhile isBlank = [] :=
        dropWhile_isBlank_append blankAround (by simp)
      rw [List.append_nil] at dropped
      rw [trim, List.append_nil, dropped]
      rfl
  | cons first rest =>
      rw [trim, List.append_assoc, dropWhile_isBlank_append blankBefore, List.reverse_append,
        dropWhile_isBlank_append _ last, List.reverse_reverse]
      · simpa using blankAfter
      · simpa using clear first

/-- Only blanks are trimmed. -/
theorem exists_blanks_around (text : List Char) :
    ∃ before after, text = before ++ trim text ++ after ∧
      (∀ character ∈ before, isBlank character = true) ∧
      ∀ character ∈ after, isBlank character = true := by
  have front : text.takeWhile isBlank ++ text.dropWhile isBlank = text :=
    List.takeWhile_append_dropWhile
  have back : (text.dropWhile isBlank).reverse.takeWhile isBlank ++
      (text.dropWhile isBlank).reverse.dropWhile isBlank = (text.dropWhile isBlank).reverse :=
    List.takeWhile_append_dropWhile
  refine ⟨text.takeWhile isBlank, ((text.dropWhile isBlank).reverse.takeWhile isBlank).reverse,
    ?_, List.all_eq_true.mp List.all_takeWhile, ?_⟩
  · rw [trim, List.append_assoc, ← List.reverse_append, back, List.reverse_reverse, front]
  · intro character member
    exact List.all_eq_true.mp List.all_takeWhile character (List.mem_reverse.mp member)

end ScriptBridge.Text
