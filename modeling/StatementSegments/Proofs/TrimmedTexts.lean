import Mathlib.Data.List.Basic
import Mathlib.Data.List.TakeWhile
import StatementSegments.Text.Blank

namespace StatementSegments.Blank

/-- The characters neither start nor end with a blank. -/
structure IsTrimmed (cs : List Char) : Prop where
  head : ∀ c ∈ cs.head?, isBlank c = false
  last : ∀ c ∈ cs.getLast?, isBlank c = false

theorem dropWhile_isBlank {cs : List Char} (h : ∀ c ∈ cs.head?, isBlank c = false) :
    cs.dropWhile isBlank = cs := by
  cases cs with
  | nil => rfl
  | cons c cs => rw [List.dropWhile_cons, h c rfl, if_neg Bool.false_ne_true]

theorem head?_dropWhile_isBlank (cs : List Char) :
    ∀ c ∈ (cs.dropWhile isBlank).head?, isBlank c = false := by
  intro c hc
  have hhead := List.head?_dropWhile_not isBlank cs
  rw [Option.mem_def] at hc
  rwa [hc] at hhead

/-- What is dropped from the front leaves the end as it is. -/
theorem getLast?_dropWhile_isBlank {cs : List Char} (h : ∀ c ∈ cs.getLast?, isBlank c = false) :
    ∀ c ∈ (cs.dropWhile isBlank).getLast?, isBlank c = false := by
  intro c hc
  apply h
  rw [← List.takeWhile_append_dropWhile (p := isBlank) (l := cs)]
  exact List.mem_getLast?_append_of_mem_getLast? hc

theorem isTrimmed_trimChars (cs : List Char) : IsTrimmed (trimChars cs) where
  head := by
    rw [trimChars, List.head?_reverse]
    apply getLast?_dropWhile_isBlank
    rw [List.getLast?_reverse]
    exact head?_dropWhile_isBlank cs
  last := by
    rw [trimChars, List.getLast?_reverse]
    exact head?_dropWhile_isBlank _

theorem trimChars_subset (cs : List Char) : trimChars cs ⊆ cs := by
  intro c hc
  rw [trimChars, List.mem_reverse] at hc
  have hreversed := (List.dropWhile_sublist isBlank).subset hc
  rw [List.mem_reverse] at hreversed
  exact (List.dropWhile_sublist isBlank).subset hreversed

/-- Blanks around a text that neither starts nor ends with one are what is trimmed. -/
theorem trimChars_append {before cs after : List Char} (hbefore : ∀ c ∈ before, isBlank c = true)
    (hafter : ∀ c ∈ after, isBlank c = true) (hcs : IsTrimmed cs) :
    trimChars (before ++ cs ++ after) = cs := by
  have hback : (after.reverse ++ cs.reverse).dropWhile isBlank = cs.reverse := by
    rw [List.dropWhile_append_of_pos (by simpa using hafter)]
    apply dropWhile_isBlank
    rw [List.head?_reverse]
    exact hcs.last
  have hfront : (cs ++ after).dropWhile isBlank = (cs ++ after) ∨ cs = [] := by
    rcases cs with _ | ⟨c, cs⟩
    · exact Or.inr rfl
    · exact Or.inl (dropWhile_isBlank hcs.head)
  rw [trimChars, List.append_assoc, List.dropWhile_append_of_pos hbefore]
  rcases hfront with hfront | rfl
  · rw [hfront, List.reverse_append, hback, List.reverse_reverse]
  · rw [List.nil_append, List.dropWhile_eq_nil_iff.mpr hafter]
    rfl

end StatementSegments.Blank
