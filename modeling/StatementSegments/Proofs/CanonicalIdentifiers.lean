import StatementSegments.Proofs.TrimmedTexts
import StatementSegments.Text.Identifier

namespace StatementSegments.Identifier

/-- No quoting character occurs, and no blank stands at either end. -/
structure IsCanonical (cs : List Char) : Prop where
  unquoted : ∀ c ∈ cs, isQuoting c = false
  trimmed : Blank.IsTrimmed cs

/-- What may stand around an identifier. -/
def isAround (c : Char) : Bool :=
  isQuoting c || Blank.isBlank c

theorem isCanonical_canonicalChars (cs : List Char) : IsCanonical (canonicalChars cs) where
  unquoted c hc := by
    have hfilter := Blank.trimChars_subset _ hc
    simpa using (List.mem_filter.mp hfilter).2
  trimmed := Blank.isTrimmed_trimChars _

/-- Of what stands around an identifier only blanks are left once quoting characters are dropped,
wherever these stood between the blanks. -/
theorem isBlank_of_mem_filter {cs : List Char} (h : ∀ c ∈ cs, isAround c = true) :
    ∀ c ∈ cs.filter fun c => !isQuoting c, Blank.isBlank c = true := by
  intro c hc
  obtain ⟨hmem, hunquoted⟩ := List.mem_filter.mp hc
  rcases Bool.or_eq_true_iff.mp (h c hmem) with hquoting | hblank
  · rw [hquoting] at hunquoted
    cases hunquoted
  · exact hblank

theorem canonicalChars_append {before cs after : List Char} (hcs : IsCanonical cs)
    (hbefore : ∀ c ∈ before, isAround c = true) (hafter : ∀ c ∈ after, isAround c = true) :
    canonicalChars (before ++ cs ++ after) = cs := by
  have hkeep : cs.filter (fun c => !isQuoting c) = cs := by
    rw [List.filter_eq_self]
    intro c hc
    rw [hcs.unquoted c hc]
    rfl
  rw [canonicalChars, List.filter_append, List.filter_append, hkeep]
  exact Blank.trimChars_append (isBlank_of_mem_filter hbefore) (isBlank_of_mem_filter hafter)
    hcs.trimmed

theorem canonicalChars_eq_self_iff {cs : List Char} :
    canonicalChars cs = cs ↔ IsCanonical cs := by
  constructor
  · intro h
    rw [← h]
    exact isCanonical_canonicalChars cs
  · intro h
    have happend := canonicalChars_append h (List.forall_mem_nil _) (List.forall_mem_nil _)
    rwa [List.nil_append, List.append_nil] at happend

instance (cs : List Char) : Decidable (IsCanonical cs) :=
  decidable_of_iff (canonicalChars cs = cs) canonicalChars_eq_self_iff

theorem canonical_eq_self_iff {raw : String} : canonical raw = raw ↔ IsCanonical raw.toList := by
  rw [← canonicalChars_eq_self_iff, ← toList_canonical, String.toList_inj]

/-- Canonical forms are just the texts that are their own canonical form, and one is found again
among any quoting characters and blanks. -/
theorem canonical_forms :
    (∀ raw : String, IsCanonical (canonical raw).toList) ∧
    (∀ raw : String, canonical raw = raw ↔ IsCanonical raw.toList) ∧
    (∀ raw : String, canonical (canonical raw) = canonical raw) ∧
    ∀ before name after : String, IsCanonical name.toList →
      (∀ c ∈ before.toList ++ after.toList, isAround c = true) →
        canonical (before ++ name ++ after) = name := by
  have hcanonical : ∀ raw : String, IsCanonical (canonical raw).toList := by
    intro raw
    rw [toList_canonical]
    exact isCanonical_canonicalChars raw.toList
  refine ⟨hcanonical, fun raw => canonical_eq_self_iff, ?_, ?_⟩
  · intro raw
    exact canonical_eq_self_iff.mpr (hcanonical raw)
  · intro before name after hname haround
    have hchars : canonicalChars (before ++ name ++ after).toList = name.toList := by
      rw [String.toList_append, String.toList_append]
      apply canonicalChars_append hname
      · exact fun c hc => haround c (List.mem_append_left _ hc)
      · exact fun c hc => haround c (List.mem_append_right _ hc)
    rw [canonical, hchars, String.ofList_toList]

/-- Blanks and quoting characters of several dialects take turns around a name that holds blanks. -/
theorem orderId_canonical :
    IsCanonical "order id".toList ∧
      (∀ c ∈ "[ \x60 \"".toList ++ "\u00a0'\t]\u2003".toList, isAround c = true) ∧
      canonical ("[ \x60 \"" ++ "order id" ++ "\u00a0'\t]\u2003") = "order id" := by
  obtain ⟨-, -, -, haround⟩ := canonical_forms
  have hname : IsCanonical "order id".toList := by decide
  have hends : ∀ c ∈ "[ \x60 \"".toList ++ "\u00a0'\t]\u2003".toList, isAround c = true :=
    List.all_eq_true.mp (by decide)
  exact ⟨hname, hends, haround _ _ _ hname hends⟩

end StatementSegments.Identifier
