namespace StatementSegments.StringLiteral

/-- Every quote written twice. -/
def double (quote : Char) : List Char → List Char
  | [] => []
  | c :: cs => if c = quote then quote :: quote :: double quote cs else c :: double quote cs

/-- Every pair of quotes written once, pairs being taken from the left. -/
def collapse (quote : Char) : List Char → List Char
  | c :: d :: cs =>
      if c = quote ∧ d = quote then quote :: collapse quote cs else c :: collapse quote (d :: cs)
  | cs => cs

theorem collapse_double (quote : Char) (s : List Char) :
    collapse quote (double quote s) = s := by
  induction s with
  | nil => rfl
  | cons c cs ih =>
      by_cases h : c = quote
      · subst h
        simp [double, collapse, ih]
      · rw [double, if_neg h]
        cases hd : double quote cs with
        | nil => rw [hd] at ih; simp [collapse] at ih ⊢; exact ih
        | cons d ds => rw [hd] at ih; rw [collapse, if_neg (by simp [h]), ih]

/-- The literal without a leading N that stands before a single quote. -/
def withoutNational : List Char → List Char
  | c :: '\'' :: cs => if c = 'N' ∨ c = 'n' then '\'' :: cs else c :: '\'' :: cs
  | cs => cs

/-- What stands between an opening and a closing quote. -/
def between? (quote : Char) : List Char → Option (List Char)
  | c :: cs => if c = quote ∧ cs.getLast? = some quote then some cs.dropLast else none
  | [] => none

/-- The text that a literal denotes; other text denotes itself. -/
def unquoteChars (literal : List Char) : List Char :=
  match between? '\'' (withoutNational literal) with
  | some inner => collapse '\'' inner
  | none =>
      match between? '"' (withoutNational literal) with
      | some inner => collapse '"' inner
      | none => literal

def unquote (literal : String) : String :=
  String.ofList (unquoteChars literal.toList)

end StatementSegments.StringLiteral
