namespace StatementSegments

/-- Texts that are equal up to the case of ASCII letters. -/
def CaselessEq (a b : String) : Prop :=
  a.toList.map Char.toLower = b.toList.map Char.toLower

namespace CaselessEq

instance (a b : String) : Decidable (CaselessEq a b) :=
  inferInstanceAs (Decidable (a.toList.map Char.toLower = b.toList.map Char.toLower))

theorem symm {a b : String} (h : CaselessEq a b) : CaselessEq b a :=
  Eq.symm h

theorem trans {a b c : String} (hab : CaselessEq a b) (hbc : CaselessEq b c) : CaselessEq a c :=
  Eq.trans hab hbc

end CaselessEq

end StatementSegments
