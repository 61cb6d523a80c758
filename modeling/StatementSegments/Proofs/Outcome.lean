import Mathlib.Data.List.Forall2
import StatementSegments.Log

namespace StatementSegments.Logged

variable {ε α β : Type} {x : Logged ε α} {f : α → Logged ε β}

@[simp]
theorem outcome_pure (a : α) : (pure a : Logged ε α).outcome = .ok a :=
  rfl

@[simp]
theorem outcome_fail (e : ε) : (fail e : Logged ε α).outcome = .error e :=
  rfl

@[simp]
theorem outcome_ofExcept (r : Except ε α) : (ofExcept r).outcome = r :=
  rfl

@[simp]
theorem outcome_log_bind (level : LogLevel) (message : String) (next : Unit → Logged ε α) :
    (log level message >>= next).outcome = (next ()).outcome :=
  rfl

@[simp]
theorem outcome_reporting (level : LogLevel) (message : ε → String) :
    (x.reporting level message).outcome = x.outcome := by
  rcases x with ⟨records, _ | _⟩ <;> rfl

/-- What fails for one reason that need not be there succeeds where it is not. -/
theorem exists_outcome_ok_iff {o : Option β} {error : β → ε}
    (h : ∀ e, x.outcome = .error e ↔ ∃ b, o = some b ∧ e = error b) :
    (∃ a, x.outcome = .ok a) ↔ o = none := by
  rcases hx : x.outcome with e | a
  · obtain ⟨b, rfl, -⟩ := (h e).mp hx
    simp
  · rw [Option.eq_none_iff_forall_ne_some]
    refine ⟨?_, fun _ => ⟨a, rfl⟩⟩
    rintro - b hb
    have herror := (h (error b)).mpr ⟨b, hb, rfl⟩
    rw [hx] at herror
    cases herror

theorem outcome_bind_of_ok {a : α} (h : x.outcome = .ok a) :
    (x >>= f).outcome = (f a).outcome := by
  rcases x with ⟨records, r⟩
  cases h
  rfl

theorem outcome_bind_of_error {e : ε} (h : x.outcome = .error e) :
    (x >>= f).outcome = .error e := by
  rcases x with ⟨records, r⟩
  cases h
  rfl

theorem outcome_bind_congr {g : α → Logged ε β} (h : ∀ a, (f a).outcome = (g a).outcome) :
    (x >>= f).outcome = (x >>= g).outcome := by
  rcases x with ⟨records, e | a⟩
  · rfl
  · exact h a

theorem outcome_bind_eq_ok_iff {b : β} :
    (x >>= f).outcome = .ok b ↔ ∃ a, x.outcome = .ok a ∧ (f a).outcome = .ok b := by
  rcases x with ⟨records, e | a⟩
  · simp
  · simp

theorem outcome_bind_eq_error_iff {e : ε} :
    (x >>= f).outcome = .error e ↔
      x.outcome = .error e ∨ ∃ a, x.outcome = .ok a ∧ (f a).outcome = .error e := by
  rcases x with ⟨records, e' | a⟩
  · simp
  · simp

theorem outcome_ite_none_eq_some_iff {c : Bool} {o : Logged ε (Option α)} {a : α} :
    (if c then o else pure none).outcome = .ok (some a) ↔ c = true ∧ o.outcome = .ok (some a) := by
  cases c <;> simp

theorem outcome_ite_none_eq_error_iff {c : Bool} {o : Logged ε (Option α)} {e : ε} :
    (if c then o else pure none).outcome = .error e ↔ c = true ∧ o.outcome = .error e := by
  cases c <;> simp

/-- Optional work gives something just where it is called for and has something to find. -/
theorem isSome_outcome_ite_iff {c : Bool} {o : Logged ε (Option α)} {p : Prop}
    (hnone : o.outcome = .ok none ↔ ¬p) {found : Option α}
    (h : (if c then o else pure none).outcome = .ok found) :
    found.isSome = true ↔ c = true ∧ p := by
  cases c with
  | false =>
      cases h
      simp
  | true =>
      rw [if_pos rfl] at h
      cases found with
      | none => simpa using hnone.mp h
      | some a => simpa [h] using hnone

theorem outcome_mapM_option_eq_some_iff {o : Option α} {b : β} :
    (o.mapM f).outcome = .ok (some b) ↔ ∃ a, o = some a ∧ (f a).outcome = .ok b := by
  cases o with
  | none => simp
  | some a => simp [map_eq_pure_bind, outcome_bind_eq_ok_iff]

theorem outcome_mapM_option_eq_error_iff {o : Option α} {e : ε} :
    (o.mapM f).outcome = .error e ↔ ∃ a, o = some a ∧ (f a).outcome = .error e := by
  cases o with
  | none => simp
  | some a => simp [map_eq_pure_bind, outcome_bind_eq_error_iff]

theorem outcome_mapM_eq_ok_iff {as : List α} {bs : List β} :
    (as.mapM f).outcome = .ok bs ↔ List.Forall₂ (fun a b => (f a).outcome = .ok b) as bs := by
  induction as generalizing bs with
  | nil => cases bs <;> simp
  | cons a as ih =>
      simp only [List.mapM_cons, List.forall₂_cons_left_iff, outcome_bind_eq_ok_iff, outcome_pure]
      constructor
      · rintro ⟨b, hb, rest, hrest, heq⟩
        cases heq
        exact ⟨b, rest, hb, ih.mp hrest, rfl⟩
      · rintro ⟨b, rest, hb, hrest, rfl⟩
        exact ⟨b, hb, rest, ih.mpr hrest, rfl⟩

theorem exists_of_mem_outcome_mapM {as : List α} {bs : List β} {b : β}
    (h : (as.mapM f).outcome = .ok bs) (hb : b ∈ bs) : ∃ a ∈ as, (f a).outcome = .ok b := by
  induction outcome_mapM_eq_ok_iff.mp h with
  | nil => cases hb
  | @cons a c as cs hac hrest ih =>
      rcases List.mem_cons.mp hb with rfl | hb
      · exact ⟨a, List.mem_cons_self, hac⟩
      · obtain ⟨a', ha', hab⟩ := ih (outcome_mapM_eq_ok_iff.mpr hrest) hb
        exact ⟨a', List.mem_cons_of_mem a ha', hab⟩

theorem exists_getElem?_of_outcome_mapM {as : List α} {bs : List β} {i : Nat} {a : α}
    (h : (as.mapM f).outcome = .ok bs) (ha : as[i]? = some a) :
    ∃ b, bs[i]? = some b ∧ (f a).outcome = .ok b := by
  obtain ⟨hlength, hall⟩ := List.forall₂_iff_get.mp (outcome_mapM_eq_ok_iff.mp h)
  obtain ⟨hi, rfl⟩ := List.getElem?_eq_some_iff.mp ha
  exact ⟨bs[i], List.getElem?_eq_getElem (hlength ▸ hi), hall i hi (hlength ▸ hi)⟩

theorem outcome_mapM_eq_ok_nil_iff {as : List α} : (as.mapM f).outcome = .ok [] ↔ as = [] := by
  rw [outcome_mapM_eq_ok_iff, List.forall₂_nil_right_iff]

theorem outcome_mapM_of_ok {g : α → β} {as : List α}
    (h : ∀ a ∈ as, (f a).outcome = .ok (g a)) : (as.mapM f).outcome = .ok (as.map g) := by
  rw [outcome_mapM_eq_ok_iff, List.forall₂_map_right_iff, List.forall₂_same]
  exact h

/-- A field that every result takes from its argument is in the results as it is in the
arguments. -/
theorem map_eq_map_of_outcome_mapM {γ : Type} {g : α → γ} {k : β → γ} {as : List α} {bs : List β}
    (hf : ∀ a b, (f a).outcome = .ok b → k b = g a) (h : (as.mapM f).outcome = .ok bs) :
    bs.map k = as.map g := by
  induction outcome_mapM_eq_ok_iff.mp h with
  | nil => rfl
  | @cons a b as bs hab hrest ih =>
      rw [List.map_cons, List.map_cons, hf a b hab, ih (outcome_mapM_eq_ok_iff.mpr hrest)]

/-- Where one argument fails under a condition, a list fails on the first argument that meets it. -/
theorem outcome_mapM_eq_error_iff {p : α → Bool} {error : α → ε} {as : List α} {e : ε}
    (hf : ∀ a e, (f a).outcome = .error e ↔ p a = true ∧ e = error a) :
    (as.mapM f).outcome = .error e ↔ ∃ a, as.find? p = some a ∧ e = error a := by
  induction as with
  | nil => simp
  | cons a as ih =>
      simp only [List.mapM_cons, outcome_bind_eq_error_iff, outcome_pure, ih]
      cases hp : p a with
      | true =>
          have herror : (f a).outcome = .error (error a) := (hf a _).mpr ⟨hp, rfl⟩
          simp [herror, hp, eq_comm]
      | false =>
          have hnot : ∀ e, (f a).outcome ≠ .error e := by
            intro e he
            rw [((hf a e).mp he).1] at hp
            cases hp
          obtain ⟨b, hb⟩ : ∃ b, (f a).outcome = .ok b := by
            rcases h : (f a).outcome with e | b
            · exact absurd h (hnot e)
            · exact ⟨b, rfl⟩
          simp [hb, hp]

end StatementSegments.Logged
