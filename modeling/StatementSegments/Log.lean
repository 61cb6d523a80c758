/-!
Computations that keep a log and may fail. The records of a computation come before those of what
follows it, and a failure keeps the records made up to it.
-/
namespace StatementSegments

inductive LogLevel where
  | error
  | warn
  | info
  | debug
  | trace
  deriving DecidableEq, Repr

structure LogRecord where
  level : LogLevel
  message : String
  deriving DecidableEq, Repr

structure Logged (ε α : Type) where
  records : List LogRecord
  outcome : Except ε α

namespace Logged

variable {ε α β : Type}

def ofExcept (outcome : Except ε α) : Logged ε α :=
  ⟨[], outcome⟩

def fail (error : ε) : Logged ε α :=
  ofExcept (.error error)

def log (level : LogLevel) (message : String) : Logged ε Unit :=
  ⟨[⟨level, message⟩], .ok ()⟩

/-- Add what a continuation logs, and take its outcome. -/
def andThen (records : List LogRecord) (next : Logged ε α) : Logged ε α :=
  ⟨records ++ next.records, next.outcome⟩

protected def bind (x : Logged ε α) (f : α → Logged ε β) : Logged ε β :=
  match x.outcome with
  | .ok a => andThen x.records (f a)
  | .error error => ⟨x.records, .error error⟩

instance : Monad (Logged ε) where
  pure a := ofExcept (.ok a)
  bind := Logged.bind

@[simp]
theorem pure_eq (a : α) : (pure a : Logged ε α) = ⟨[], .ok a⟩ :=
  rfl

@[simp]
theorem bind_ok (records : List LogRecord) (a : α) (f : α → Logged ε β) :
    (⟨records, .ok a⟩ : Logged ε α) >>= f = ⟨records ++ (f a).records, (f a).outcome⟩ :=
  rfl

@[simp]
theorem bind_error (records : List LogRecord) (error : ε) (f : α → Logged ε β) :
    (⟨records, .error error⟩ : Logged ε α) >>= f = ⟨records, .error error⟩ :=
  rfl

instance : LawfulMonad (Logged ε) := LawfulMonad.mk' (Logged ε)
  (by rintro α ⟨records, _ | _⟩ <;> simp [Functor.map, Logged.bind, andThen, ofExcept])
  (by intro α β a f; simp)
  (by rintro α β γ ⟨records, _ | a⟩ f g
      · simp
      · rcases h : f a with ⟨records', _ | b⟩ <;> simp [h, List.append_assoc])

/-- Log the message of a failure that arises here. -/
def reporting (level : LogLevel) (message : ε → String) (x : Logged ε α) : Logged ε α :=
  match x.outcome with
  | .ok _ => x
  | .error error => ⟨x.records ++ [⟨level, message error⟩], .error error⟩

end Logged

end StatementSegments
