import Quire.Failure

/-! Notes taken along the way. An attempt keeps the notes made before it failed. -/

namespace Quire

inductive Severity
  | debug | info | warning | error
  deriving DecidableEq, Repr

def Severity.name : Severity → String
  | .debug => "DEBUG"
  | .info => "INFO"
  | .warning => "WARNING"
  | .error => "ERROR"

def Severity.rank : Severity → Nat
  | .debug => 10
  | .info => 20
  | .warning => 30
  | .error => 40

structure Note where
  severity : Severity
  text : String
  deriving DecidableEq, Repr

structure Attempt (α : Type) where
  notes : List Note
  result : Outcome α

namespace Attempt

def pure {α : Type} (a : α) : Attempt α := ⟨[], .ok a⟩

def bind {α β : Type} (x : Attempt α) (f : α → Attempt β) : Attempt β :=
  match x.result with
  | .ok a => ⟨x.notes ++ (f a).notes, (f a).result⟩
  | .error e => ⟨x.notes, .error e⟩

instance : Monad Attempt where
  pure := pure
  bind := bind

def ofOutcome {α : Type} (r : Outcome α) : Attempt α := ⟨[], r⟩

instance : MonadLift (Except Failure) Attempt where
  monadLift := ofOutcome

def fail {α : Type} (e : Failure) : Attempt α := ⟨[], .error e⟩

def note (severity : Severity) (text : String) : Attempt Unit := ⟨[⟨severity, text⟩], .ok ()⟩

theorem bind_assoc {α β γ : Type} (x : Attempt α) (f : α → Attempt β) (g : β → Attempt γ) :
    (x.bind f).bind g = x.bind fun a => (f a).bind g := by
  obtain ⟨notes, _ | a⟩ := x
  · rfl
  · simp only [bind]
    cases h : (f a).result <;> simp

@[simp] theorem pure_bind {α β : Type} (a : α) (f : α → Attempt β) : (pure a).bind f = f a := by
  simp [pure, bind]

@[simp] theorem result_bind {α β : Type} (x : Attempt α) (f : α → Attempt β) :
    (x.bind f).result = x.result.bind fun a => (f a).result := by
  obtain ⟨notes, _ | a⟩ := x <;> rfl

end Attempt
end Quire
