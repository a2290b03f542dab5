import CameraScript.Event
import CameraScript.Fault

/-!
# Runs with a log

* `Logged α`: what a run reported and how it ended. A failed run keeps the events that it
  reported before it failed.
* `Logged.bind_assoc`, `Logged.pure_bind`, `Logged.bind_pure`: the events of a sequence of
  runs are the events of its parts in order.
-/

namespace CameraScript

structure Logged (α : Type) where
  events : List Event
  result : Except Fault α

namespace Logged

variable {α β γ : Type}

def pure (a : α) : Logged α := ⟨[], .ok a⟩

/-- Runs `next` on the result of `run`, if there is one. -/
def bind (run : Logged α) (next : α → Logged β) : Logged β :=
  match run.result with
  | .ok a => ⟨run.events ++ (next a).events, (next a).result⟩
  | .error fault => ⟨run.events, .error fault⟩

instance : Monad Logged where
  pure := pure
  bind := bind

def report (events : List Event) : Logged Unit := ⟨events, .ok ()⟩

/-- A step that reports nothing. -/
def ofExcept (result : Except Fault α) : Logged α := ⟨[], result⟩

def fail (fault : Fault) : Logged α := ⟨[], .error fault⟩

/-! ## Laws -/

@[ext] theorem ext {x y : Logged α} (events : x.events = y.events)
    (result : x.result = y.result) : x = y := by
  cases x
  cases y
  simp_all

theorem pure_bind (a : α) (next : α → Logged β) : (pure a).bind next = next a := by
  simp [pure, bind]

theorem bind_pure (run : Logged α) : run.bind pure = run := by
  rcases run with ⟨events, _ | _⟩ <;> simp [pure, bind]

theorem bind_assoc (run : Logged α) (next : α → Logged β) (last : β → Logged γ) :
    (run.bind next).bind last = run.bind fun a => (next a).bind last := by
  rcases run with ⟨events, _ | a⟩
  · rfl
  · simp only [bind]
    rcases hn : (next a).result with _ | _ <;> simp

instance : LawfulMonad Logged :=
  LawfulMonad.mk' Logged bind_pure pure_bind bind_assoc

end Logged

end CameraScript
