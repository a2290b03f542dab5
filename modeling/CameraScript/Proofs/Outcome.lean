import CameraScript.Logged
import Mathlib.Data.List.Forall2

/-!
# Outcomes of runs

When a sequence of steps, or a step taken for every element of a list, succeeds. The
outcome of a logged run is that of its steps without their logs.

* `Except.bind_eq_ok_iff`, `Except.mapM_eq_ok_iff`: a run succeeds exactly where its parts do.
* `Except.bind_eq_error_iff`: it fails where one of them is the first to fail.
* `Logged.result_bind`: the outcome of a sequence of logged runs.
-/

namespace CameraScript

namespace Except

variable {ε α β : Type}

theorem bind_eq_ok_iff {x : Except ε α} {next : α → Except ε β} {b : β} :
    (x >>= next) = .ok b ↔ ∃ a, x = .ok a ∧ next a = .ok b := by
  constructor
  · intro h
    cases x with
    | error e => cases h
    | ok a => exact ⟨a, rfl, h⟩
  · rintro ⟨a, rfl, h⟩
    exact h

theorem map_eq_ok_iff {x : Except ε α} {f : α → β} {b : β} :
    (do return f (← x)) = .ok b ↔ ∃ a, x = .ok a ∧ f a = b := by
  rw [bind_eq_ok_iff]
  constructor
  · rintro ⟨a, hx, h⟩
    exact ⟨a, hx, Except.ok.inj h⟩
  · rintro ⟨a, hx, rfl⟩
    exact ⟨a, hx, rfl⟩

theorem bind_eq_error_iff {x : Except ε α} {next : α → Except ε β} {e : ε} :
    (x >>= next) = .error e ↔ x = .error e ∨ ∃ a, x = .ok a ∧ next a = .error e := by
  cases x with
  | error e' =>
    constructor
    · intro h
      cases h
      exact .inl rfl
    · rintro (h | ⟨_, h, -⟩)
      · cases h
        rfl
      · cases h
  | ok a =>
    constructor
    · intro h
      exact .inr ⟨a, rfl, h⟩
    · rintro (h | ⟨_, h, hnext⟩)
      · cases h
      · cases h
        exact hnext

theorem map_eq_error_iff {x : Except ε α} {f : α → β} {e : ε} :
    (do return f (← x)) = Except.error e ↔ x = .error e := by
  rw [bind_eq_error_iff]
  constructor
  · rintro (h | ⟨_, -, h⟩)
    · exact h
    · cases h
  · exact .inl

/-- A run whose failure is known is known to succeed otherwise. -/
theorem eq_error_iff_and_exists_ok_iff {x : Except ε α} {failure : Option ε}
    (h : (∃ e, failure = some e ∧ x = .error e) ∨ (failure = none ∧ ∃ a, x = .ok a)) :
    (∀ e, x = .error e ↔ failure = some e) ∧ ((∃ a, x = .ok a) ↔ failure = none) := by
  rcases h with ⟨e, rfl, rfl⟩ | ⟨rfl, a, rfl⟩
  · simp
  · simp

theorem mapM_eq_ok_iff {f : α → Except ε β} {xs : List α} {ys : List β} :
    xs.mapM f = .ok ys ↔ List.Forall₂ (fun x y => f x = .ok y) xs ys := by
  induction xs generalizing ys with
  | nil =>
    rw [List.mapM_nil, List.forall₂_nil_left_iff]
    exact ⟨fun h => (Except.ok.inj h).symm, fun h => h ▸ rfl⟩
  | cons x xs ih =>
    rw [List.mapM_cons, bind_eq_ok_iff, List.forall₂_cons_left_iff]
    constructor
    · rintro ⟨y, hy, h⟩
      obtain ⟨rest, hrest, rfl⟩ := map_eq_ok_iff.1 h
      exact ⟨y, rest, hy, ih.1 hrest, rfl⟩
    · rintro ⟨y, rest, hy, hrest, rfl⟩
      exact ⟨y, hy, map_eq_ok_iff.2 ⟨rest, ih.2 hrest, rfl⟩⟩

theorem mapM_append_eq_ok_iff {f : α → Except ε β} {xs xs' : List α} {ys : List β} :
    (xs ++ xs').mapM f = .ok ys ↔
      ∃ zs zs', xs.mapM f = .ok zs ∧ xs'.mapM f = .ok zs' ∧ zs ++ zs' = ys := by
  rw [List.mapM_append, bind_eq_ok_iff]
  simp only [map_eq_ok_iff]
  constructor
  · rintro ⟨zs, hzs, zs', hzs', rfl⟩
    exact ⟨zs, zs', hzs, hzs', rfl⟩
  · rintro ⟨zs, zs', hzs, hzs', rfl⟩
    exact ⟨zs, hzs, zs', hzs', rfl⟩

/-- A list of steps fails where one of them does, and for the same reason. -/
theorem exists_of_mapM_eq_error {f : α → Except ε β} {xs : List α} {e : ε}
    (h : xs.mapM f = .error e) : ∃ x ∈ xs, f x = .error e := by
  induction xs with
  | nil => cases h
  | cons x xs ih =>
    rw [List.mapM_cons, bind_eq_error_iff] at h
    rcases h with hx | ⟨_, -, hrest⟩
    · exact ⟨x, List.mem_cons_self, hx⟩
    · obtain ⟨x', hmem, hx'⟩ := ih (map_eq_error_iff.1 hrest)
      exact ⟨x', List.mem_cons_of_mem _ hmem, hx'⟩

theorem exists_mapM_eq_ok {f : α → Except ε β} {xs : List α}
    (h : ∀ x ∈ xs, ∃ y, f x = .ok y) : ∃ ys, xs.mapM f = .ok ys := by
  simp only [mapM_eq_ok_iff]
  induction xs with
  | nil => exact ⟨[], .nil⟩
  | cons x xs ih =>
    obtain ⟨y, hy⟩ := h x List.mem_cons_self
    obtain ⟨ys, hys⟩ := ih fun x hx => h x (List.mem_cons_of_mem _ hx)
    exact ⟨y :: ys, .cons hy hys⟩

end Except

namespace Logged

variable {α β : Type}

@[simp] theorem result_bind (run : Logged α) (next : α → Logged β) :
    (run >>= next).result = run.result >>= fun a => (next a).result := by
  change (run.bind next).result = _
  unfold Logged.bind
  cases run.result with
  | error fault => rfl
  | ok a => rfl

/-- A sequence of runs none of which ends with `fault` does not. -/
theorem result_bind_ne_error {run : Logged α} {next : α → Logged β} {fault : Fault}
    (h : run.result ≠ .error fault) (hnext : ∀ a, (next a).result ≠ .error fault) :
    (run >>= next).result ≠ .error fault := by
  rw [result_bind, Ne, Except.bind_eq_error_iff]
  rintro (hrun | ⟨a, -, ha⟩)
  · exact h hrun
  · exact hnext a ha

@[simp] theorem result_pure (a : α) : (Pure.pure a : Logged α).result = .ok a := rfl

@[simp] theorem result_ofExcept (result : Except Fault α) :
    (ofExcept result).result = result := rfl

@[simp] theorem result_report (events : List Event) : (report events).result = .ok () := rfl

@[simp] theorem result_fail (fault : Fault) :
    (fail fault : Logged α).result = .error fault := rfl

end Logged

end CameraScript
