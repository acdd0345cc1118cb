import Mathlib.Data.List.Forall2

/-!
# Computations that may fail

A computation in steps succeeds exactly when each step does. `bind_eq_ok` says so for two steps,
`mapM_eq_ok` for one step over a list and `ite_error_eq_ok` for a gate in front of a step; `map_eq_ok`
and `mapError_eq_error` are about answers that are worked on and failures in other words. Proofs open a
computation through these laws.
-/

namespace WordStrip

variable {ε ε' α β : Type}

/-- A step behind an answer takes the answer. -/
theorem ok_bind (a : α) (f : α → Except ε β) : (Except.ok a >>= f) = f a := rfl

/-- Two steps succeed when the first does and the second does on its answer. -/
theorem bind_eq_ok {x : Except ε α} {f : α → Except ε β} {b : β} :
    (x >>= f) = .ok b ↔ ∃ a, x = .ok a ∧ f a = .ok b := by
  cases x with
  | error e => exact ⟨fun h => (nomatch h), fun ⟨_, h, _⟩ => (nomatch h)⟩
  | ok a => exact ⟨fun h => ⟨a, rfl, h⟩, fun ⟨_, same, h⟩ => Except.ok.inj same ▸ h⟩

/-- Two steps fail when the first does, or the second does on its answer. -/
theorem bind_eq_error {x : Except ε α} {f : α → Except ε β} {e : ε} :
    (x >>= f) = .error e ↔ x = .error e ∨ ∃ a, x = .ok a ∧ f a = .error e := by
  cases x with
  | error e' =>
    refine ⟨fun h => .inl (congrArg _ (Except.error.inj h)), ?_⟩
    rintro (h | ⟨_, h, _⟩)
    · exact congrArg _ (Except.error.inj h)
    · exact nomatch h
  | ok a =>
    refine ⟨fun h => .inr ⟨a, rfl, h⟩, ?_⟩
    rintro (h | ⟨_, same, h⟩)
    · exact nomatch h
    · exact Except.ok.inj same ▸ h

/-- A step that only answers succeeds with its answer. -/
theorem pure_eq_ok {a b : α} : (pure a : Except ε α) = .ok b ↔ a = b :=
  ⟨Except.ok.inj, congrArg _⟩

/-- A gate that refuses lets the rest through exactly when it is not closed. -/
theorem ite_error_eq_ok {p : Prop} [Decidable p] {e : ε} {x : Except ε α} {a : α} :
    (if p then .error e else x) = .ok a ↔ ¬ p ∧ x = .ok a := by
  by_cases closed : p
  · rw [if_pos closed]
    exact ⟨fun h => (nomatch h), fun h => absurd closed h.1⟩
  · rw [if_neg closed]
    exact ⟨fun h => ⟨closed, h⟩, fun h => h.2⟩

/-- An answer that is worked on comes from an answer. -/
theorem map_eq_ok {x : Except ε α} {f : α → β} {b : β} :
    x.map f = .ok b ↔ ∃ a, x = .ok a ∧ f a = b := by
  cases x with
  | error e => exact ⟨fun h => (nomatch h), fun ⟨_, h, _⟩ => (nomatch h)⟩
  | ok a => exact ⟨fun h => ⟨a, rfl, Except.ok.inj h⟩,
      fun ⟨_, same, h⟩ => congrArg _ (Except.ok.inj same ▸ h)⟩

/-- Working on the answer leaves a failure. -/
theorem map_eq_error {x : Except ε α} {f : α → β} {e : ε} : x.map f = .error e ↔ x = .error e := by
  cases x with
  | error fault =>
    exact ⟨fun h => congrArg _ (Except.error.inj h), fun h => congrArg _ (Except.error.inj h)⟩
  | ok a => exact ⟨fun h => (nomatch h), fun h => (nomatch h)⟩

/-- A failure in other words is no success. -/
theorem mapError_eq_ok {x : Except ε α} {f : ε → ε'} {a : α} : x.mapError f = .ok a ↔ x = .ok a := by
  cases x with
  | error e => exact ⟨fun h => (nomatch h), fun h => (nomatch h)⟩
  | ok b => exact ⟨fun h => congrArg _ (Except.ok.inj h), fun h => congrArg _ (Except.ok.inj h)⟩

/-- A failure in other words comes from a failure. -/
theorem mapError_eq_error {x : Except ε α} {f : ε → ε'} {e : ε'} :
    x.mapError f = .error e ↔ ∃ fault, x = .error fault ∧ f fault = e := by
  cases x with
  | error fault => exact ⟨fun h => ⟨fault, rfl, Except.error.inj h⟩,
      fun ⟨_, same, h⟩ => congrArg _ (Except.error.inj same ▸ h)⟩
  | ok a => exact ⟨fun h => (nomatch h), fun ⟨_, h, _⟩ => (nomatch h)⟩

/-- Two steps fail in other words when each step does. -/
theorem mapError_bind (x : Except ε α) (f : α → Except ε β) (g : ε → ε') :
    (x >>= f).mapError g = x.mapError g >>= fun a => (f a).mapError g := by
  cases x <;> rfl

/-- A step over a list succeeds when it does on each item. -/
theorem mapM_eq_ok {f : α → Except ε β} {xs : List α} {ys : List β} :
    xs.mapM f = .ok ys ↔ List.Forall₂ (fun x y => f x = .ok y) xs ys := by
  induction xs generalizing ys with
  | nil => rw [List.mapM_nil, pure_eq_ok, List.forall₂_nil_left_iff, eq_comm]
  | cons x rest ih =>
    simp only [List.mapM_cons, bind_eq_ok, pure_eq_ok, ih, List.forall₂_cons_left_iff]
    constructor
    · rintro ⟨y, first, later, answered, rfl⟩
      exact ⟨y, later, first, answered, rfl⟩
    · rintro ⟨y, later, first, answered, rfl⟩
      exact ⟨y, first, later, answered, rfl⟩

/-- A step over a list fails on the first item where it does. -/
theorem mapM_eq_error {f : α → Except ε β} {xs : List α} {e : ε} :
    xs.mapM f = .error e ↔
      ∃ front x back, xs = front ++ x :: back ∧ (∀ y ∈ front, ∃ b, f y = .ok b) ∧ f x = .error e := by
  induction xs with
  | nil => simp [pure, Except.pure]
  | cons x rest ih =>
    simp only [List.mapM_cons, bind_eq_error, ih]
    constructor
    · rintro (failed | ⟨b, answered, ⟨front, y, back, rfl, before, failed⟩ | ⟨_, _, done⟩⟩)
      · exact ⟨[], x, rest, rfl, nofun, failed⟩
      · exact ⟨x :: front, y, back, rfl, List.forall_mem_cons.mpr ⟨⟨b, answered⟩, before⟩, failed⟩
      · exact nomatch done
    · rintro ⟨front, y, back, split, before, failed⟩
      cases front with
      | nil =>
        obtain ⟨rfl, -⟩ := List.cons.inj split
        exact .inl failed
      | cons first front =>
        obtain ⟨rfl, rfl⟩ := List.cons.inj split
        obtain ⟨⟨b, answered⟩, before⟩ := List.forall_mem_cons.mp before
        exact .inr ⟨b, answered, .inl ⟨front, y, back, rfl, before, failed⟩⟩

/-- Whether a computation succeeds with a given answer can be computed. -/
instance decidableEqOk [DecidableEq α] (x : Except ε α) (a : α) : Decidable (x = .ok a) :=
  match x with
  | .ok b => decidable_of_iff (b = a) ⟨congrArg _, Except.ok.inj⟩
  | .error _ => isFalse nofun

end WordStrip
