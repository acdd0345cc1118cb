import Mathlib.Order.Bounds.Basic
import Mathlib.Order.MinMax

/-!
# Alignments

An alignment turns one list of letters into another from left to right, in steps. A step keeps a letter,
puts one in the place of another, leaves one out, adds one, or exchanges two neighbours. Each letter of
either list belongs to one step, so nothing is edited twice; in particular, two letters that were
exchanged stay as they are. A step that keeps a letter is free and every other one costs one edit.

The type of an alignment says what it turns into what, so there are no others. `Alignment.inverse` reads
an alignment backwards, at the same cost.

`LeastCost as bs n` says that `n` is the cost of some alignment of `as` to `bs` and that none is cheaper.
It is a statement about all alignments and about no way to compute the cost. What it has to do with a
computation are `LeastCost.cons_cons` and `LeastCost.exchange`: an alignment of two lists with first
letters begins with one of five steps, and what it goes on with is an alignment of shorter lists, so the
least costs of these are all that one has to know.
-/

namespace WordStrip

/-- The ways to turn one list of letters into another by edits from left to right. -/
inductive Alignment : List Char → List Char → Type
  | done : Alignment [] []
  | keep {as bs : List Char} (c : Char) (rest : Alignment as bs) : Alignment (c :: as) (c :: bs)
  | substitute {as bs : List Char} (a b : Char) (rest : Alignment as bs) :
      Alignment (a :: as) (b :: bs)
  | delete {as bs : List Char} (a : Char) (rest : Alignment as bs) : Alignment (a :: as) bs
  | insert {as bs : List Char} (b : Char) (rest : Alignment as bs) : Alignment as (b :: bs)
  | exchange {as bs : List Char} (a b : Char) (rest : Alignment as bs) :
      Alignment (a :: b :: as) (b :: a :: bs)

namespace Alignment

variable {as bs : List Char}

/-- The count of edits. -/
def cost : {as bs : List Char} → Alignment as bs → Nat
  | _, _, done => 0
  | _, _, keep _ rest => rest.cost
  | _, _, substitute _ _ rest => rest.cost + 1
  | _, _, delete _ rest => rest.cost + 1
  | _, _, insert _ rest => rest.cost + 1
  | _, _, exchange _ _ rest => rest.cost + 1

/-- The alignment read backwards: what was left out is added and what was added is left out. -/
def inverse : {as bs : List Char} → Alignment as bs → Alignment bs as
  | _, _, done => done
  | _, _, keep c rest => keep c rest.inverse
  | _, _, substitute a b rest => substitute b a rest.inverse
  | _, _, delete a rest => insert a rest.inverse
  | _, _, insert b rest => delete b rest.inverse
  | _, _, exchange a b rest => exchange b a rest.inverse

@[simp] theorem cost_inverse (steps : Alignment as bs) : steps.inverse.cost = steps.cost := by
  induction steps with
  | done => rfl
  | keep _ _ ih => exact ih
  | substitute _ _ _ ih | delete _ _ ih | insert _ _ ih | exchange _ _ _ ih =>
    exact congrArg (· + 1) ih

/-- The alignment of a list to itself that keeps every letter. -/
def refl : (cs : List Char) → Alignment cs cs
  | [] => done
  | c :: cs => keep c (refl cs)

@[simp] theorem cost_refl (cs : List Char) : (refl cs).cost = 0 := by
  induction cs with
  | nil => rfl
  | cons c cs ih => exact ih

/-- An alignment without edits keeps every letter. -/
theorem eq_of_cost_eq_zero {steps : Alignment as bs} (free : steps.cost = 0) : as = bs := by
  induction steps with
  | done => rfl
  | keep c rest ih => exact congrArg (c :: ·) (ih free)
  | substitute _ _ _ _ | delete _ _ _ | insert _ _ _ | exchange _ _ _ _ =>
    exact absurd free (Nat.succ_ne_zero _)

/-- An edit makes a list longer by one letter at most. -/
theorem length_le_add_cost (steps : Alignment as bs) : bs.length ≤ as.length + steps.cost := by
  induction steps with
  | done => exact Nat.le_refl _
  | keep _ _ ih | substitute _ _ _ ih | delete _ _ ih | insert _ _ ih | exchange _ _ _ ih =>
    simp only [List.length_cons, cost]
    omega

/-- The alignment that adds every letter. -/
def added : (bs : List Char) → Alignment [] bs
  | [] => done
  | b :: bs => insert b (added bs)

@[simp] theorem cost_added (bs : List Char) : (added bs).cost = bs.length := by
  induction bs with
  | nil => rfl
  | cons b bs ih => exact congrArg (· + 1) ih

/-- The alignment that keeps no letter: one after the other is substituted, and what is left of the
longer list is left out or added. -/
def wholesale : (as bs : List Char) → Alignment as bs
  | [], bs => added bs
  | a :: as, [] => delete a (wholesale as [])
  | a :: as, b :: bs => substitute a b (wholesale as bs)

theorem cost_wholesale (as bs : List Char) : (wholesale as bs).cost = max as.length bs.length := by
  induction as generalizing bs with
  | nil => simp [wholesale]
  | cons a as ih =>
    cases bs with
    | nil => simp [wholesale, cost, ih]
    | cons b bs => simp [wholesale, cost, ih]

/-- Of two costs that are attained, the smaller one is. -/
theorem exists_cost_min {m n : Nat} (one : ∃ steps : Alignment as bs, steps.cost = m)
    (other : ∃ steps : Alignment as bs, steps.cost = n) :
    ∃ steps : Alignment as bs, steps.cost = min m n := by
  rcases min_choice m n with smaller | smaller
  · rwa [smaller]
  · rwa [smaller]

/-- An alignment of two lists with first letters goes on, after its first step, with an alignment of
shorter lists. The two letters together are kept or substituted, which costs nothing only for equal
ones, or each takes part in an exchange with the letter behind it. -/
theorem first_step {a b : Char} (steps : Alignment (a :: as) (b :: bs)) :
    (∃ rest : Alignment as (b :: bs), steps.cost = rest.cost + 1) ∨
      (∃ rest : Alignment (a :: as) bs, steps.cost = rest.cost + 1) ∨
      (∃ rest : Alignment as bs, rest.cost + (if a = b then 0 else 1) ≤ steps.cost) ∨
      ∃ as' bs', as = b :: as' ∧ bs = a :: bs' ∧
        ∃ rest : Alignment as' bs', steps.cost = rest.cost + 1 := by
  cases steps with
  | delete _ rest => exact .inl ⟨rest, rfl⟩
  | insert _ rest => exact .inr (.inl ⟨rest, rfl⟩)
  | keep _ rest => exact .inr (.inr (.inl ⟨rest, by simp [cost]⟩))
  -- a letter may be substituted by itself, but to keep it is cheaper
  | substitute _ _ rest =>
    refine .inr (.inr (.inl ⟨rest, ?_⟩))
    rw [cost]
    split <;> omega
  | exchange _ _ rest => exact .inr (.inr (.inr ⟨_, _, rfl, rfl, rest, rfl⟩))

end Alignment

/-! ## Least costs -/

/-- The count is that of an alignment, and no alignment has fewer edits. -/
def LeastCost (as bs : List Char) (n : Nat) : Prop := IsLeast (Set.range (@Alignment.cost as bs)) n

namespace LeastCost

variable {as bs : List Char} {a b : Char} {m n : Nat}

theorem exists_alignment (least : LeastCost as bs n) : ∃ steps : Alignment as bs, steps.cost = n :=
  least.1

theorem le_cost (least : LeastCost as bs n) (steps : Alignment as bs) : n ≤ steps.cost :=
  least.2 (Set.mem_range_self steps)

/-- A cost that is attained and that is below all others is the least one. -/
theorem intro (attained : ∃ steps : Alignment as bs, steps.cost = n)
    (below : ∀ steps : Alignment as bs, n ≤ steps.cost) : LeastCost as bs n :=
  ⟨attained, Set.forall_mem_range.mpr below⟩

theorem unique (least : LeastCost as bs m) (other : LeastCost as bs n) : m = n :=
  IsLeast.unique least other

/-- Reading backwards costs as much. -/
theorem symm (least : LeastCost as bs n) : LeastCost bs as n := by
  obtain ⟨steps, rfl⟩ := least.exists_alignment
  refine intro ⟨steps.inverse, steps.cost_inverse⟩ fun others => ?_
  rw [← others.cost_inverse]
  exact least.le_cost others.inverse

theorem eq_zero_iff (least : LeastCost as bs n) : n = 0 ↔ as = bs := by
  constructor
  · rintro rfl
    obtain ⟨steps, free⟩ := least.exists_alignment
    exact Alignment.eq_of_cost_eq_zero free
  · rintro rfl
    exact Nat.le_zero.mp (Alignment.cost_refl as ▸ least.le_cost (.refl as))

theorem length_le_add (least : LeastCost as bs n) : bs.length ≤ as.length + n := by
  obtain ⟨steps, rfl⟩ := least.exists_alignment
  exact steps.length_le_add_cost

theorem le_max (least : LeastCost as bs n) : n ≤ max as.length bs.length :=
  Alignment.cost_wholesale as bs ▸ least.le_cost (.wholesale as bs)

/-! ### The costs of longer lists -/

/-- Out of nothing, every letter is added. -/
theorem nil_left (bs : List Char) : LeastCost [] bs bs.length := by
  refine intro ⟨.added bs, Alignment.cost_added bs⟩ fun steps => ?_
  simpa using steps.length_le_add_cost

/-- Into nothing, every letter is left out. -/
theorem cons_nil (least : LeastCost as [] n) : LeastCost (a :: as) [] (n + 1) := by
  obtain rfl : as.length = n := (nil_left as).symm.unique least
  exact (nil_left (a :: as)).symm

/-- What the cheapest first step comes to that exchanges nothing: the first letter is left out, or one
is added in front of it, or it is kept or substituted. -/
def stepCost (a b : Char) (deleted inserted replaced : Nat) : Nat :=
  min (deleted + 1) (min (inserted + 1) (replaced + if a = b then 0 else 1))

section Step

variable {d i s : Nat} (delete : LeastCost as (b :: bs) d) (insert : LeastCost (a :: as) bs i)
  (replace : LeastCost as bs s)

include delete insert replace

/-- Some alignment begins with the cheapest step. -/
theorem exists_stepCost : ∃ steps : Alignment (a :: as) (b :: bs), steps.cost = stepCost a b d i s := by
  obtain ⟨deleted, rfl⟩ := delete.exists_alignment
  obtain ⟨inserted, rfl⟩ := insert.exists_alignment
  obtain ⟨replaced, rfl⟩ := replace.exists_alignment
  apply Alignment.exists_cost_min ⟨.delete a deleted, rfl⟩
  apply Alignment.exists_cost_min ⟨.insert b inserted, rfl⟩
  -- equal letters are kept for nothing, others are substituted
  by_cases same : a = b
  · subst same
    exact ⟨.keep a replaced, by simp [Alignment.cost]⟩
  · exact ⟨.substitute a b replaced, by simp [Alignment.cost, same]⟩

/-- An alignment that begins with no exchange costs no less than the cheapest step. -/
theorem stepCost_le (steps : Alignment (a :: as) (b :: bs)) :
    stepCost a b d i s ≤ steps.cost ∨ ∃ as' bs', as = b :: as' ∧ bs = a :: bs' ∧
      ∃ rest : Alignment as' bs', steps.cost = rest.cost + 1 := by
  unfold stepCost
  rcases steps.first_step with ⟨rest, cost⟩ | ⟨rest, cost⟩ | ⟨rest, cost⟩ | exchanged
  · have := delete.le_cost rest
    omega
  · have := insert.le_cost rest
    omega
  · have := replace.le_cost rest
    omega
  · exact .inr exchanged

/-- Where the first two letters do not stand in exchanged order on the other side, the least cost is
that of the cheapest step. -/
theorem cons_cons (apart : ∀ as' bs', as = b :: as' → bs ≠ a :: bs') :
    LeastCost (a :: as) (b :: bs) (stepCost a b d i s) := by
  refine intro (exists_stepCost delete insert replace) fun steps => ?_
  rcases stepCost_le delete insert replace steps with le | ⟨as', bs', before, after, -⟩
  · exact le
  · exact absurd after (apart as' bs' before)

end Step

/-- Where they do, the exchange may be cheaper. -/
theorem exchange {d i s x : Nat} (delete : LeastCost (b :: as) (b :: a :: bs) d)
    (insert : LeastCost (a :: b :: as) (a :: bs) i) (replace : LeastCost (b :: as) (a :: bs) s)
    (behind : LeastCost as bs x) :
    LeastCost (a :: b :: as) (b :: a :: bs) (min (stepCost a b d i s) (x + 1)) := by
  refine intro ?_ fun steps => ?_
  · obtain ⟨rest, rfl⟩ := behind.exists_alignment
    exact Alignment.exists_cost_min (exists_stepCost delete insert replace) ⟨.exchange a b rest, rfl⟩
  · rcases stepCost_le delete insert replace steps with le | ⟨as', bs', before, after, rest, cost⟩
    · exact Nat.le_trans (Nat.min_le_left _ _) le
    · obtain ⟨-, rfl⟩ := List.cons.inj before
      obtain ⟨-, rfl⟩ := List.cons.inj after
      have := behind.le_cost rest
      omega

end LeastCost

end WordStrip
