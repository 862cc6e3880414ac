import Mathlib.Data.List.Basic

/-! # Runs that get somewhere

A measure that every step lowers, as long as it is not zero, is zero after as many steps as it was
high.
-/

namespace Progress

variable {σ ι : Type} {step : σ → ι → σ} {Inv : σ → Prop} {P : ι → Prop} {measure : σ → Nat}

theorem foldl_inv (hinv : ∀ s i, Inv s → P i → Inv (step s i)) {is : List ι} (his : ∀ i ∈ is, P i)
    {s : σ} (hs : Inv s) : Inv (is.foldl step s) := by
  induction is generalizing s with
  | nil => exact hs
  | cons i is ih =>
    exact ih (fun j hj => his j (List.mem_cons_of_mem i hj)) (hinv s i hs (his i List.mem_cons_self))

variable (measure) in
theorem foldl_measure_eq_zero (hinv : ∀ s i, Inv s → P i → Inv (step s i))
    (hlower : ∀ s i, Inv s → P i → measure (step s i) ≤ measure s - 1) {is : List ι}
    (his : ∀ i ∈ is, P i) {s : σ} (hs : Inv s) (henough : measure s ≤ is.length) :
    measure (is.foldl step s) = 0 := by
  induction is generalizing s with
  | nil => exact Nat.le_zero.mp henough
  | cons i is ih => grind

end Progress
