import Mathlib.Tactic

/-! # Tables of independent slots

A list of slots, and operations each of which works on one slot.
-/

namespace SlotTable

variable {σ ω : Type*} (place : ω → Nat) (act : ω → σ → σ)

def step (slots : List σ) (op : ω) : List σ := slots.modify (place op) (act op)

def run (slots : List σ) (ops : List ω) : List σ := ops.foldl (step place act) slots

variable {place act}

theorem run_rel {τ : Type*} {R : σ → τ → Prop} {ref : ω → τ → τ} {i : Nat}
    (hother : ∀ op t, place op ≠ i → ref op t = t)
    (hstep : ∀ op s t, place op = i → R s t → R (act op s) (ref op t))
    {slots : List σ} {s : σ} {t : τ} (hs : slots[i]? = some s) (hR : R s t) (ops : List ω) :
    ∃ s', (run place act slots ops)[i]? = some s'
      ∧ R s' (ops.foldl (fun t op => ref op t) t) := by
  induction ops generalizing slots s t with
  | nil => exact ⟨s, hs, hR⟩
  | cons op ops ih =>
    by_cases hplace : place op = i
    · have hnext : (step place act slots op)[i]? = some (act op s) := by
        rw [step, hplace, List.getElem?_modify_eq, hs]
        rfl
      exact ih hnext (hstep op s t hplace hR)
    · have hnext : (step place act slots op)[i]? = some s := by
        rw [step, List.getElem?_modify_ne _ _ hplace, hs]
      have hkept : R s (ref op t) := by rwa [hother op t hplace]
      exact ih hnext hkept

end SlotTable
