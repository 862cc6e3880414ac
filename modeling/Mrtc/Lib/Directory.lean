import Mathlib.Data.List.ReduceOption
import Mathlib.Logic.Function.Basic

/-! # A table that finds who has a key

Some members of a list have a key, and a table is to lead from a key to the place of the member that
has it.
-/

namespace Directory

open List Function

variable {κ : Type} {table : κ → Option Nat} {keys : List (Option κ)} {old : Option κ} {k : κ}
  {i j : Nat}

def Leads (table : κ → Option Nat) (keys : List (Option κ)) : Prop :=
  ∀ k i, table k = some i → keys[i]? = some (some k)

def Exact (table : κ → Option Nat) (keys : List (Option κ)) : Prop :=
  ∀ k i, table k = some i ↔ keys[i]? = some (some k)

theorem leads_none (keys : List (Option κ)) : Leads (fun _ => none) keys := nofun

theorem Leads.append (h : Leads table keys) (key : Option κ) : Leads table (keys ++ [key]) := by
  intro k' j hentry
  have hkey := h k' j hentry
  exact (getElem?_append_left (List.getElem?_eq_some_iff.mp hkey).1).trans hkey

theorem Exact.leads (h : Exact table keys) : Leads table keys := fun k i => (h k i).mp

theorem exact_none : Exact (fun _ : κ => none) [] := fun _ _ => ⟨nofun, nofun⟩

theorem Exact.append_none (h : Exact table keys) : Exact table (keys ++ [none]) := by
  refine fun k' j => ⟨h.leads.append none k' j, fun hj => (h k' j).mpr ?_⟩
  rw [getElem?_append] at hj
  split at hj
  · exact hj
  · cases mem_singleton.mp (mem_of_getElem? hj)

theorem eq_of_nodup (hnodup : keys.reduceOption.Nodup) (hi : keys[i]? = some (some k))
    (hj : keys[j]? = some (some k)) : i = j := by
  induction keys generalizing i j with
  | nil => cases hi
  | cons key keys ih =>
    -- a key at the front is at no other place
    have hfront : ∀ n : Nat, key = some k → keys[n]? ≠ some (some k) := by
      rintro n rfl hn
      rw [reduceOption_cons_of_some, nodup_cons] at hnodup
      exact hnodup.1 (reduceOption_mem_iff.mpr (mem_of_getElem? hn))
    have hrest : keys.reduceOption.Nodup := by
      cases key with
      | none => rwa [reduceOption_cons_of_none] at hnodup
      | some _ =>
        rw [reduceOption_cons_of_some, nodup_cons] at hnodup
        exact hnodup.2
    cases i with
    | zero => grind
    | succ i => grind

variable [DecidableEq κ]

def release (table : κ → Option Nat) : Option κ → κ → Option Nat
  | some k => update table k none
  | none => table

section

variable (h : Leads table keys)
include h

theorem Leads.of_release (hi : keys[i]? = some old) {k' : κ}
    (hentry : release table old k' = some j) : table k' = some j ∧ j ≠ i := by
  cases old with
  | none =>
    refine ⟨hentry, ?_⟩
    rintro rfl
    cases hi.symm.trans (h k' j hentry)
  | some k =>
    rw [release, update_apply] at hentry
    split at hentry
    · cases hentry
    · next hne =>
        refine ⟨hentry, ?_⟩
        rintro rfl
        cases hi.symm.trans (h k' j hentry)
        exact hne rfl

theorem Leads.release (hi : keys[i]? = some old) : Leads (release table old) (keys.set i none) := by
  intro k' j hentry
  obtain ⟨hentry', hne⟩ := h.of_release hi hentry
  exact (getElem?_set_ne hne.symm).trans (h k' j hentry')

theorem Leads.assign (hi : keys[i]? = some old) (k : κ) :
    Leads (update (Directory.release table old) k (some i)) (keys.set i (some k)) := by
  intro k' j hentry
  rw [update_apply] at hentry
  split at hentry
  · grind
  · obtain ⟨hentry', hne⟩ := h.of_release hi hentry
    exact (getElem?_set_ne hne.symm).trans (h k' j hentry')

end

section

variable (h : Exact table keys)
include h

section

variable (hi : keys[i]? = some old)
include hi

theorem Exact.release_of_ne {k' : κ} (hj : keys[j]? = some (some k')) (hne : j ≠ i) :
    Directory.release table old k' = some j := by
  have hentry := (h k' j).mpr hj
  cases old with
  | none => exact hentry
  | some k =>
    have hother : k' ≠ k := by
      rintro rfl
      exact hne (Option.some.inj (hentry.symm.trans ((h k' i).mpr hi)))
    exact (update_of_ne hother _ _).trans hentry

theorem Exact.release : Exact (Directory.release table old) (keys.set i none) := by
  refine fun k' j => ⟨h.leads.release hi k' j, fun hj => ?_⟩
  rw [getElem?_set] at hj
  split at hj
  · split at hj <;> cases hj
  · next hne => exact h.release_of_ne hi hj (Ne.symm hne)

theorem Exact.assign (hfree : ∀ j, j ≠ i → keys[j]? ≠ some (some k)) :
    Exact (update (Directory.release table old) k (some i)) (keys.set i (some k)) := by
  refine fun k' j => ⟨h.leads.assign hi k k' j, fun hj => ?_⟩
  rw [getElem?_set] at hj
  split at hj
  · grind
  · next hne =>
      have hother : k' ≠ k := by
        rintro rfl
        exact hfree j (Ne.symm hne) hj
      exact (update_of_ne hother _ _).trans (h.release_of_ne hi hj (Ne.symm hne))

end

theorem Exact.append (hfree : some k ∉ keys) :
    Exact (update table k (some keys.length)) (keys ++ [some k]) := by
  intro k' j
  rw [update_apply]
  split
  · next heq =>
      subst heq
      constructor
      · rintro ⟨⟩
        exact getElem?_concat_length
      · grind
  · next hne =>
      constructor
      · exact h.leads.append (some k) k' j
      · intro hj
        rw [getElem?_append] at hj
        split at hj
        · exact (h k' j).mpr hj
        · exact absurd (Option.some.inj (mem_singleton.mp (mem_of_getElem? hj))) hne

/-! ## What breaks it -/

theorem Exact.erase_iff (k : κ) : Exact (update table k none) keys ↔ some k ∉ keys := by
  constructor
  · intro herased hmem
    obtain ⟨i, hi⟩ := mem_iff_getElem?.mp hmem
    have hentry := (herased k i).mpr hi
    rw [update_self] at hentry
    cases hentry
  · intro hfree k' j
    by_cases heq : k' = k
    · grind
    · rw [update_of_ne heq]
      exact h k' j

end

theorem not_exact_of_entry (hi : keys[i]? = some none) (k : κ) :
    ¬ Exact (update table k (some i)) keys := by
  intro h
  cases hi.symm.trans ((h k i).mp (update_self ..))

end Directory
