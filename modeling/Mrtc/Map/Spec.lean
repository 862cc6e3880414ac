import Mrtc.Basic.Err
import Mathlib.Data.Set.Card

/-! # What a hash map is for

The operations of the hash maps and their results, and the map they stand for: a function from
keys to stored values.
-/

namespace Mrtc

open List

variable {κ α A σ : Type} {s : σ}

inductive MapOp (κ α A : Type) where
  | set (key : κ) (value : Option α) (alloc : A)
  | get (key : κ)
  | has (key : κ)
  | remove (key : κ) (alloc : A)
  | clear
  | len
  | iterate
  deriving DecidableEq

inductive MapResult (κ α : Type) where
  | status (rc : Except RtcErr Unit)
  | value (v : Option α)
  | flag (b : Bool)
  | done
  | size (n : Nat)
  | items (l : List (κ × Option α))
  deriving DecidableEq

structure MapState (κ α : Type) where
  entries : κ → Option (Option α) := fun _ => none
  sets : Nat := 0

inductive MapState.Step [DecidableEq κ] (fails : A → Prop) :
    MapState κ α → MapOp κ α A → MapResult κ α → MapState κ α → Prop where
  | set {S : MapState κ α} (key : κ) (value : Option α) (alloc : A) :
      Step fails S (.set key value alloc) (.status (.ok ()))
        ⟨Function.update S.entries key (some value), S.sets + 1⟩
  /-- `set` fails only if an allocation does, or after `2^58` calls, and changes nothing then. -/
  | refused {S : MapState κ α} (key : κ) (value : Option α) (alloc : A)
      (hfail : fails alloc ∨ 2 ^ 58 ≤ S.sets) :
      Step fails S (.set key value alloc) (.status (.error .nomem)) ⟨S.entries, S.sets + 1⟩
  | get {S : MapState κ α} (key : κ) :
      Step fails S (.get key) (.value ((S.entries key).getD none)) S
  | has {S : MapState κ α} (key : κ) : Step fails S (.has key) (.flag (S.entries key).isSome) S
  | remove {S : MapState κ α} (key : κ) (alloc : A) :
      Step fails S (.remove key alloc) (.flag (S.entries key).isSome)
        { S with entries := Function.update S.entries key none }
  | clear {S : MapState κ α} : Step fails S .clear .done { S with entries := fun _ => none }
  | len {S : MapState κ α} :
      Step fails S .len (.size (Set.ncard {key | (S.entries key).isSome})) S
  /-- An iteration lists every entry, each key once. -/
  | iterate {S : MapState κ α} (l : List (κ × Option α)) (honce : (l.map Prod.fst).Nodup)
      (hall : ∀ key value, (key, value) ∈ l ↔ S.entries key = some value) :
      Step fails S .iterate (.items l) S

inductive MapState.Run [DecidableEq κ] (fails : A → Prop) :
    MapState κ α → List (MapOp κ α A) → List (MapResult κ α) → MapState κ α → Prop where
  | nil (S : MapState κ α) : Run fails S [] [] S
  | cons {S S' S'' : MapState κ α} {op : MapOp κ α A} {r : MapResult κ α}
      {ops : List (MapOp κ α A)} {rs : List (MapResult κ α)} (hstep : Step fails S op r S')
      (hrun : Run fails S' ops rs S'') : Run fails S (op :: ops) (r :: rs) S''

def mapRun {σ : Type} (step : σ → MapOp κ α A → Option (MapResult κ α × σ)) :
    σ → List (MapOp κ α A) → Option (List (MapResult κ α) × σ)
  | s, [] => some ([], s)
  | s, op :: ops =>
    match step s op with
    | none => none
    | some (r, s) => (mapRun step s ops).map fun rest => (r :: rest.1, rest.2)

variable {step : σ → MapOp κ α A → Option (MapResult κ α × σ)}

theorem mapRun_refines [DecidableEq κ] {fails : A → Prop}
    {R : σ → MapState κ α → Prop}
    (hstep : ∀ s S op, R s S → ∃ r s' S', step s op = some (r, s')
      ∧ MapState.Step fails S op r S' ∧ R s' S')
    (ops : List (MapOp κ α A)) {S : MapState κ α} (h : R s S) :
    ∃ rs s' S', mapRun step s ops = some (rs, s') ∧ MapState.Run fails S ops rs S' ∧ R s' S' := by
  induction ops generalizing s S with
  | nil => exact ⟨[], s, S, rfl, .nil S, h⟩
  | cons op ops ih =>
    obtain ⟨r, s₁, S₁, hs₁, hr, h₁⟩ := hstep s S op h
    obtain ⟨rs, s', S', hs', hrs, h'⟩ := ih h₁
    refine ⟨r :: rs, s', S', ?_, .cons hr hrs, h'⟩
    simp only [mapRun, hs₁, hs', Option.map_some]

def MapOp.Granted (granted : A → Prop) : MapOp κ α A → Prop
  | .set _ _ alloc | .remove _ alloc => granted alloc
  | .get _ | .has _ | .clear | .len | .iterate => True

/-- There are never more live keys than this. -/
def LiveAtMost {σ : Type} (step : σ → MapOp κ α A → Option (MapResult κ α × σ)) (live : σ → Nat)
    (L : Nat) (s : σ) (ops : List (MapOp κ α A)) : Prop :=
  ∀ before rs s', before <+: ops → mapRun step s before = some (rs, s') → live s' ≤ L

theorem liveAtMost_of_inits {live : σ → Nat} {L : Nat} {ops : List (MapOp κ α A)}
    (h : ∀ before ∈ ops.inits, ((mapRun step s before).all fun p => live p.2 ≤ L) = true) :
    LiveAtMost step live L s ops := by
  intro before rs s' hbefore hrun
  have hall := h before ((mem_inits before ops).mpr hbefore)
  rw [hrun] at hall
  simpa using hall

theorem mapRun_invariant
    {live : σ → Nat} {L : Nat} {granted : A → Prop} {I : σ → Prop}
    (hstep : ∀ s op, I s → op.Granted granted → live s ≤ L →
      ∃ r s', step s op = some (r, s') ∧ I s')
    (ops : List (MapOp κ α A)) (hops : ∀ op ∈ ops, op.Granted granted) (h : I s)
    (hlive : LiveAtMost step live L s ops) :
    ∃ rs s', mapRun step s ops = some (rs, s') ∧ I s' := by
  induction ops generalizing s with
  | nil => exact ⟨[], s, rfl, h⟩
  | cons op ops ih =>
    have hnow : live s ≤ L := hlive [] [] s nil_prefix rfl
    obtain ⟨r, s₁, hs₁, h₁⟩ := hstep s op h (hops op mem_cons_self) hnow
    have hrest : LiveAtMost step live L s₁ ops := by
      intro before rs s' hbefore hrun
      refine hlive (op :: before) (r :: rs) s' (cons_prefix_cons.mpr ⟨rfl, hbefore⟩) ?_
      simp only [mapRun, hs₁, hrun, Option.map_some]
    obtain ⟨rs, s', hs', h'⟩ := ih (fun op hop => hops op (mem_cons_of_mem _ hop)) h₁ hrest
    exact ⟨r :: rs, s', by simp only [mapRun, hs₁, hs', Option.map_some], h'⟩

theorem MapState.ncard_keys [DecidableEq κ] {S : MapState κ α} {l : List (κ × Option α)}
    (honce : (l.map Prod.fst).Nodup)
    (hall : ∀ key value, (key, value) ∈ l ↔ S.entries key = some value) :
    Set.ncard {key | (S.entries key).isSome} = l.length := by
  have hkeys : {key | (S.entries key).isSome = true} = ((l.map Prod.fst).toFinset : Set κ) := by
    ext key
    simp only [Set.mem_ofPred_eq, Finset.mem_coe, mem_toFinset, mem_map, Prod.exists,
      exists_and_right, exists_eq_right, Option.isSome_iff_exists, hall]
  rw [hkeys, Set.ncard_coe_finset, toFinset_card_of_nodup honce, length_map]

end Mrtc
