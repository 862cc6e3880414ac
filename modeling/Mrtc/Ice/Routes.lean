import Mrtc.Ice.Steps

/-! # Who owns a tuple route

While a transport is open and has a remote, packets from there should reach an open transport with
that remote (`IceListener.Owned`).
-/

namespace Mrtc

open Net Function

/-- The address of every selected remote belongs to an open transport. -/
def IceListener.Owned (l : IceListener) : Prop :=
  ∀ (i : Nat) (t : IceTransport) (remote : RtcAddr),
    l.transports[i]? = some t → t.closed = false → t.selected = some remote →
      ∃ key j u, tupleKey remote = .ok key ∧ l.tuples key = some j ∧ l.transports[j]? = some u
        ∧ u.closed = false ∧ u.selected = some remote

def IceListener.selecting (l : IceListener) (data : Bytes) : Option Nat :=
  match rtcStunParse data with
  | .error _ => none
  | .ok msg =>
    (listenerRouteStun l data).filter fun i =>
      (l.transports[i]?).any fun t => transportSelects t msg

def IceListener.holds (l : IceListener) (key : TupleKey) : Bool :=
  l.transports.any fun t =>
    !t.torn && t.selected.any fun remote => (tupleKey remote).toOption == some key

/-- If the packet makes a transport select its source, then no other transport has that remote, and
its route can be registered. -/
def IceListener.soleOwner (l : IceListener) : IceOp → Bool
  | .packet data source alloc =>
    if (l.selecting data).isSome then
      match tupleKey source with
      | .ok key => alloc && !l.holds key
      | .error _ => false
    else true
  | _ => true

def soleOwnerRun (l : IceListener) : List IceOp → Bool
  | [] => true
  | op :: ops => l.soleOwner op && soleOwnerRun (iceStep l op) ops

structure IceListener.OwnsAll (l : IceListener) : Prop where
  owns : ∀ (i : Nat) (t : IceTransport) (remote : RtcAddr),
    l.transports[i]? = some t → t.torn = false → t.selected = some remote →
      ∃ key, tupleKey remote = .ok key ∧ l.tuples key = some i
  closed : ∀ (i : Nat) (t : IceTransport),
    l.transports[i]? = some t → t.torn = true → t.closed = true

section Routes

variable {l l' : IceListener} {i : Nat} {t t' : IceTransport} {op : IceOp}

theorem IceListener.OwnsAll.owned (h : l.OwnsAll) : l.Owned := by
  intro i t remote hget hopen hselected
  have htorn : t.torn = false := by
    by_contra htorn
    have hclosed := h.closed i t hget (Bool.not_eq_false _ ▸ htorn)
    exact absurd (hclosed.symm.trans hopen) nofun
  obtain ⟨key, hkey, hroute⟩ := h.owns i t remote hget htorn hselected
  exact ⟨key, i, t, hkey, hroute, hget, hopen, hselected⟩

theorem IceListener.key_ne_of_not_holds {key key' : TupleKey} {remote : RtcAddr}
    (hfree : l.holds key = false) (hget : l.transports[i]? = some t) (htorn : t.torn = false)
    (hremote : t.selected = some remote) (hkey' : tupleKey remote = .ok key') : key' ≠ key := by
  rintro rfl
  have hheld := List.any_eq_false.mp hfree t (List.mem_of_getElem? hget)
  rw [htorn, hremote, Option.any_some, hkey'] at hheld
  exact hheld (beq_self_eq_true _)

theorem IceListener.selecting_isSome {data : Bytes} {msg : StunMsg}
    (hparse : rtcStunParse data = .ok msg) (hroute : listenerRouteStun l data = some i)
    (hbefore : l.transports[i]? = some t) (hselects : transportSelects t msg = true) :
    (l.selecting data).isSome = true := by
  unfold IceListener.selecting
  rw [hparse, hroute]
  dsimp only
  rw [Option.filter_some, hbefore, Option.any_some, hselects]
  rfl

theorem IceListener.registerTuple_of_soleOwner {data : Bytes} {source : RtcAddr} {alloc : Bool}
    (hsole : l.soleOwner (.packet data source alloc) = true)
    (hselecting : (l.selecting data).isSome = true) :
    ∃ key, tupleKey source = .ok key ∧ l.holds key = false
      ∧ rtcListenerRegisterTuple l.tuples source i alloc
        = .ok (update l.tuples key (some i)) := by
  dsimp only [IceListener.soleOwner] at hsole
  rw [if_pos hselecting] at hsole
  cases hkey : tupleKey source with
  | error e =>
    rw [hkey] at hsole
    exact absurd hsole Bool.false_ne_true
  | ok key =>
    rw [hkey] at hsole
    simp only [Bool.and_eq_true, Bool.not_eq_true'] at hsole
    obtain ⟨rfl, hfree⟩ := hsole
    refine ⟨key, rfl, hfree, ?_⟩
    rw [rtcListenerRegisterTuple, hkey]
    rfl

theorem IceTransport.step_closed (t : IceTransport) (op : IceOp) (h : t.closed = true) :
    (t.step op).closed = true := by
  have hsend : ∀ (t : IceTransport) txn fault, (t.sendCheck txn fault).closed = t.closed := by
    intro t txn fault
    obtain ⟨_, _, _, hsent⟩ := t.sendCheck_eq txn fault
    rw [hsent]
  cases op <;> dsimp only [IceTransport.step]
  case packet => rw [if_pos h, h]
  all_goals
    repeat' split
    all_goals first | exact h | rfl | exact (hsend ..).trans h

theorem TupleChange.owns {tuples : TupleKey → Option Nat} (hchange : TupleChange l.tuples i t t' op tuples)
    (hroute : l.addressee op = some i) (ht : l.transports[i]? = some t)
    (hsole : l.soleOwner op = true) (h : l.OwnsAll) {j : Nat} {u : IceTransport} {remote : RtcAddr}
    (hget : (l.transports.set i t')[j]? = some u) (htorn : u.torn = false)
    (hremote : u.selected = some remote) : ∃ key, tupleKey remote = .ok key ∧ tuples key = some j := by
  cases hchange with
  | same hselected htorn' => grind [h.owns]
  | registered msg hparse hselects hselected htorn' =>
    obtain ⟨key, hkey, hfree, hregistered⟩ := l.registerTuple_of_soleOwner (i := i) hsole
      (IceListener.selecting_isSome hparse hroute ht hselects)
    rw [hregistered]
    rcases getElem?_set_cases hget with ⟨rfl, rfl⟩ | ⟨-, hget⟩
    · cases hselected.symm.trans hremote
      exact ⟨key, hkey, update_self ..⟩
    · grind [IceListener.key_ne_of_not_holds, update_of_ne, h.owns]
  | unregistered hclosing hselected htorn' =>
    rcases getElem?_set_cases hget with ⟨rfl, rfl⟩ | ⟨hne, hget⟩
    · cases htorn'.symm.trans htorn
    -- it removes only its own route, for no other transport has its key
    obtain ⟨key, hkey, hroute'⟩ := h.owns j u remote hget htorn hremote
    refine ⟨key, hkey, ?_⟩
    cases hown : t.selected with
    | none => exact hroute'
    | some own =>
      obtain ⟨ownKey, hownKey, hownRoute⟩ := h.owns i t own ht hclosing.2 hown
      have hkeys : key ≠ ownKey := by
        rintro rfl
        exact hne (Option.some.inj (hroute'.symm.trans hownRoute))
      dsimp only [rtcListenerUnregisterTuple]
      rw [hownKey]
      exact (update_of_ne hkeys ..).trans hroute'

theorem TupleChange.torn_closed {tuples tuples' : TupleKey → Option Nat}
    (hchange : TupleChange tuples i t t' op tuples') (h : t.torn = true → t.closed = true)
    (htorn : t'.torn = true) : t.closed = true := by
  cases hchange with
  | same _ htorn' => exact h (htorn'.symm.trans htorn)
  | registered _ _ _ _ htorn' => exact h (htorn'.symm.trans htorn)
  | unregistered hclosing => exact hclosing.1

theorem IceEffect.ownsAll (heffect : IceEffect l op l') (hsole : l.soleOwner op = true)
    (h : l.OwnsAll) : l'.OwnsAll := by
  cases heffect with
  | nothing => exact h
  | created t hafter htuples htxns hfresh =>
    have hcases : ∀ (j : Nat) (u : IceTransport), l'.transports[j]? = some u →
        l.transports[j]? = some u ∨ u = t := by grind
    constructor
    · grind [h.owns]
    · grind [h.closed]
  | stepped hfor ht hstep hafter htxns htuples =>
    constructor
    · grind [htuples.owns]
    · grind [IceTransport.step_closed, htuples.torn_closed, h.closed]

theorem ownsAll_init : ({} : IceListener).OwnsAll where
  owns := fun _ _ _ hget => absurd hget nofun
  closed := fun _ _ hget => absurd hget nofun

end Routes

theorem iceRun_ownsAll (ops : List IceOp) (l : IceListener) (hsole : soleOwnerRun l ops = true)
    (h : l.OwnsAll) : (iceRun l ops).OwnsAll := by
  induction ops generalizing l with
  | nil => exact h
  | cons op ops ih =>
    unfold soleOwnerRun at hsole
    rw [Bool.and_eq_true] at hsole
    exact ih (iceStep l op) hsole.2 ((iceStep_effect l op).ownsAll hsole.1 h)

/-- **Routes lead where they should**: in every run in which a transport selects a remote only if
no transport still has it, and its route can be registered, every open transport that has a remote
can be reached from there. -/
theorem iceRun_owned (ops : List IceOp) (hsole : soleOwnerRun {} ops = true) :
    (iceRun {} ops).Owned :=
  (iceRun_ownsAll ops {} hsole ownsAll_init).owned

/-! ## Two transports with one remote -/

def bareRequest (letter : UInt8) : Bytes :=
  [0, 1, 0, 8, 0x21, 0x12, 0xA4, 0x42, 1, 2, 3, 4, 5, 6, 7, 8, 9, 10, 11, 12,
    0, 6, 0, 3, letter, 0x3A, 0x78, 0]

def hostAddr (port : Nat) : RtcAddr := { family := .inet, ip := [192, 0, 2, 1], port := port }

def twoRemotes : List IceOp :=
  [.create .full [0x61] [0x70] true, .create .full [0x62] [0x71] true,
    .packet (bareRequest 0x61) (hostAddr 5000) true, .packet (bareRequest 0x62) (hostAddr 5001) true,
    .close 0, .teardown 0]

theorem twoRemotes_owned :
    soleOwnerRun {} twoRemotes = true
      ∧ (iceRun {} twoRemotes).transports[1]?.any (fun t => t.selected == some (hostAddr 5001)) = true
      ∧ (iceRun {} twoRemotes).Owned := by
  have hsole : soleOwnerRun {} twoRemotes = true := by decide +kernel
  exact ⟨hsole, by decide +kernel, iceRun_owned twoRemotes hsole⟩

def oneRemote : List IceOp :=
  [.create .full [0x61] [0x70] true, .create .full [0x62] [0x71] true,
    .packet (bareRequest 0x61) (hostAddr 5000) true, .packet (bareRequest 0x62) (hostAddr 5000) true,
    .close 1, .teardown 1]

/-- The first transport is open and has its remote, and packets from there go nowhere. -/
theorem oneRemote_not_owned :
    (∃ t, (iceRun {} oneRemote).transports[0]? = some t ∧ t.closed = false
        ∧ t.selected = some (hostAddr 5000))
      ∧ ¬ (iceRun {} oneRemote).Owned := by
  have hopen : (iceRun {} oneRemote).transports[0]?.any
      (fun t => !t.closed && t.selected == some (hostAddr 5000)) = true := by
    decide +kernel
  have hroute : (iceRun {} oneRemote).tuples ⟨.inet, [192, 0, 2, 1], 5000⟩ = none := by
    decide +kernel
  simp only [Option.any_eq_true, Bool.and_eq_true, Bool.not_eq_true', beq_iff_eq] at hopen
  refine ⟨hopen, ?_⟩
  intro howned
  obtain ⟨t, hget, hclosed, hselected⟩ := hopen
  obtain ⟨key, j, u, hkey, hj, -⟩ := howned 0 t (hostAddr 5000) hget hclosed hselected
  obtain rfl := Except.ok.inj hkey
  exact absurd (hroute.symm.trans hj) nofun

end Mrtc
