import Mrtc.Ice.Routes

/-! # Who can choose a transport's remote

A transport should take a remote only from a binding request whose MESSAGE-INTEGRITY verifies under
its own password, or from a response to its check that verifies under the remote password
(`SelectsOnly`); then the packets of a sender who knows neither never change where media is sent
(`IceAuthentic`).
-/

namespace Mrtc

open Net IceListener

section Authentic

variable (hmac : Bytes → Bytes → Bytes)

/-- A transport without a remote takes one only from a message that verifies under the password of
the side that should have sent it. -/
def SelectsOnly (l : IceListener) (op : IceOp) (l' : IceListener) : Prop :=
  ∀ (i : Nat) (t t' : IceTransport),
    l.transports[i]? = some t → l'.transports[i]? = some t' → t.selected = none →
      t'.selected ≠ none →
        ∃ data source alloc msg, op = .packet data source alloc ∧ rtcStunParse data = .ok msg
          ∧ t'.selected = some source
          ∧ (msg.type = stunBindingRequest ∧ stunVerifies hmac data t.pwd = true
            ∨ msg.type = stunBindingResponse ∧ t.txn = some msg.txnId
              ∧ ∃ ufrag pwd, t.remoteIce = some (ufrag, pwd) ∧ stunVerifies hmac data pwd = true)

def selectsOnlyRun (l : IceListener) : List IceOp → Prop
  | [] => True
  | op :: ops => SelectsOnly hmac l op (iceStep l op) ∧ selectsOnlyRun (iceStep l op) ops

def IceListener.forged (l : IceListener) : IceOp → Bool
  | .packet data _ _ =>
    l.transports.all fun t =>
      !stunVerifies hmac data t.pwd
        && !t.remoteIce.any fun remote => stunVerifies hmac data remote.2
  | _ => false

def genuineRun (l : IceListener) : List IceOp → IceListener
  | [] => l
  | op :: ops => if l.forged hmac op then genuineRun l ops else genuineRun (iceStep l op) ops

def IceListener.remotes (l : IceListener) : List (Option RtcAddr) :=
  l.transports.map IceTransport.selected

/-- Remotes are selected by genuine checks only. -/
def IceAuthentic (ops : List IceOp) : Prop :=
  selectsOnlyRun hmac {} ops ∧ (iceRun {} ops).remotes = (genuineRun hmac {} ops).remotes

def IceTransport.genuine (t : IceTransport) (data : Bytes) (msg : StunMsg) : Bool :=
  if msg.type = stunBindingRequest then stunVerifies hmac data t.pwd
  else if msg.type = stunBindingResponse then
    t.remoteIce.any fun remote => stunVerifies hmac data remote.2
  else true

def IceListener.guarded (l : IceListener) : IceOp → Bool
  | .packet data _ _ =>
    match rtcStunParse data with
    | .error _ => true
    | .ok msg =>
      ((listenerRouteStun l data).bind fun i => l.transports[i]?).all fun t =>
        t.genuine hmac data msg
  | _ => true

def guardedRun (l : IceListener) : List IceOp → Bool
  | [] => true
  | op :: ops => l.guarded hmac op && guardedRun (iceStep l op) ops

variable {hmac}
variable {l : IceListener} {op : IceOp}

theorem IceListener.guarded_genuine {data : Bytes} {source : RtcAddr} {alloc : Bool} {i : Nat}
    {t : IceTransport} {msg : StunMsg} (hguard : l.guarded hmac (.packet data source alloc) = true)
    (hparse : rtcStunParse data = .ok msg) (hroute : listenerRouteStun l data = some i)
    (hget : l.transports[i]? = some t) : t.genuine hmac data msg = true := by
  dsimp only [guarded] at hguard
  rw [hparse, hroute] at hguard
  dsimp only [Option.bind_some] at hguard
  rw [hget] at hguard
  exact hguard

/-- **A guarded packet is the only way to a remote, and it verifies.** -/
theorem iceStep_selectsOnly (hguard : l.guarded hmac op = true) :
    SelectsOnly hmac l op (iceStep l op) := by
  intro i t t' hget hget' hnone hsome
  cases (iceStep_getElem? hget op).symm.trans hget'
  by_cases hfor : l.addressee op = some i
  · rw [if_pos hfor] at hsome ⊢
    have hchange := iceStep_tuples hget hfor
    generalize (iceStep l op).tuples = tuples at hchange
    cases hchange with
    | same hselected => exact absurd (hselected.trans hnone) hsome
    | unregistered hclosing hselected => exact absurd (hselected.trans hnone) hsome
    | @registered data source alloc msg hparse hselects hselected htorn =>
      refine ⟨data, source, alloc, msg, rfl, hparse, hselected, ?_⟩
      have hgenuine := guarded_genuine hguard hparse hfor hget
      unfold IceTransport.genuine at hgenuine
      simp only [transportSelects, Bool.and_eq_true, Bool.or_eq_true, beq_iff_eq] at hselects
      rcases hselects.2 with hrequest | ⟨hresponse, htxn⟩
      · rw [if_pos hrequest] at hgenuine
        exact Or.inl ⟨hrequest, hgenuine⟩
      · have hother : msg.type ≠ stunBindingRequest := by
          rw [hresponse]
          decide
        rw [if_neg hother, if_pos hresponse] at hgenuine
        obtain ⟨remote, hremote, hverifies⟩ := (Option.any_eq_true ..).mp hgenuine
        exact Or.inr ⟨hresponse, htxn, remote.1, remote.2, hremote, hverifies⟩
  · rw [if_neg hfor] at hsome
    exact absurd hnone hsome

theorem IceListener.forged_not_genuine {data : Bytes} {source : RtcAddr} {alloc : Bool} {i : Nat}
    {t : IceTransport} {msg : StunMsg} (hforged : l.forged hmac (.packet data source alloc) = true)
    (hget : l.transports[i]? = some t) (hgenuine : t.genuine hmac data msg = true) :
    msg.type ≠ stunBindingRequest ∧ msg.type ≠ stunBindingResponse := by
  have hfail := List.all_eq_true.mp hforged t (List.mem_of_getElem? hget)
  simp only [Bool.and_eq_true, Bool.not_eq_true'] at hfail
  unfold IceTransport.genuine at hgenuine
  constructor
  · intro hrequest
    rw [if_pos hrequest, hfail.1] at hgenuine
    exact absurd hgenuine nofun
  · grind

/-- **A forged packet that is guarded changes nothing**: it is not a binding message for any
transport. -/
theorem iceStep_forged (hguard : l.guarded hmac op = true) (hforged : l.forged hmac op = true) :
    iceStep l op = l := by
  cases op with
  | packet data source alloc =>
    dsimp only [iceStep, listenerOnPacket]
    cases hroute : listenerRouteStun l data with
    | none => rfl
    | some i =>
      dsimp only [transportOnPacket]
      cases hget : l.transports[i]? with
      | none => rfl
      | some t =>
        dsimp only
        split
        · rfl
        · grind [guarded_genuine, forged_not_genuine]
  | create | setRemoteIce | addCandidate | startIce | iceTimer | restartIce | close | teardown =>
    exact absurd hforged nofun

theorem iceRun_selectsOnly (ops : List IceOp) (l : IceListener)
    (hguard : guardedRun hmac l ops = true) : selectsOnlyRun hmac l ops := by
  induction ops generalizing l with
  | nil => trivial
  | cons op ops ih =>
    unfold guardedRun at hguard
    rw [Bool.and_eq_true] at hguard
    exact ⟨iceStep_selectsOnly hguard.1, ih (iceStep l op) hguard.2⟩

theorem iceRun_eq_genuineRun (ops : List IceOp) (l : IceListener)
    (hguard : guardedRun hmac l ops = true) : iceRun l ops = genuineRun hmac l ops := by
  induction ops generalizing l with
  | nil => rfl
  | cons op ops ih =>
    unfold guardedRun at hguard
    rw [Bool.and_eq_true] at hguard
    show iceRun (iceStep l op) ops = _
    simp only [ih (iceStep l op) hguard.2, genuineRun]
    by_cases hforged : l.forged hmac op = true
    · rw [if_pos hforged, iceStep_forged hguard.1 hforged]
    · rw [if_neg hforged]

end Authentic

/-- **Only who knows a password chooses a remote**, in every run in which each binding message that
the listener finds a transport for verifies. -/
theorem iceRun_authentic (hmac : Bytes → Bytes → Bytes) (ops : List IceOp)
    (hguard : guardedRun hmac {} ops = true) : IceAuthentic hmac ops :=
  ⟨iceRun_selectsOnly ops {} hguard,
    congrArg remotes (iceRun_eq_genuineRun ops {} hguard)⟩

def toyHmac (key _data : Bytes) : Bytes := List.replicate 20 (key.headD 0)

def signedRequest (mac : UInt8) : Bytes :=
  [0, 1, 0, 32, 0x21, 0x12, 0xA4, 0x42, 1, 2, 3, 4, 5, 6, 7, 8, 9, 10, 11, 12,
    0, 6, 0, 3, 0x61, 0x3A, 0x78, 0, 0, 8, 0, 20] ++ List.replicate 20 mac

def guessedFragments : List IceOp :=
  [.create .full [0x61] [0x70] true, .packet (bareRequest 0x62) (hostAddr 666) true,
    .packet (bareRequest 0x63) (hostAddr 666) true,
    .packet (signedRequest 0x70) (hostAddr 5000) true]

theorem guessedFragments_authentic :
    guardedRun toyHmac {} guessedFragments = true
      ∧ (iceRun {} guessedFragments).remotes = [some (hostAddr 5000)]
      ∧ IceAuthentic toyHmac guessedFragments := by
  have hguard : guardedRun toyHmac {} guessedFragments = true := by decide +kernel
  exact ⟨hguard, by decide +kernel, iceRun_authentic toyHmac guessedFragments hguard⟩

/-! ## A request without MESSAGE-INTEGRITY -/

def namedFragment : List IceOp :=
  [.create .full [0x61] [0x70] true, .packet (bareRequest 0x61) (hostAddr 666) true]

/-- Whatever the hash is: the message is too short to have a MESSAGE-INTEGRITY, and the stranger
gets the media. -/
theorem namedFragment_not_authentic :
    (iceRun {} namedFragment).remotes = [some (hostAddr 666)]
      ∧ ∀ hmac, (genuineRun hmac {} namedFragment).remotes = [none]
        ∧ ¬ selectsOnlyRun hmac {} namedFragment ∧ ¬ IceAuthentic hmac namedFragment := by
  have hremotes : (iceRun {} namedFragment).remotes = [some (hostAddr 666)] := by decide +kernel
  refine ⟨hremotes, fun hmac => ?_⟩
  have hgenuine : (genuineRun hmac {} namedFragment).remotes = [none] := rfl
  refine ⟨hgenuine, ?_, ?_⟩
  · intro hselects
    have hafter : (iceRun {} namedFragment).transports[0]?
        = some { mode := .full, ufrag := [0x61], pwd := [0x70], selected := some (hostAddr 666) } := by
      decide +kernel
    obtain ⟨data, source, alloc, msg, hop, hparse, _, hverifies⟩ :=
      hselects.2.1 0 { mode := .full, ufrag := [0x61], pwd := [0x70] } _ rfl hafter rfl nofun
    obtain ⟨rfl, _, _⟩ := IceOp.packet.inj hop
    rcases hverifies with ⟨_, hown⟩ | ⟨hresponse, htxn, _⟩
    · -- too short for the attribute
      exact absurd hown nofun
    · exact absurd htxn nofun
  · intro hauthentic
    have hsame := hauthentic.2
    rw [hremotes, hgenuine] at hsame
    exact absurd hsame nofun

end Mrtc
