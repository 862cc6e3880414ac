import Mrtc.Signaling.Roles
import Mrtc.Srtp.EndToEnd

/-! # SRTP keys from the DTLS handshake (`rtc_dtls.c`, `rtc_transport.c`)

The DTLS side of a transport, with OpenSSL as an oracle for what each call returns. Once the
handshake is complete, the keys of both directions are cut out of one block of exported bytes.
-/

namespace Mrtc

open Net

inductive DtlsState where
  | new
  | connecting
  | connected
  | failed
  | closed
  deriving DecidableEq

/-- What the two ends of one handshake share once it is complete. -/
structure DtlsSession where
  profile : Option SrtpProfile
  material : Nat → Bytes

/-- The fields that the handshake and SRTP use; `ssl` says whether there is an SSL object. -/
structure DtlsTransport where
  role : DtlsRole
  state : DtlsState := .new
  ssl : Bool := true
  closed : Bool := false
  srtpReady : Bool := false
  srtpSend : Option SrtpCtx := none
  srtpRecv : Option SrtpCtx := none

inductive SslResult where
  | complete
  | wantIo
  | failed

/-- What the calls into OpenSSL that one step may make return. -/
structure SslOutcome where
  handshake : SslResult
  exported : Bool
  sendFault : Option RtcErr
  recvFault : Option RtcErr

def rtcDtlsHandshake (o : SslOutcome) (d : DtlsTransport) : Except RtcErr DtlsState :=
  match d.ssl, o.handshake with
  | true, .complete => .ok .connected
  | true, .wantIo => .ok .connecting
  | _, _ => .error .ssl

structure SrtpKeyBlock where
  aeadGcm : Bool
  keyLen : Nat
  clientKey : Bytes
  serverKey : Bytes
  clientSalt : Bytes
  serverSalt : Bytes

/-- The exported block is `client_key | server_key | client_salt | server_salt`. -/
def rtcDtlsExportSrtpKeys (s : DtlsSession) (exported : Bool) : Except RtcErr SrtpKeyBlock :=
  let (gcm, keyLen, saltLen) := match s.profile with
    | some .aeadAes256Gcm => (true, 32, 12)
    | some .aeadAes128Gcm => (true, 16, 12)
    | _ => (false, 16, 14)
  let material := s.material (2 * (keyLen + saltLen))
  if !exported then .error .ssl
  else .ok ⟨gcm, keyLen, material.take keyLen, (material.drop keyLen).take keyLen,
    (material.drop (2 * keyLen)).take saltLen, (material.drop (2 * keyLen + saltLen)).take saltLen⟩

def SrtpKeyBlock.profile (k : SrtpKeyBlock) : SrtpProfile :=
  if !k.aeadGcm then .aes128CmSha1_80
  else if 32 ≤ k.keyLen then .aeadAes256Gcm
  else .aeadAes128Gcm

variable (cr : Crypto) (s : DtlsSession)

/-- The contexts for sending and for receiving: each end sends with the key of its own role. -/
def srtpContexts (role : DtlsRole) (o : SslOutcome) : Except RtcErr (SrtpCtx × SrtpCtx) := do
  let k ← rtcDtlsExportSrtpKeys s o.exported
  let client := role = .client
  let send ← rtcSrtpInitProfile cr o.sendFault k.profile
    (if client then k.clientKey else k.serverKey) (if client then k.clientSalt else k.serverSalt)
  let recv ← rtcSrtpInitProfile cr o.recvFault k.profile
    (if client then k.serverKey else k.clientKey) (if client then k.serverSalt else k.clientSalt)
  pure (send, recv)

def transportTryExportSrtp (o : SslOutcome) (d : DtlsTransport) : DtlsTransport :=
  if d.srtpReady ∨ d.state ≠ .connected then d
  else match srtpContexts cr s d.role o with
    | .error _ => { d with state := .failed }
    | .ok (send, recv) =>
      { d with srtpSend := some send, srtpRecv := some recv, srtpReady := true }

/-- One attempt to finish the handshake and what both callers do after it. -/
def dtlsAttempt (o : SslOutcome) (d : DtlsTransport) : DtlsTransport :=
  match rtcDtlsHandshake o d with
  | .ok state => transportTryExportSrtp cr s o { d with state }
  | .error _ => { d with state := .failed }

/-- What runs on the worker thread. The retransmission timer only sends a flight again. -/
inductive DtlsCall where
  | recv (o : SslOutcome)
  | startDtls (selectedRemote : Bool) (o : SslOutcome)
  | setDtlsRole (role : DtlsRole) (setupOk : Bool)
  | close
  | teardown

def dtlsStep (d : DtlsTransport) : DtlsCall → DtlsTransport
  | .recv o =>
    if d.closed then d
    else if d.state = .connecting ∨ d.state = .new then dtlsAttempt cr s o d
    else transportTryExportSrtp cr s o d
  | .startDtls selectedRemote o =>
    if !selectedRemote ∨ d.state = .connected then d else dtlsAttempt cr s o d
  | .setDtlsRole role setupOk =>
    if d.state ≠ .new ∨ d.role = role then d
    else if setupOk then { d with role }
    else { d with state := .failed, ssl := false }
  | .close => { d with closed := true }
  | .teardown =>
    if d.closed then { d with srtpReady := false, ssl := false, state := .closed } else d

def dtlsRun (role : DtlsRole) (calls : List DtlsCall) : DtlsTransport :=
  calls.foldl (dtlsStep cr s) { role }

/-! ## Connected means keyed -/

/-- SRTP is ready exactly while DTLS is connected, with contexts that were set up in the role
the transport still has. -/
structure DtlsTransport.Keyed (d : DtlsTransport) : Prop where
  connected_iff : d.state = .connected ↔ d.srtpReady = true
  ready : d.srtpReady = true → ∃ o send recv, srtpContexts cr s d.role o = .ok (send, recv)
    ∧ d.srtpSend = some send ∧ d.srtpRecv = some recv

variable {cr s} {d : DtlsTransport}

theorem DtlsTransport.Keyed.unready (hstate : d.state ≠ .connected) (hready : d.srtpReady = false) :
    d.Keyed cr s :=
  ⟨by simp [hstate, hready], by simp [hready]⟩

theorem transportTryExportSrtp_keyed (o : SslOutcome) (hready : d.srtpReady = false) :
    (transportTryExportSrtp cr s o d).Keyed cr s := by
  rw [transportTryExportSrtp]
  split_ifs with hstop
  · exact .unready (by simpa [hready] using hstop) hready
  have hstate : d.state = .connected := by simpa [hready] using hstop
  cases hctx : srtpContexts cr s d.role o with
  | error e => exact .unready (by simp) hready
  | ok contexts => exact ⟨by simp [hstate], fun _ => ⟨o, _, _, hctx, rfl, rfl⟩⟩

theorem dtlsAttempt_keyed (o : SslOutcome) (hready : d.srtpReady = false) :
    (dtlsAttempt cr s o d).Keyed cr s := by
  rw [dtlsAttempt]
  cases rtcDtlsHandshake o d with
  | ok state => exact transportTryExportSrtp_keyed o hready
  | error e => exact .unready (by simp) hready

theorem DtlsTransport.Keyed.step (h : d.Keyed cr s) (call : DtlsCall) :
    (dtlsStep cr s d call).Keyed cr s := by
  have hunready (hstate : d.state ≠ .connected) : d.srtpReady = false :=
    Bool.eq_false_iff.mpr (mt h.connected_iff.mpr hstate)
  cases call with
  | recv o =>
    rw [dtlsStep]
    split_ifs with hclosed hstate
    · exact h
    · exact dtlsAttempt_keyed o (hunready (by rcases hstate with hs | hs <;> simp [hs]))
    · -- a packet after the handshake finds the contexts in place
      cases hready : d.srtpReady with
      | true => simpa [transportTryExportSrtp, hready] using h
      | false => exact transportTryExportSrtp_keyed o hready
  | startDtls selectedRemote o =>
    rw [dtlsStep]
    split_ifs with hstop
    · exact h
    · exact dtlsAttempt_keyed o (hunready (not_or.mp hstop).2)
  | setDtlsRole role setupOk =>
    rw [dtlsStep]
    split_ifs with hstop
    · exact h
    all_goals
      -- a role is changed only before the first attempt, when nothing has been exported
      have hnew : d.state = .new := by simpa using (not_or.mp hstop).1
      exact .unready (by simp [hnew]) (hunready (by simp [hnew]))
  | close => exact ⟨h.connected_iff, h.ready⟩
  | teardown =>
    rw [dtlsStep]
    split_ifs
    · exact .unready (by simp) rfl
    · exact h

theorem DtlsTransport.Keyed.run (h : d.Keyed cr s) (calls : List DtlsCall) :
    (calls.foldl (dtlsStep cr s) d).Keyed cr s :=
  List.foldlRecOn calls _ h fun _ h call _ => h.step call

theorem fresh_keyed (role : DtlsRole) : DtlsTransport.Keyed cr s { role } :=
  .unready (by simp) rfl

/-- **Media can pass exactly while DTLS is connected**, with the keys of the role it has. -/
theorem dtlsRun_keyed (cr : Crypto) (s : DtlsSession) (role : DtlsRole) (calls : List DtlsCall) :
    (dtlsRun cr s role calls).Keyed cr s :=
  (fresh_keyed role).run calls

/-! ## Two ends -/

/-- Whatever `send` protects comes out of `recv` unchanged, with losses on the way. -/
def Understands (cr : Crypto) (send recv : SrtpCtx) : Prop :=
  ∀ (S : Finset Nat) (events : List LinkEvent), S.card ≤ srtpReplayMaxStreams →
    LinkOk send.keys S (· < 2 ^ 48) {} events →
    linkRun cr send recv events = (deliveredPackets events).map .ok

/-- What one end sends with, the other end receives with. -/
theorem srtpContexts_mirrored {a b : DtlsRole} (hroles : a ≠ b) {o o' : SslOutcome}
    {send recv send' recv' : SrtpCtx} (ha : srtpContexts cr s a o = .ok (send, recv))
    (hb : srtpContexts cr s b o' = .ok (send', recv')) :
    send = recv' ∧ ∃ profile key salt, rtcSrtpInitProfile cr none profile key salt = .ok send := by
  -- only the outcome without any failure gives contexts
  obtain ⟨_, _ | _, _ | _, _ | _⟩ := o <;> cases ha
  obtain ⟨_, _ | _, _ | _, _ | _⟩ := o' <;> cases hb
  refine ⟨?_, _, _, _, rfl⟩
  cases a with
  | client =>
    cases b with
    | client => exact absurd rfl hroles
    | server => rfl
  | server =>
    cases b with
    | client => rfl
    | server => exact absurd rfl hroles

theorem DtlsTransport.Keyed.understands {e : DtlsTransport} (hcr : cr.Lawful) (hd : d.Keyed cr s)
    (he : e.Keyed cr s) (hroles : d.role ≠ e.role) (hconnected : d.state = .connected)
    (hconnected' : e.state = .connected) :
    ∃ send recv, d.srtpSend = some send ∧ e.srtpRecv = some recv ∧ Understands cr send recv := by
  obtain ⟨o, send, recv, hctx, hsend, -⟩ := hd.ready (hd.connected_iff.mp hconnected)
  obtain ⟨o', send', recv', hctx', -, hrecv⟩ := he.ready (he.connected_iff.mp hconnected')
  obtain ⟨rfl, profile, key, salt, hinit⟩ := srtpContexts_mirrored hroles hctx hctx'
  refine ⟨send, send, hsend, hrecv, ?_⟩
  intro S events hS hok
  obtain ⟨_, _, -, hrun⟩ := (Linked.fresh hinit S).run hcr hS events hok
  simpa [linkRun] using hrun []

/-! ## Peers and their transports -/

/-- A call on one of the peers, or a step of its handshake: it is started, or a packet comes in. -/
structure MediaOp where
  op : PairOp
  starts : Bool := false
  outcome : SslOutcome

/-- What the transports are asked: a new role by a remote description, and the handshake. -/
def MediaOp.dtlsCall (peer : Side → SignalingPeer) (m : MediaOp) : Option (Side × DtlsCall) :=
  match m.op with
  | .setRemote x desc =>
    if (peer x).connectStarted then none
    else (peerRuntimeSetRemoteDesc (peer x).localSdp desc.setup).map fun role =>
      (x, .setDtlsRole role true)
  | .dtls x => some (x, if m.starts then .startDtls true m.outcome else .recv m.outcome)
  | _ => none

structure MediaPair where
  signaling : SignalingPair := {}
  transport : Side → DtlsTransport := fun _ => { role := .client }

def mediaStep (cr : Crypto) (s : DtlsSession) (t : MediaPair) (m : MediaOp) : MediaPair where
  signaling := pairStep t.signaling m.op
  transport := (m.dtlsCall t.signaling.peer).elim t.transport fun (x, call) =>
    Function.update t.transport x (dtlsStep cr s (t.transport x) call)

def mediaRun (cr : Crypto) (s : DtlsSession) (ops : List MediaOp) : MediaPair :=
  ops.foldl (mediaStep cr s) {}

/-- The transport is in the role that the peer knows of, and in NEW exactly as long. -/
structure DtlsTransport.Mirrors (d : DtlsTransport) (p : SignalingPeer) : Prop where
  open_ : d.closed = false
  role : d.role = p.role
  new_iff : d.state = .new ↔ p.dtlsNew = true

theorem transportTryExportSrtp_role (o : SslOutcome) (d : DtlsTransport) :
    let d' := transportTryExportSrtp cr s o d
    d'.closed = d.closed ∧ d'.role = d.role ∧ (d.state ≠ .new → d'.state ≠ .new) := by
  unfold transportTryExportSrtp
  split_ifs
  · exact ⟨rfl, rfl, id⟩
  · cases srtpContexts cr s d.role o with
    | error e => exact ⟨rfl, rfl, fun _ => nofun⟩
    | ok contexts => exact ⟨rfl, rfl, id⟩

theorem dtlsAttempt_role (o : SslOutcome) (d : DtlsTransport) :
    let d' := dtlsAttempt cr s o d
    d'.closed = d.closed ∧ d'.role = d.role ∧ d'.state ≠ .new := by
  unfold dtlsAttempt
  cases hstate : rtcDtlsHandshake o d with
  | error e => exact ⟨rfl, rfl, nofun⟩
  | ok state =>
    have htry := @transportTryExportSrtp_role cr s o { d with state }
    refine ⟨htry.1, htry.2.1, htry.2.2 ?_⟩
    unfold rtcDtlsHandshake at hstate
    split at hstate <;> cases hstate <;> nofun

theorem DtlsTransport.Mirrors.handshake {p : SignalingPeer} (h : d.Mirrors p) (starts : Bool)
    (o : SslOutcome) :
    (dtlsStep cr s d (if starts then .startDtls true o else .recv o)).Mirrors
      { p with dtlsNew := false } := by
  have hattempt := @dtlsAttempt_role cr s o d
  have htry := @transportTryExportSrtp_role cr s o d
  have hleft : ∀ {d' : DtlsTransport}, d'.closed = d.closed → d'.role = d.role → d'.state ≠ .new →
      d'.Mirrors { p with dtlsNew := false } := fun hclosed hrole hstate =>
    ⟨hclosed.trans h.open_, hrole.trans h.role, by simp [hstate]⟩
  cases starts with
  | true =>
    rw [if_pos rfl, dtlsStep]
    split_ifs with hstop
    · exact hleft rfl rfl (by simp_all)
    · exact hleft hattempt.1 hattempt.2.1 hattempt.2.2
  | false =>
    rw [if_neg (by decide), dtlsStep, if_neg (by simp [h.open_])]
    split_ifs with hstate
    · exact hleft hattempt.1 hattempt.2.1 hattempt.2.2
    · exact hleft htry.1 htry.2.1 (htry.2.2 (not_or.mp hstate).2)

theorem DtlsTransport.Mirrors.setRemote {p : SignalingPeer} (h : d.Mirrors p)
    (hstarted : p.connectStarted = false) (desc : RtcDesc) :
    (((peerRuntimeSetRemoteDesc p.localSdp desc.setup).elim d fun role =>
      dtlsStep cr s d (.setDtlsRole role true))).Mirrors
        (rtcPeerConnectionSetRemoteDesc p desc).2 := by
  have hpeer : (rtcPeerConnectionSetRemoteDesc p desc).2.role
      = rtcTransportSetDtlsRole p (peerRuntimeSetRemoteDesc p.localSdp desc.setup)
      ∧ (rtcPeerConnectionSetRemoteDesc p desc).2.dtlsNew = p.dtlsNew := by
    rw [rtcPeerConnectionSetRemoteDesc, if_neg (by simp [hstarted])]
    unfold peerTryConnect
    split_ifs <;> exact ⟨rfl, rfl⟩
  generalize peerRuntimeSetRemoteDesc p.localSdp desc.setup = asked at hpeer ⊢
  obtain ⟨hrole, hnew⟩ := hpeer
  rw [rtcTransportSetDtlsRole] at hrole
  have hnew_iff : d.state = .new ↔ (rtcPeerConnectionSetRemoteDesc p desc).2.dtlsNew = true :=
    hnew ▸ h.new_iff
  cases asked with
  | none => exact ⟨h.open_, by rw [hrole, Option.getD_none, ite_self]; exact h.role, hnew_iff⟩
  | some role =>
    simp only [Option.elim_some, dtlsStep, if_true]
    split_ifs with hstop
    · refine ⟨h.open_, ?_, hnew_iff⟩
      rw [hrole]
      split_ifs with hn
      · exact hstop.resolve_left (not_not.mpr (h.new_iff.mpr hn))
      · exact h.role
    · refine ⟨h.open_, ?_, hnew_iff⟩
      rw [hrole, if_pos (h.new_iff.mp (not_not.mp (not_or.mp hstop).1))]
      rfl

theorem mediaStep_mirrors {t : MediaPair}
    (h : ∀ y, (t.transport y).Mirrors (t.signaling.peer y)) (m : MediaOp) (y : Side) :
    ((mediaStep cr s t m).transport y).Mirrors ((mediaStep cr s t m).signaling.peer y) := by
  have hkeeps : ∀ {x : Side} {p : SignalingPeer}, p.role = (t.signaling.peer x).role →
      p.dtlsNew = (t.signaling.peer x).dtlsNew →
      (t.transport y).Mirrors (Function.update t.signaling.peer x p y) := fun {x p} hrole hnew => by
    obtain ⟨hopen, hr, hn⟩ := h y
    rcases x.eq_or_other y with rfl | rfl
    · rw [Function.update_self]
      exact ⟨hopen, hr.trans hrole.symm, hnew ▸ hn⟩
    · rw [Function.update_of_ne x.other_ne]
      exact h _
  have hmoves : ∀ {x : Side} {d : DtlsTransport} {p : SignalingPeer}, d.Mirrors p →
      (Function.update t.transport x d y).Mirrors (Function.update t.signaling.peer x p y) :=
    fun {x d p} hd => by
      rcases x.eq_or_other y with rfl | rfl
      · rwa [Function.update_self, Function.update_self]
      · rw [Function.update_of_ne x.other_ne, Function.update_of_ne x.other_ne]
        exact h _
  obtain ⟨op, starts, o⟩ := m
  cases op with
  | createOffer x fits => exact hkeeps (by cases fits <;> rfl) (by cases fits <;> rfl)
  | createAnswer x fits => exact hkeeps (by cases fits <;> rfl) (by cases fits <;> rfl)
  | setLocal x desc =>
    refine hkeeps ?_ ?_ <;> unfold rtcPeerConnectionSetLocalDesc peerTryConnect <;>
      split_ifs <;> rfl
  | setRemote x desc =>
    cases hstarted : (t.signaling.peer x).connectStarted with
    | true =>
      simp only [mediaStep, MediaOp.dtlsCall, hstarted, if_true, Option.elim_none]
      exact hkeeps (by simp [rtcPeerConnectionSetRemoteDesc, hstarted])
        (by simp [rtcPeerConnectionSetRemoteDesc, hstarted])
    | false =>
      have hset := @hmoves x _ _ (@DtlsTransport.Mirrors.setRemote cr s _ _ (h x) hstarted desc)
      simp only [mediaStep, MediaOp.dtlsCall, hstarted, Bool.false_eq_true, if_false]
      cases hrole : peerRuntimeSetRemoteDesc (t.signaling.peer x).localSdp desc.setup with
      | none =>
        rw [hrole, Option.elim_none, Function.update_eq_self] at hset
        exact hset
      | some role =>
        rw [hrole] at hset
        exact hset
  | dtls x => exact hmoves ((h x).handshake starts o)

theorem mediaRun_sound (cr : Crypto) (s : DtlsSession) (ops : List MediaOp) :
    (mediaRun cr s ops).signaling = pairRun {} (ops.map MediaOp.op)
      ∧ ∀ y, ((mediaRun cr s ops).transport y).Mirrors ((mediaRun cr s ops).signaling.peer y)
        ∧ ((mediaRun cr s ops).transport y).Keyed cr s := by
  unfold mediaRun pairRun
  induction ops using List.reverseRecOn with
  | nil => exact ⟨rfl, fun y => ⟨⟨rfl, rfl, by simp⟩, fresh_keyed .client⟩⟩
  | append_singleton ops m ih =>
    rw [List.map_append, List.foldl_append, List.foldl_append, ← ih.1]
    refine ⟨rfl, fun y => ⟨mediaStep_mirrors (fun y => (ih.2 y).1) m y, ?_⟩⟩
    show (((m.dtlsCall _).elim _ fun (x, call) => _ : Side → DtlsTransport) y).Keyed cr s
    cases m.dtlsCall _ with
    | none => exact (ih.2 y).2
    | some call =>
      rcases call.1.eq_or_other y with rfl | rfl
      · simpa using (ih.2 call.1).2.step call.2
      · simpa [Function.update_of_ne call.1.other_ne] using (ih.2 call.1.other).2

/-- **From the descriptions to the media.** Two peers that exchange offer and answer in order, with
no DTLS packet before a remote description, and whose transports complete one handshake, understand
each other. The roles of the transports are those that setting the descriptions gave them. -/
theorem signalled_understands (cr : Crypto) (hcr : cr.Lawful) (s : DtlsSession)
    (ops : List MediaOp)
    (hexchanged : pairRunAll (fun s op => op.exchanged s) {} (ops.map MediaOp.op) = true)
    (hdisciplined : pairRunAll (fun s op => op.disciplined s) {} (ops.map MediaOp.op) = true)
    (hstarted : ∀ y, ((mediaRun cr s ops).signaling.peer y).connectStarted = true)
    (hconnected : ∀ y, ((mediaRun cr s ops).transport y).state = .connected) (x : Side) :
    ∃ send recv, ((mediaRun cr s ops).transport x).srtpSend = some send
      ∧ ((mediaRun cr s ops).transport x.other).srtpRecv = some recv
      ∧ Understands cr send recv := by
  obtain ⟨hpair, hsound⟩ := mediaRun_sound cr s ops
  obtain ⟨ph, hph⟩ := SignalingPair.InPhases.fresh.run _ hexchanged hdisciplined
  rw [← hpair] at hph
  have hne := hph.complementary (hstarted .a) (hstarted .b)
  refine (hsound x).2.understands hcr (hsound x.other).2 ?_ (hconnected x) (hconnected x.other)
  rw [(hsound x).1.role, (hsound x.other).1.role]
  cases x with
  | a => exact hne
  | b => exact hne.symm

def toySession : DtlsSession := ⟨none, fun n => List.replicate n 7⟩

/-- The answerer starts the handshake before the offerer has the answer. -/
def toyOps : List MediaOp :=
  (offerAnswer.take 5).map (⟨·, false, ⟨.complete, true, none, none⟩⟩)
    ++ [⟨.dtls .a, true, ⟨.wantIo, true, none, none⟩⟩,
      ⟨.setRemote .b answerDesc, false, ⟨.complete, true, none, none⟩⟩,
      ⟨.dtls .b, false, ⟨.complete, true, none, none⟩⟩,
      ⟨.dtls .a, false, ⟨.complete, true, none, none⟩⟩]

theorem toyTransport_understands :
    ∃ send recv, ((mediaRun toyCrypto toySession toyOps).transport .a).srtpSend = some send
      ∧ ((mediaRun toyCrypto toySession toyOps).transport .b).srtpRecv = some recv
      ∧ Understands toyCrypto send recv :=
  signalled_understands toyCrypto toyCrypto_lawful toySession toyOps (by decide) (by decide)
    (fun | .a => rfl | .b => rfl) (fun | .a => rfl | .b => rfl) .a

end Mrtc
