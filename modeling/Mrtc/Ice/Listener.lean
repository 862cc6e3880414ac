import Mrtc.Basic.Addr
import Mrtc.Ice.Stun

/-! # Transports on one listener (`rtc_listener.c`, `rtc_transport.c`)

The ICE part of the transports that share a listener, and the listener's three tables of routes: by
local user fragment, by the transaction id of an outstanding check, and by remote address.
-/

namespace Mrtc

open Net

structure TupleKey where
  family : AddrFamily
  ip : Bytes
  port : Nat
  deriving DecidableEq

def tupleKey (addr : RtcAddr) : Except RtcErr TupleKey :=
  match addr.family with
  | .inet | .inet6 => .ok ⟨addr.family, addr.ip, addr.port⟩
  | .other => .error .invalid

inductive IceMode where
  | full
  | lite
  deriving DecidableEq

structure IceTransport where
  mode : IceMode
  ufrag : Bytes
  pwd : Bytes
  remoteIce : Option (Bytes × Bytes) := none
  remoteCandidate : Option RtcAddr := none
  selected : Option RtcAddr := none
  txn : Option Bytes := none
  timer : Bool := false
  checkCount : Nat := 0
  closed : Bool := false
  torn : Bool := false
  deriving DecidableEq

structure IceListener where
  ufrags : Bytes → Option Nat := fun _ => none
  txns : Bytes → Option Nat := fun _ => none
  tuples : TupleKey → Option Nat := fun _ => none
  transports : List IceTransport := []

structure IceFault where
  route : Bool := true
  timer : Bool := true
  send : Bool := true
  deriving DecidableEq

def listenerRegisterRoute {K : Type} [DecidableEq K] (routes : K → Option Nat) (key : K) (i : Nat)
    (alloc : Bool) : Except RtcErr (K → Option Nat) :=
  if alloc then .ok (Function.update routes key (some i)) else .error .nomem

def listenerUnregisterRoute {K : Type} [DecidableEq K] (routes : K → Option Nat) (key : K) :
    K → Option Nat :=
  Function.update routes key none

def rtcListenerRegisterTuple (tuples : TupleKey → Option Nat) (addr : RtcAddr) (i : Nat)
    (alloc : Bool) : Except RtcErr (TupleKey → Option Nat) := do
  let key ← tupleKey addr
  listenerRegisterRoute tuples key i alloc

def rtcListenerUnregisterTuple (tuples : TupleKey → Option Nat) (addr : RtcAddr) :
    TupleKey → Option Nat :=
  match tupleKey addr with
  | .ok key => listenerUnregisterRoute tuples key
  | .error _ => tuples

def IceListener.set (l : IceListener) (i : Nat) (t : IceTransport) : IceListener :=
  { l with transports := l.transports.set i t }

/-! ## Packets -/

def transportSelect (l : IceListener) (i : Nat) (t : IceTransport) (source : RtcAddr)
    (alloc : Bool) : IceListener :=
  { l with
    transports := l.transports.set i { t with selected := some source }
    tuples :=
      match rtcListenerRegisterTuple l.tuples source i alloc with
      | .ok tuples => tuples
      | .error _ => l.tuples }

def transportUnregisterIceTxn (txns : Bytes → Option Nat) (t : IceTransport) :
    Bytes → Option Nat :=
  match t.txn with
  | some txn => listenerUnregisterRoute txns txn
  | none => txns

def transportOnPacket (l : IceListener) (i : Nat) (data : Bytes) (source : RtcAddr) (alloc : Bool) :
    IceListener :=
  match l.transports[i]? with
  | none => l
  | some t =>
    if t.closed then l
    else
      match rtcStunParse data with
      | .error _ => l
      | .ok msg =>
        if msg.type = stunBindingResponse then
          if t.txn ≠ some msg.txnId then l
          else
            let l' := { l with txns := transportUnregisterIceTxn l.txns t }
            let t' := { t with txn := none, timer := false }
            if t.selected.isNone then transportSelect l' i t' source alloc else l'.set i t'
        else if msg.type ≠ stunBindingRequest then l
        else if t.selected.isNone then transportSelect l i t source alloc
        else l

/-- The transport that `listener_route_stun` hands a message to: a request by its user fragment,
and otherwise any message by its transaction id. -/
def listenerRouteStun (l : IceListener) (data : Bytes) : Option Nat :=
  match rtcStunParse data with
  | .error _ => none
  | .ok msg =>
    let byUfrag :=
      if msg.type = stunBindingRequest then
        match usernameLocalUfrag msg with
        | .ok ufrag => l.ufrags ufrag
        | .error _ => none
      else none
    byUfrag.or (l.txns msg.txnId)

def listenerOnPacket (l : IceListener) (data : Bytes) (source : RtcAddr) (alloc : Bool) :
    IceListener :=
  match listenerRouteStun l data with
  | some i => transportOnPacket l i data source alloc
  | none => l

/-! ## Calls -/

def rtcTransportCreate (l : IceListener) (mode : IceMode) (ufrag pwd : Bytes) (alloc : Bool) :
    IceListener :=
  match listenerRegisterRoute l.ufrags ufrag l.transports.length alloc with
  | .ok ufrags =>
    { l with
      ufrags := ufrags
      transports := l.transports ++ [{ mode := mode, ufrag := ufrag, pwd := pwd }] }
  | .error _ => l

def txRestartIceImpl (l : IceListener) (i : Nat) (t : IceTransport)
    (random : Option (Bytes × Bytes)) (alloc : Bool) : IceListener :=
  if t.selected.isSome then l
  else
    let ufrags := listenerUnregisterRoute l.ufrags t.ufrag
    match random with
    | none => { l with ufrags := ufrags }
    | some (ufrag, pwd) =>
      let l' := l.set i { t with ufrag := ufrag, pwd := pwd }
      match listenerRegisterRoute ufrags ufrag i alloc with
      | .ok ufrags => { l' with ufrags := ufrags }
      | .error _ => { l' with ufrags := ufrags }

def transportArmIceTimer (t : IceTransport) (alloc : Bool) : IceTransport :=
  if t.selected.isSome || t.closed then t
  else if t.timer then t
  else { t with timer := alloc }

/-- `transport_send_ice_check` with the transaction id of the request it builds, and the arming of
the timer that follows where it returns `RTC_OK`. -/
def transportSendIceCheck (l : IceListener) (i : Nat) (t : IceTransport) (txn : Bytes)
    (fault : IceFault) : IceListener :=
  if t.remoteIce.isNone || t.remoteCandidate.isNone then l.set i t
  else
    let txns := transportUnregisterIceTxn l.txns t
    match listenerRegisterRoute txns txn i fault.route with
    | .error _ => { l.set i { t with txn := none } with txns := txns }
    | .ok txns =>
      if fault.send then
        { l.set i (transportArmIceTimer
            { t with txn := some txn, checkCount := t.checkCount + 1 } fault.timer) with
          txns := txns }
      else { l.set i { t with txn := some txn } with txns := txns }

def txStartIceImpl (l : IceListener) (i : Nat) (t : IceTransport) (txn : Bytes)
    (fault : IceFault) : IceListener :=
  if t.mode ≠ .full then l
  else if t.selected.isSome then l
  else transportSendIceCheck l i t txn fault

def transportIceTimer (l : IceListener) (i : Nat) (t : IceTransport) (txn : Bytes)
    (fault : IceFault) : IceListener :=
  if !t.timer then l
  else if t.closed || t.selected.isSome then l.set i { t with timer := false }
  else if 120 ≤ t.checkCount then l.set i { t with timer := false }
  else transportSendIceCheck l i { t with timer := false } txn fault

def txCloseImpl (l : IceListener) (i : Nat) (t : IceTransport) : IceListener :=
  if !t.closed || t.torn then l
  else
    { l.set i { t with txn := none, timer := false, torn := true } with
      ufrags := listenerUnregisterRoute l.ufrags t.ufrag
      txns := transportUnregisterIceTxn l.txns t
      tuples :=
        match t.selected with
        | some remote => rtcListenerUnregisterTuple l.tuples remote
        | none => l.tuples }

inductive IceOp where
  | create (mode : IceMode) (ufrag pwd : Bytes) (alloc : Bool)
  | setRemoteIce (i : Nat) (ufrag pwd : Bytes)
  | addCandidate (i : Nat) (addr : RtcAddr)
  | startIce (i : Nat) (txn : Bytes) (fault : IceFault)
  | iceTimer (i : Nat) (txn : Bytes) (fault : IceFault)
  | restartIce (i : Nat) (random : Option (Bytes × Bytes)) (alloc : Bool)
  | packet (data : Bytes) (source : RtcAddr) (alloc : Bool)
  | close (i : Nat)
  | teardown (i : Nat)
  deriving DecidableEq

def IceListener.call (l : IceListener) (i : Nat) (f : IceTransport → IceListener) : IceListener :=
  match l.transports[i]? with
  | some t => f t
  | none => l

def iceStep (l : IceListener) : IceOp → IceListener
  | .create mode ufrag pwd alloc => rtcTransportCreate l mode ufrag pwd alloc
  | .setRemoteIce i ufrag pwd =>
    l.call i fun t =>
      if ufrag = [] ∨ pwd = [] then l else l.set i { t with remoteIce := some (ufrag, pwd) }
  | .addCandidate i addr => l.call i fun t => l.set i { t with remoteCandidate := some addr }
  | .startIce i txn fault => l.call i fun t => txStartIceImpl l i t txn fault
  | .iceTimer i txn fault => l.call i fun t => transportIceTimer l i t txn fault
  | .restartIce i random alloc => l.call i fun t => txRestartIceImpl l i t random alloc
  | .packet data source alloc => listenerOnPacket l data source alloc
  | .close i => l.call i fun t => l.set i { t with closed := true }
  | .teardown i => l.call i fun t => txCloseImpl l i t

def iceRun (l : IceListener) (ops : List IceOp) : IceListener := ops.foldl iceStep l

end Mrtc
