import Mrtc.Basic.Err
import Mrtc.Lib.CText

/-! # Socket addresses (`rtc_common.c`, `rtc_addr_t`)

The text of an address is what `inet_ntop` writes and `inet_pton` reads, which are parameters.
-/

namespace Mrtc

open Net

inductive AddrFamily where
  | inet
  | inet6
  | other
  deriving DecidableEq

structure RtcAddr where
  family : AddrFamily
  ip : Bytes
  port : Nat
  scope : Nat := 0
  deriving DecidableEq

structure InetText where
  ntop : AddrFamily → Bytes → Bytes
  pton : AddrFamily → Bytes → Option Bytes
  ntop_plain : ∀ family ip, CText.Plain (ntop family ip)

def rtcAddrToString (inet : InetText) (addr : RtcAddr) : Except RtcErr (Bytes × Nat) :=
  match addr.family with
  | .inet | .inet6 => .ok (inet.ntop addr.family addr.ip, addr.port)
  | .other => .error .invalid

def rtcAddrFromString (inet : InetText) (ip : Bytes) (port : Nat) : Except RtcErr RtcAddr :=
  match inet.pton .inet ip with
  | some bytes => .ok { family := .inet, ip := bytes, port := port }
  | none =>
    match inet.pton .inet6 ip with
    | some bytes => .ok { family := .inet6, ip := bytes, port := port }
    | none => .error .invalid

end Mrtc
