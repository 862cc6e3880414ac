import Mathlib.Tactic

/-! # Error codes (`rtc_common.h`, `rtc_err_t`)

A function of the source that returns `RTC_OK` or a negative code is modelled as a function
into `Except RtcErr`; the value it leaves in its output parameters on success is the `ok` one.
-/

namespace Mrtc

inductive RtcErr where
  | generic
  | nomem
  | socket
  | timeout
  | invalid
  | ssl
  | srtp
  | ice
  | sdp
  deriving DecidableEq

end Mrtc
