import Mrtc.Srtp.NonceUnique
import Mrtc.Media.SendPath
import Mrtc.Twcc.Uptime
import Mrtc.Timer.Refinement
import Mrtc.DataChannel.Opening
import Mrtc.Worker.ExactlyOnce
import Mrtc.Worker.Quiet
import Mrtc.Ice.Authentic
import Mrtc.Sdp.RoundTrip
import Mrtc.Ice.StunBounds
import Mrtc.Routing.Order
import Mrtc.Srtp.CounterBlock
import Mrtc.Srtp.Atomic
import Mrtc.Signaling.Relay
import Mrtc.Signaling.Close
import Mrtc.Rtcp.LossFraction
import Mrtc.Rtcp.Nack
import Mrtc.Twcc.Conformance
import Mrtc.Rtp.Retransmit
import Mrtc.Ice.Answers
import Mrtc.Ice.Retry
import Mrtc.Signaling.TransportCc
import Mrtc.Media.MidRouting
import Mrtc.Signaling.Credentials
import Mrtc.Sdp.CandidateLine
import Mrtc.Dtls.Flush
import Mrtc.DataChannel.LifeCycle
import Mrtc.DataChannel.Handles
import Mrtc.Rate.Recovery
import Mrtc.DataChannel.Framing
import Mrtc.Routing.Isolation
import Mrtc.Signaling.FailedJoin
import Mrtc.Conference.Capacity
import Mrtc.Conference.Connections
import Mrtc.Media.ReceiveStats
import Mrtc.Media.JitterEstimate
import Mrtc.Ice.Fragments
import Mrtc.Dtls.SrtpKeys
