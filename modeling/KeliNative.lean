import KeliNative.Tun.Acknowledged
import KeliNative.Tun.ServerStream
import KeliNative.Tun.LongTransfer
import KeliNative.Tun.Retransmit
import KeliNative.Tun.FailedSteps
import KeliNative.Tun.HalfClose
import KeliNative.Tun.Answering
import KeliNative.Framing.WebSocketAlloc
import KeliNative.Framing.WebSocketRoundTrip
import KeliNative.Framing.MieruRoundTrip
import KeliNative.Http.Truncation
import KeliNative.Dns.Answers
import KeliNative.Dns.WireResponse
import KeliNative.Proxy.HttpReuse
import KeliNative.Proxy.BadDatagrams
import KeliNative.Tun.Checksums
import KeliNative.Tun.PacketSafety
import KeliNative.Client.SupportBundle
import KeliNative.Client.TunLoops
import KeliNative.Client.ProxyBalance
import KeliNative.Quic.SealedSegments
import KeliNative.Framing.EmptyFrames
import KeliNative.Tun.Resets
import KeliNative.Protocol.Hy2
import KeliNative.Protocol.LegacyLinks
import KeliNative.Protocol.UdpFrames
import KeliNative.Protocol.ShareEncoding
import KeliNative.Platform.RouteTakeover
import KeliNative.Client.UpdatePlan
import KeliNative.Client.ConnectionMetrics
import KeliNative.Client.Recommendation
