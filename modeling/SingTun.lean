import SingTun.Offload.GroOrder
import SingTun.Offload.GroPush
import SingTun.System.Mixed
import SingTun.Route.Ipvs
import SingTun.Ping.Delivery
import SingTun.Redirect.Cleanup
import SingTun.Redirect.Output
import SingTun.Ping.Solicited
import SingTun.Ping.Unprivileged
import SingTun.Route.Configure
import SingTun.Monitor.Default
import SingTun.Route.Packages
import SingTun.Redirect.Uids
import SingTun.Offload.Overlap
import SingTun.System.Checksums
import SingTun.Offload.GroChecksums
import SingTun.System.NatTimed
import SingTun.System.NatLive
import SingTun.System.Resets
import SingTun.System.Errors
import SingTun.System.UdpReplies
import SingTun.System.Fragments
import SingTun.Mips.Batch
import SingTun.Redirect.RouteMarks
import SingTun.Redirect.Pieces
import SingTun.Route.RangeSets
import SingTun.Ping.DestinationRewriter
import SingTun.Ping.Received
import SingTun.System.Accept
import SingTun.Ping.Requests
import SingTun.Header.NativeChecksum
