import OpenDove.Configuration
import OpenDove.LookupLiveness
import OpenDove.LookupCompleteness
import OpenDove.HostingRuns
import OpenDove.NodeTimeouts
import OpenDove.ReplicationLiveness
import OpenDove.MulticastSnapshot
import OpenDove.RegistryRuns
import OpenDove.MulticastUpdates
import OpenDove.PolicyRuns
import OpenDove.Retransmit
import OpenDove.Resolution
import OpenDove.EntryPoints
import OpenDove.PacketBounds
import OpenDove.PollTable
import OpenDove.ServerTable
import OpenDove.StoreViews
import OpenDove.MessageQueue
import OpenDove.TimerDeadlines
import OpenDove.RawPacketOutcomes
import OpenDove.ChangeFeed
import OpenDove.ConfigSync
import OpenDove.KeepAlive
import OpenDove.FloatingIPs
import OpenDove.GatewayIds
import OpenDove.Deactivation
import OpenDove.UpdateRejection
import OpenDove.SnatPools
import OpenDove.GatewayTunnels
import OpenDove.SwitchAgent
import OpenDove.Election
import OpenDove.Leadership
import OpenDove.TransferSections
import OpenDove.TransferCompleteness
import OpenDove.PacketLengths
import OpenDove.PacketReadback
import OpenDove.PacketTransfer
