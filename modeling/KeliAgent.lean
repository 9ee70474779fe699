import KeliAgent.Lib.Bytes
import KeliAgent.Lib.Cursor
import KeliAgent.Lib.Parser
import KeliAgent.Lib.Text
import KeliAgent.Transport
import KeliAgent.Tunnel.Rules
import KeliAgent.Tunnel.Preflight
import KeliAgent.Lib.Directory
import KeliAgent.Ktp.Frame
import KeliAgent.Ktp.StreamCodec
import KeliAgent.Ktp.Crypto
import KeliAgent.Ktp.Authenticity
import KeliAgent.Ktp.RecordCodec
import KeliAgent.Ktp.EncryptedStream
import KeliAgent.Ktp.Batching
import KeliAgent.Ktp.Delivery
import KeliAgent.Ktp.Sending
import KeliAgent.Ktp.Reconnect
import KeliAgent.Startup
import KeliAgent.Lib.Interleave
import KeliAgent.Tunnel.Payload
import KeliAgent.Tunnel.Queue
import KeliAgent.Lib.Fifo
import KeliAgent.Tunnel.QueueHistory
import KeliAgent.Lib.Condvar
import KeliAgent.Tunnel.Wakeup
import KeliAgent.Tunnel.Core
import KeliAgent.Tunnel.Sessions
import KeliAgent.Tunnel.Runtime
import KeliAgent.Tunnel.Demux
import KeliAgent.Tunnel.Tasks
import KeliAgent.Tunnel.Ledger
import KeliAgent.Tunnel.Accounting
import KeliAgent.Tunnel.Integrity
import KeliAgent.Tunnel.Effects
import KeliAgent.Tunnel.Limit
import KeliAgent.Lib.Pipe
import KeliAgent.Tunnel.Pending
import KeliAgent.Lib.History
import KeliAgent.Lib.Program
import KeliAgent.Tunnel.Closing
import KeliAgent.Tunnel.Outbound
import KeliAgent.Tunnel.Ready
import KeliAgent.Tunnel.Listeners
import KeliAgent.Tunnel.Reconcile
import KeliAgent.Tunnel.Control
import KeliAgent.Tunnel.Threads
import KeliAgent.Tunnel.DataSession
import KeliAgent.Report.Loop
import KeliAgent.Report.Discipline
import KeliAgent.Report.Recovery
import KeliAgent.Report.Connectivity
import KeliAgent.Lib.Table
import KeliAgent.Lib.Meter
import KeliAgent.Report.NetStatic
import KeliAgent.Report.Traffic
import KeliAgent.Lib.Utf8
import KeliAgent.Lib.Format
import KeliAgent.Lib.Ip
import KeliAgent.Lib.Words
import KeliAgent.Lib.Checked
import KeliAgent.Lib.Regex
import KeliAgent.Lib.Layers
import KeliAgent.Tunnel.PayloadForms
import KeliAgent.Tunnel.DataPayloads
import KeliAgent.Tunnel.Attach
import KeliAgent.Tunnel.Allowlist
import KeliAgent.Tunnel.BatchPolicy
import KeliAgent.Lib.Ranks
import KeliAgent.Tunnel.Dwell
import KeliAgent.Lib.CompareExchange
import KeliAgent.Tunnel.Counters
import KeliAgent.Token
import KeliAgent.Host.ResetDate
import KeliAgent.Host.Dns
import KeliAgent.Host.PublicIp
import KeliAgent.Lib.Grouped
import KeliAgent.Host.Disk
import KeliAgent.Config.Values
import KeliAgent.Config.Sources
import KeliAgent.Config.Arguments
import KeliAgent.Config.Resolution
import KeliAgent.Ktp.Broken
import KeliAgent.Ktp.Relay
import KeliAgent.Tunnel.Arrival
import KeliAgent.Tunnel.Carrier
import KeliAgent.Tunnel.Inbound
import KeliAgent.Terminal
