import LinkControl.JavaClient.Listener
import LinkControl.JavaClient.DeviceList
import LinkControl.JavaClient.Ageing
import LinkControl.JavaClient.BackOff
import LinkControl.JavaClient.ClientStatus
import LinkControl.JavaClient.FirstDevice
import LinkControl.JavaClient.Asking
import LinkControl.LinuxClient.Independence
import LinkControl.LinuxClient.Truncated
import LinkControl.Server.Receive
import LinkControl.Server.Traffic
import LinkControl.Server.Causes
import LinkControl.Server.Users
import LinkControl.Server.Line
import LinkControl.Server.InTouch
import LinkControl.Server.Abandoned
import LinkControl.LinuxClient.Network
import LinkControl.Server.FailSafe
import LinkControl.Server.Order
import LinkControl.Server.Stranded
import LinkControl.Server.Refinement
import LinkControl.Server.Edges
import LinkControl.Server.Atomicity
import LinkControl.Server.Departure
import LinkControl.Server.Mirror
import LinkControl.Server.Redial
import LinkControl.Server.ConnectTime
import LinkControl.Server.Sweeps
import LinkControl.Server.Buffers
import LinkControl.Lib.Run
import LinkControl.Lib.Edits
import LinkControl.Config.Established
import LinkControl.Config.ServerOptions
import LinkControl.Config.CommandLine
import LinkControl.Lib.CString
import LinkControl.Peer.Notify
