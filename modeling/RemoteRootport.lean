import RemoteRootport.DoeEmu.Mailbox
import RemoteRootport.DoeEmu.HandlerCorrectness
import RemoteRootport.DoeEmu.Refinement
import RemoteRootport.DoeEmu.Exchange
import RemoteRootport.DoeEmu.Reset
import RemoteRootport.Bytes.Layout
import RemoteRootport.DoeEmu.StatusRegister
import RemoteRootport.Wire.Records
import RemoteRootport.DoeEmu.Detection
import RemoteRootport.DoeEmu.Discovery
import RemoteRootport.Bytes.Transfer
import RemoteRootport.Machine.Schedule
import RemoteRootport.Relay.ThinServer
import RemoteRootport.Relay.Chain
import RemoteRootport.Relay.Transparency
import RemoteRootport.Relay.Restart
import RemoteRootport.Bytes.Socket
import RemoteRootport.Relay.DaemonDoe
import RemoteRootport.Netlink.Daemon
import RemoteRootport.DoeEmu.Dispatch
import RemoteRootport.DoeEmu.Enumeration
import RemoteRootport.Machine.Interleaving
import RemoteRootport.DoeEmu.Interference
import RemoteRootport.Netlink.Walk
import RemoteRootport.Netlink.Bounds
import RemoteRootport.Netlink.Encoding
import RemoteRootport.Relay.Framing
import RemoteRootport.Service.Endpoint
import RemoteRootport.Service.Exchange
import RemoteRootport.DoeEmu.Device
import RemoteRootport.Relay.Stack
import RemoteRootport.Service.Responding
import RemoteRootport.Netlink.Stack
import RemoteRootport.DoeEmu.Equivalence
import RemoteRootport.Machine.Mortality
import RemoteRootport.Relay.Failure
import RemoteRootport.Relay.Session
import RemoteRootport.Netlink.Startup
import RemoteRootport.Launch.Host
import RemoteRootport.Launch.Following
import RemoteRootport.Launch.Scripts
import RemoteRootport.Log.Entry
import RemoteRootport.DoeEmu.Log
import RemoteRootport.Relay.EmulatorRestart
import RemoteRootport.Relay.Loops
