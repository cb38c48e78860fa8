import WpDaemon.Bytes
import WpDaemon.StateMachine
import WpDaemon.Json
import WpDaemon.Utf8
import WpDaemon.World
import WpDaemon.LogManager
import WpDaemon.WireProxyProcess
import WpDaemon.ConfigManager
import WpDaemon.CommandHandler
import WpDaemon.Supervisor
import WpDaemon.Invariant
import WpDaemon.Refinement
import WpDaemon.Failures
import WpDaemon.LogReuse
import WpDaemon.TcpServer
import WpDaemon.Daemon
import WpDaemon.Watchdog
import WpDaemon.ReplySerialization
import WpDaemon.Framing
import WpDaemon.ArgParser
import WpDaemon.Hoare
import WpDaemon.Machine
import WpDaemon.Dispatcher
import WpDaemon.Requests
import WpDaemon.ConfigListing
import WpDaemon.Termination
import WpDaemon.Audit
import WpDaemon.JsonParse
import WpDaemon.InteractiveCli
import WpDaemon.Threads
