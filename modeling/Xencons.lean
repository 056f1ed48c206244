import Xencons.Ring.Stream
import Xencons.Ring.Close
import Xencons.Ring.Cancel
import Xencons.Ring.Copy
import Xencons.Ring.Connect
import Xencons.Ring.Events
import Xencons.Fdo.Power
import Xencons.Fdo.References
import Xencons.Fdo.Remove
import Xencons.Fdo.Enumerate
import Xencons.Thread.Wait
import Xencons.Thread.Power
import Xencons.Console.Sleep
import Xencons.Console.Custody
import Xencons.Console.Handles
import Xencons.Console.Resources
import Xencons.Console.Agree
import Xencons.Monitor.Accept
import Xencons.Monitor.Teardown
import Xencons.Monitor.Shutdown
import Xencons.Monitor.Startup
import Xencons.Console.Open
import Xencons.Fdo.Unsupported
import Xencons.Fdo.Usage
import Xencons.Fdo.Create
import Xencons.Fdo.Holding
import Xencons.Frontend.Backend
import Xencons.Tty.Packets
import Xencons.Tty.Echo
import Xencons.Tty.Screen
import Xencons.Tty.Prompts
import Xencons.Tty.TtyIn
import Xencons.Monitor.Relay
import Xencons.Monitor.Status
import Xencons.Monitor.Balance
import Xencons.Fdo.MultiSz
import Xencons.Fdo.Distribution
import Xencons.Util.Strtok
import Xencons.Registry.CreateKey
import Xencons.Registry.Encode
import Xencons.Fdo.SystemSleep
import Xencons.Driver.Dispatch
import Xencons.Monitor.EndToEnd
import Xencons.Fdo.Follow
import Xencons.Registry.Values
import Xencons.Driver.QueryId
import Xencons.Fdo.Identity
import Xencons.Frontend.Property
import Xencons.Driver.Entry
