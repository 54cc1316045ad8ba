import Utp.Guarantees.Pointer
import Utp.Guarantees.Table
import Utp.Guarantees.Mtu
import Utp.Guarantees.Eof
import Utp.Guarantees.Selective
import Utp.Guarantees.Window
import Utp.Guarantees.Probe
import Utp.Guarantees.DeferredAcks
import Utp.Guarantees.Teardown
import Utp.Guarantees.Extensions
import Utp.Guarantees.DelayHistory
import Utp.Guarantees.Average
import Utp.Guarantees.ControlDelay
import Utp.Guarantees.Hash
import Utp.Guarantees.Write
import Utp.Guarantees.AckedBytes
import Utp.Guarantees.Resends
import Utp.Guarantees.Destroy
import Utp.Guarantees.Growth
import Utp.Guarantees.Rtt
import Utp.Guarantees.AckWindow
import Utp.Guarantees.RstInfo
import Utp.Guarantees.Address
import Utp.Invariant.Labels
import Utp.Guarantees.Reset
import Utp.Guarantees.Routing
import Utp.Guarantees.Writable
import Utp.Guarantees.ArmedTimer
import Utp.Guarantees.Bounds
import Utp.Guarantees.Reliability
import Utp.Guarantees.FinRoom
import Utp.Guarantees.EndToEnd
