import DraMultiDevice.Handler.Types
import DraMultiDevice.Nri.Tracker
import DraMultiDevice.Nri.Annotations
import DraMultiDevice.Node.Prog
import DraMultiDevice.Handler.Netdev
import DraMultiDevice.Handler.Rdma
import DraMultiDevice.Handler.Combo
import DraMultiDevice.Handler.Registry
import DraMultiDevice.Driver.Store
import DraMultiDevice.Driver.Claims
import DraMultiDevice.Nri.Plugin
import DraMultiDevice.Driver.Durable
import DraMultiDevice.Handler.Tracking
import DraMultiDevice.System.Node
import DraMultiDevice.System.Agreement
import DraMultiDevice.System.Relocation
import DraMultiDevice.Nri.Pinning
import DraMultiDevice.Handler.Links
import DraMultiDevice.System.Interfaces
import DraMultiDevice.System.Interleaving
import DraMultiDevice.System.Frame
import DraMultiDevice.System.Provenance
import DraMultiDevice.System.Memory
import DraMultiDevice.System.Confinement
import DraMultiDevice.System.SharedTracker
