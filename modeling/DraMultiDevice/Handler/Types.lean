import Mathlib.Data.List.AList

/-!
# Handler data model

The records of `pkg/handler/types.go` and of the CDI container edits they carry,
together with the handlers the repository implements. Go strings are Lean strings,
Go `int` is `Int`, a Go `map[string]string` built from a literal is an association
list read with Go's zero-value convention (`Metadata.get`), and a pointer that the
code never leaves nil is the value itself, while a pointer it tests against nil is
an `Option`.
-/

namespace DraMultiDevice

/-- `strings.HasPrefix`. A Lean string is valid UTF-8, so the strings that are byte
prefixes of it are its character prefixes. -/
def hasPrefix (s pre : String) : Bool := pre.data.isPrefixOf s.data

/-- `handler.DeviceType`, a Go string type. -/
structure DeviceType where
  name : String
  deriving DecidableEq, Repr

def deviceTypeNetdev : DeviceType := ⟨"netdev"⟩
def deviceTypeRDMA : DeviceType := ⟨"rdma"⟩
def deviceTypeCombo : DeviceType := ⟨"combo"⟩

/-- A handler's metadata, `map[string]string`, as the literal's key-value list. -/
abbrev Metadata := List (String × String)

/-- `m[key]`: the stored value, or the empty string when the key is absent. -/
def Metadata.get (m : Metadata) (key : String) : String :=
  (m.lookup key).getD ""

/-- `handler.AllocationInfo`: the record persisted per claim, enough to undo a prepare. -/
structure AllocationInfo where
  type : DeviceType
  kind : String
  claimUID : String
  deviceName : String
  metadata : Metadata
  deriving DecidableEq, Repr

structure NetdevConfig where
  kind : String
  interfaceName : String := ""
  mtu : Int := 0
  parent : String := ""
  mode : String := ""
  vfIndex : Int := 0
  hostDevice : String := ""
  pkey : Int := 0
  deriving DecidableEq, Repr

structure RDMAConfig where
  preferDevice : String := ""
  deriving DecidableEq, Repr

/-- `handler.ComboConfig`: both sub-configurations, held by value. -/
structure ComboConfig where
  rdma : RDMAConfig
  netdev : NetdevConfig
  deriving DecidableEq, Repr

/-- `handler.DeviceConfig`: the type tag and the optional per-type payloads. -/
structure DeviceConfig where
  type : DeviceType
  netdev : Option NetdevConfig := none
  rdma : Option RDMAConfig := none
  combo : Option ComboConfig := none
  deriving DecidableEq, Repr

/-- `DeviceConfig.GetKind`: the kind a configuration selects within its type. -/
def DeviceConfig.getKind (c : DeviceConfig) : String :=
  if c.type = deviceTypeNetdev then (c.netdev.map NetdevConfig.kind).getD ""
  else if c.type = deviceTypeRDMA then "uverbs"
  else if c.type = deviceTypeCombo then "roce"
  else ""

/-! ### CDI container edits -/

structure DeviceNode where
  path : String
  hostPath : String
  permissions : String
  deriving DecidableEq, Repr

structure Mount where
  hostPath : String
  containerPath : String
  options : List String
  deriving DecidableEq, Repr

structure LinuxNetDevice where
  hostInterfaceName : String
  name : String
  deriving DecidableEq, Repr

/-- `cdispec.ContainerEdits`, restricted to the four edit lists the handlers fill. -/
structure ContainerEdits where
  deviceNodes : List DeviceNode := []
  mounts : List Mount := []
  netDevices : List LinuxNetDevice := []
  env : List String := []
  deriving DecidableEq, Repr

/-! ### Requests and results -/

structure PrepareRequest where
  claimUID : String
  allocatedDevice : String
  config : DeviceConfig
  deriving DecidableEq, Repr

structure PrepareResult where
  poolName : String
  deviceName : String
  cdiEdits : ContainerEdits
  allocation : AllocationInfo
  deriving DecidableEq, Repr

structure UnprepareRequest where
  claimUID : String
  allocation : AllocationInfo
  deriving DecidableEq, Repr

/-! ### The repository's handlers -/

/-- The `DeviceHandler` implementations of the repository. `uverbs` records whether
its `Tracker` field is set, and `roce` is `combo.RoCEHandler` over its two
sub-handlers. -/
inductive Handler where
  | macvlan
  | ipvlan
  | veth
  | sriovVf
  | dummy
  | hostDevice
  | ipoib
  | uverbs (hasTracker : Bool)
  | roce (rdmaHandler netdevHandler : Handler)
  deriving DecidableEq, Repr

def Handler.type : Handler → DeviceType
  | .uverbs _ => deviceTypeRDMA
  | .roce _ _ => deviceTypeCombo
  | _ => deviceTypeNetdev

def Handler.kinds : Handler → List String
  | .macvlan => ["macvlan"]
  | .ipvlan => ["ipvlan"]
  | .veth => ["veth"]
  | .sriovVf => ["sriov-vf"]
  | .dummy => ["dummy"]
  | .hostDevice => ["host-device"]
  | .ipoib => ["ipoib"]
  | .uverbs _ => ["uverbs"]
  | .roce _ _ => ["roce"]

/-- The netdev handlers, the ones `combo.RoCEHandler` may take on its network side. -/
def Handler.IsNetdev (h : Handler) : Prop :=
  h = .macvlan ∨ h = .ipvlan ∨ h = .veth ∨ h = .sriovVf ∨ h = .dummy ∨
    h = .hostDevice ∨ h = .ipoib

end DraMultiDevice
