import DraMultiDevice.Node.Prog

/-!
# Network-interface handlers

`pkg/handler/netdev`: the `dummy`, `veth`, `macvlan`, `ipvlan`, `sriov-vf` and
`host-device` handlers, each a `Validate`, a `Prepare` and an `Unprepare` over the
netlink calls they make. The `ipoib` handler, which the source keeps beside the RDMA
code, is in `Handler/Rdma`.
-/

namespace DraMultiDevice

open Prog (check checkUndo ofOption)

/-- `claimUID[:8]`, the prefix that names a claim's interfaces and files. Go slices
eight bytes and panics on a shorter UID; on the kubelet's UIDs, ASCII UUIDs, that is the
first eight characters, taken here. `Driver.FileSafe` states the precondition. -/
def uidPrefix (claimUID : String) : String := ⟨claimUID.data.take 8⟩

/-- `cfg.InterfaceName`, or the handler's default when it is empty. -/
def containerNameOr (cfg : NetdevConfig) (default : String) : String :=
  if cfg.interfaceName = "" then default else cfg.interfaceName

/-- The MTU set on a new link: `cfg.MTU` when positive, otherwise left at zero. -/
def linkMTU (cfg : NetdevConfig) : Int := if cfg.mtu > 0 then cfg.mtu else 0

/-- The netdev configuration every netdev handler requires first. -/
def requireNetdev (cfg : DeviceConfig) (kind : String) : NodeProg NetdevConfig :=
  ofOption cfg.netdev s!"netdev config is required for {kind}"

/-- A netdev request whose configuration names one interface, with the
`PrepareResult` the handlers build for it. -/
def netdevResult (claimUID kind ifName containerName : String) (metadata : Metadata) :
    PrepareResult where
  poolName := "default"
  deviceName := ifName
  cdiEdits := { netDevices := [⟨ifName, containerName⟩] }
  allocation := ⟨deviceTypeNetdev, kind, claimUID, ifName, metadata⟩

/-! ### Validate -/

/-- The validation shared by the netdev handlers: a netdev configuration, and each
listed field non-empty, with its own message. -/
def validateNetdev (kind : String) (required : List (NetdevConfig → String × String))
    (cfg : DeviceConfig) : NodeProg Unit := do
  let netdev ← requireNetdev cfg kind
  for field in required do
    let (value, message) := field netdev
    if value = "" then throw message

def dummyValidate : DeviceConfig → NodeProg Unit := validateNetdev "dummy" []
def vethValidate : DeviceConfig → NodeProg Unit := validateNetdev "veth" []
def sriovVfValidate : DeviceConfig → NodeProg Unit := validateNetdev "sriov-vf" []
def macvlanValidate : DeviceConfig → NodeProg Unit :=
  validateNetdev "macvlan" [fun c => (c.parent, "parent interface is required for macvlan")]
def ipvlanValidate : DeviceConfig → NodeProg Unit :=
  validateNetdev "ipvlan" [fun c => (c.parent, "parent interface is required for ipvlan")]
def hostDeviceValidate : DeviceConfig → NodeProg Unit :=
  validateNetdev "host-device" [fun c => (c.hostDevice,
    "hostDevice (the name of the existing host interface) is required for host-device")]

/-- What the netdev handlers' `Validate` answers, without a step: the netdev
configuration is required, then each listed field in turn must be non-empty, the first
empty one failing with its own message. -/
theorem run_validateNetdev (kind : String) (required : List (NetdevConfig → String × String))
    (cfg : DeviceConfig) (w : World) :
    (validateNetdev kind required cfg).run w =
      (match cfg.netdev with
       | none => .error s!"netdev config is required for {kind}"
       | some netdev =>
         match (required.map (· netdev)).find? (·.1 = "") with
         | some field => .error field.2
         | none => .ok (), w) := by
  rcases given : cfg.netdev with _ | netdev
  · simp [validateNetdev, requireNetdev, given]
  · simp only [validateNetdev, requireNetdev, given, Prog.run_bind, Prog.run_ofOption_some, Prog.runThen_ok]
    induction required with
    | nil => rfl
    | cons field rest ih =>
      rw [List.forIn_cons]
      by_cases empty : (field netdev).1 = ""
      · simp [empty]
      · simpa [empty] using ih

/-! ### Prepare -/

/-- Bring a link up, deleting `created` and failing with `message` if that fails. -/
def linkSetUpOrDelete (name created : String) (message : String → String) : NodeProg Unit :=
  checkUndo (kernel (.linkSetUp name)) (discard (kernel (.linkDel created))) message

/-- `DummyHandler.Prepare`. -/
def dummyPrepare (req : PrepareRequest) : NodeProg PrepareResult := do
  let cfg ← requireNetdev req.config "dummy"
  let ifName := "dm" ++ uidPrefix req.claimUID
  let containerName := containerNameOr cfg "eth1"
  check (kernel (.linkAdd (.dummy ifName (linkMTU cfg)))) fun err =>
    s!"failed to create dummy interface {ifName}: {err}"
  let _ ← checkUndo (kernel (.linkByName ifName)) (discard (kernel (.linkDel ifName))) fun err =>
    s!"failed to find dummy interface {ifName} after creation: {err}"
  linkSetUpOrDelete ifName ifName fun err => s!"failed to bring up dummy interface {ifName}: {err}"
  return netdevResult req.claimUID "dummy" ifName containerName
    [("createdInterface", ifName), ("containerName", containerName)]

/-- `VethHandler.Prepare`: the container end is the device handed to the pod. -/
def vethPrepare (req : PrepareRequest) : NodeProg PrepareResult := do
  let cfg ← requireNetdev req.config "veth"
  let hostEnd := "vh" ++ uidPrefix req.claimUID
  let containerEnd := "vc" ++ uidPrefix req.claimUID
  let containerName := containerNameOr cfg "eth1"
  check (kernel (.linkAdd (.veth hostEnd containerEnd (linkMTU cfg)))) fun err =>
    s!"failed to create veth pair {hostEnd}/{containerEnd}: {err}"
  let _ ← checkUndo (kernel (.linkByName hostEnd)) (discard (kernel (.linkDel hostEnd))) fun err =>
    s!"failed to find host veth {hostEnd}: {err}"
  linkSetUpOrDelete hostEnd hostEnd fun err => s!"failed to bring up host veth {hostEnd}: {err}"
  let _ ← checkUndo (kernel (.linkByName containerEnd)) (discard (kernel (.linkDel hostEnd)))
    fun err => s!"failed to find container veth {containerEnd}: {err}"
  linkSetUpOrDelete containerEnd hostEnd fun err =>
    s!"failed to bring up container veth {containerEnd}: {err}"
  return netdevResult req.claimUID "veth" containerEnd containerName
    [("hostEnd", hostEnd), ("containerEnd", containerEnd), ("containerName", containerName)]

/-- The mode names `MacvlanHandler.Prepare` accepts. -/
def macvlanMode : String → Option MacvlanMode
  | "vepa" => some .vepa
  | "private" => some .private
  | "bridge" | "" => some .bridge
  | _ => none

/-- The mode names `IpvlanHandler.Prepare` accepts. -/
def ipvlanMode : String → Option IPVlanMode
  | "l3" => some .l3
  | "l2" | "" => some .l2
  | _ => none

/-- `MacvlanHandler.Prepare`. -/
def macvlanPrepare (req : PrepareRequest) : NodeProg PrepareResult := do
  let cfg ← requireNetdev req.config "macvlan"
  if cfg.parent = "" then throw "parent interface is required for macvlan"
  let mode ← ofOption (macvlanMode cfg.mode) s!"unsupported macvlan mode: {cfg.mode}"
  let ifName := "mv" ++ uidPrefix req.claimUID
  let containerName := containerNameOr cfg "eth1"
  let parentIndex ← check (kernel (.linkByName cfg.parent)) fun err =>
    s!"parent interface {cfg.parent} not found: {err}"
  check (kernel (.linkAdd (.macvlan ifName parentIndex mode (linkMTU cfg)))) fun err =>
    s!"failed to create macvlan interface {ifName}: {err}"
  linkSetUpOrDelete ifName ifName fun err => s!"failed to bring up macvlan interface {ifName}: {err}"
  return netdevResult req.claimUID "macvlan" ifName containerName
    [("createdInterface", ifName), ("parent", cfg.parent), ("containerName", containerName)]

/-- `IpvlanHandler.Prepare`. -/
def ipvlanPrepare (req : PrepareRequest) : NodeProg PrepareResult := do
  let cfg ← requireNetdev req.config "ipvlan"
  if cfg.parent = "" then throw "parent interface is required for ipvlan"
  let mode ← ofOption (ipvlanMode cfg.mode) s!"unsupported ipvlan mode: {cfg.mode}"
  let ifName := "iv" ++ uidPrefix req.claimUID
  let containerName := containerNameOr cfg "eth1"
  let parentIndex ← check (kernel (.linkByName cfg.parent)) fun err =>
    s!"parent interface {cfg.parent} not found: {err}"
  check (kernel (.linkAdd (.ipvlan ifName parentIndex mode (linkMTU cfg)))) fun err =>
    s!"failed to create ipvlan interface {ifName}: {err}"
  linkSetUpOrDelete ifName ifName fun err => s!"failed to bring up ipvlan interface {ifName}: {err}"
  return netdevResult req.claimUID "ipvlan" ifName containerName
    [("createdInterface", ifName), ("parent", cfg.parent), ("containerName", containerName)]

/-- The scan of `findAvailableVF` over the PF's `virtfn*` entries. -/
def firstVirtfnNet (pfDeviceDir : String) : List String → NodeProg (Option String)
  | [] => pure none
  | entry :: rest => do
    if !hasPrefix entry "virtfn" then firstVirtfnNet pfDeviceDir rest
    else
      match ← kernel (.readDir (pfDeviceDir ++ "/" ++ entry ++ "/net")) with
      | .ok (name :: _) => pure (some name)
      | _ => firstVirtfnNet pfDeviceDir rest

def findAvailableVF (pfName : String) (vfIndex : Int) : NodeProg String := do
  if vfIndex ≥ 0 then
    match ← kernel (.readDir s!"/sys/class/net/{pfName}/device/virtfn{vfIndex}/net") with
    | .error err => throw s!"VF index {vfIndex} not found on PF {pfName}: {err}"
    | .ok (name :: _) => pure name
    | .ok [] => throw s!"no net device for VF index {vfIndex} on PF {pfName}"
  else
    let pfDeviceDir := s!"/sys/class/net/{pfName}/device"
    match ← kernel (.readDir pfDeviceDir) with
    | .error err => throw s!"failed to read PF device dir: {err}"
    | .ok entries =>
      match ← firstVirtfnNet pfDeviceDir entries with
      | some name => pure name
      | none => throw s!"no available VFs found on PF {pfName}"

/-- `SriovVfHandler.Prepare`: the VF the scheduler picked, or one found on the PF. -/
def sriovVfPrepare (req : PrepareRequest) : NodeProg PrepareResult := do
  let cfg ← requireNetdev req.config "sriov-vf"
  let containerName := containerNameOr cfg "eth1"
  let vfName ← if req.allocatedDevice ≠ "" then pure req.allocatedDevice else do
    if cfg.parent = "" then
      throw "either allocated device or parent PF must be specified for sriov-vf"
    tryCatch (findAvailableVF cfg.parent cfg.vfIndex) fun err =>
      throw s!"failed to find VF on parent {cfg.parent}: {err}"
  let _ ← check (kernel (.linkByName vfName)) fun err => s!"VF interface {vfName} not found: {err}"
  if cfg.mtu > 0 then
    check (kernel (.linkSetMTU vfName cfg.mtu)) fun err =>
      s!"failed to set MTU on VF {vfName}: {err}"
  check (kernel (.linkSetUp vfName)) fun err => s!"failed to bring up VF {vfName}: {err}"
  return netdevResult req.claimUID "sriov-vf" vfName containerName
    [("vfInterface", vfName), ("containerName", containerName)]

/-- `HostDeviceHandler.Prepare`: hand over an existing host interface. -/
def hostDevicePrepare (req : PrepareRequest) : NodeProg PrepareResult := do
  let cfg ← requireNetdev req.config "host-device"
  let hostIF := cfg.hostDevice
  if hostIF = "" then throw "hostDevice is required for host-device"
  let containerName := containerNameOr cfg hostIF
  let _ ← check (kernel (.linkByName hostIF)) fun err =>
    s!"host interface \"{hostIF}\" not found: {err}"
  if cfg.mtu > 0 then
    check (kernel (.linkSetMTU hostIF cfg.mtu)) fun err => s!"failed to set MTU on {hostIF}: {err}"
  return netdevResult req.claimUID "host-device" hostIF containerName
    [("hostDevice", hostIF), ("containerName", containerName)]

/-! ### Unprepare -/

/-- The release shared by the handlers that created their interface: delete the link
named under `key`, treating a missing name or a missing link as already released. -/
def deleteCreatedLink (key : String) (message : String → String → String)
    (req : UnprepareRequest) : NodeProg Unit := do
  let ifName := req.allocation.metadata.get key
  if ifName = "" then return
  if let .error _ ← kernel (.linkByName ifName) then return
  check (kernel (.linkDel ifName)) (message ifName)

def dummyUnprepare : UnprepareRequest → NodeProg Unit :=
  deleteCreatedLink "createdInterface" fun n err => s!"failed to delete dummy interface {n}: {err}"
def macvlanUnprepare : UnprepareRequest → NodeProg Unit :=
  deleteCreatedLink "createdInterface" fun n err =>
    s!"failed to delete macvlan interface {n}: {err}"
def ipvlanUnprepare : UnprepareRequest → NodeProg Unit :=
  deleteCreatedLink "createdInterface" fun n err =>
    s!"failed to delete ipvlan interface {n}: {err}"
/-- `VethHandler.Unprepare`: deleting the host end deletes the pair. -/
def vethUnprepare : UnprepareRequest → NodeProg Unit :=
  deleteCreatedLink "hostEnd" fun n err => s!"failed to delete veth pair (host={n}): {err}"

/-- `SriovVfHandler.Unprepare`: bring the VF down, never failing. -/
def sriovVfUnprepare (req : UnprepareRequest) : NodeProg Unit := do
  let vfName := req.allocation.metadata.get "vfInterface"
  if vfName = "" then return
  if let .error _ ← kernel (.linkByName vfName) then return
  let _ ← kernel (.linkSetDown vfName)

/-- `HostDeviceHandler.Unprepare`: the interface is owned elsewhere and left alone. -/
def hostDeviceUnprepare (_req : UnprepareRequest) : NodeProg Unit := pure ()

end DraMultiDevice
