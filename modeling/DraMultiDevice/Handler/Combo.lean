import DraMultiDevice.Handler.Rdma

/-!
# The RoCE combo handler and handler dispatch

`pkg/handler/combo/roce.go`: `RoCEHandler` prepares its RDMA sub-handler, then its
netdev sub-handler, compensating the first if the second fails, and on release
rebuilds one allocation per side from the combined metadata and releases both. Its
two functions take the sub-handlers' calls as arguments, and the `DeviceHandler`
interface (`Handler.validate`, `Handler.prepare`, `Handler.unprepare`) dispatches to
every handler of the repository, recording each call in the trace.
-/

namespace DraMultiDevice

/-- `RoCEHandler.Validate`. -/
def roceValidate (cfg : DeviceConfig) : NodeProg Unit :=
  if cfg.combo.isNone then throw "combo config is required for roce" else pure ()

def mergeCDIEdits (a b : ContainerEdits) : ContainerEdits where
  deviceNodes := a.deviceNodes ++ b.deviceNodes
  mounts := a.mounts ++ b.mounts
  netDevices := a.netDevices ++ b.netDevices
  env := a.env ++ b.env

/-- The combined allocation of a RoCE claim. Its `DeviceName` is never set. -/
def roceAllocation (claimUID : String) (rdmaResult netResult : PrepareResult) : AllocationInfo :=
  ⟨deviceTypeCombo, "roce", claimUID, "",
    [("rdma_device", rdmaResult.deviceName),
     ("net_interface", netResult.deviceName),
     ("rdma_uverbs_device", rdmaResult.allocation.metadata.get "uverbsDevice"),
     ("rdma_ibdev", rdmaResult.allocation.metadata.get "ibdev"),
     ("net_created", netResult.allocation.metadata.get "createdInterface"),
     ("net_host_end", netResult.allocation.metadata.get "hostEnd")]⟩

/-- The request `RoCEHandler.Prepare` makes of its RDMA sub-handler. -/
def roceRdmaRequest (req : PrepareRequest) (cfg : ComboConfig) : PrepareRequest :=
  ⟨req.claimUID, req.allocatedDevice, { type := deviceTypeRDMA, rdma := some cfg.rdma }⟩

/-- The request `RoCEHandler.Prepare` makes of its netdev sub-handler. -/
def roceNetRequest (req : PrepareRequest) (cfg : ComboConfig) : PrepareRequest :=
  ⟨req.claimUID, "", { type := deviceTypeNetdev, netdev := some cfg.netdev }⟩

/-- The result of a RoCE claim, from the results of its two sides. -/
def roceResult (claimUID : String) (rdmaResult netResult : PrepareResult) : PrepareResult where
  poolName := rdmaResult.poolName
  deviceName := rdmaResult.deviceName
  cdiEdits := mergeCDIEdits rdmaResult.cdiEdits netResult.cdiEdits
  allocation := roceAllocation claimUID rdmaResult netResult

/-- `RoCEHandler.Prepare`: RDMA first; if the netdev side fails, release the RDMA side
once, ignoring that release's error, and fail. -/
def rocePrepare (rdmaPrepare netdevPrepare : PrepareRequest → NodeProg PrepareResult)
    (rdmaUnprepare : UnprepareRequest → NodeProg Unit) (req : PrepareRequest) :
    NodeProg PrepareResult := do
  let cfg ← Prog.ofOption req.config.combo "combo config is required for roce"
  let rdmaResult ← tryCatch (rdmaPrepare (roceRdmaRequest req cfg)) fun err =>
    throw s!"rdma prepare failed: {err}"
  let netResult ← Prog.checkUndo (Prog.attempt (netdevPrepare (roceNetRequest req cfg)))
    (discard (Prog.attempt (rdmaUnprepare ⟨req.claimUID, rdmaResult.allocation⟩))) fun err =>
      s!"netdev prepare failed: {err}"
  return roceResult req.claimUID rdmaResult netResult

/-- The netdev-side allocation `RoCEHandler.Unprepare` rebuilds. -/
def roceNetAllocation (req : UnprepareRequest) : AllocationInfo :=
  ⟨deviceTypeNetdev, "dummy", req.claimUID, "",
    [("createdInterface", req.allocation.metadata.get "net_created"),
     ("hostEnd", req.allocation.metadata.get "net_host_end")]⟩

/-- The RDMA-side allocation `RoCEHandler.Unprepare` rebuilds. -/
def roceRdmaAllocation (req : UnprepareRequest) : AllocationInfo :=
  ⟨deviceTypeRDMA, "uverbs", req.claimUID, "",
    [("uverbsDevice", req.allocation.metadata.get "rdma_uverbs_device"),
     ("ibdev", req.allocation.metadata.get "rdma_ibdev")]⟩

/-- `fmt` of a `[]error` with `%v`. -/
def formatErrors (errs : List String) : String := "[" ++ " ".intercalate errs ++ "]"

/-- The error `RoCEHandler.Unprepare` collects from one side. -/
def sideError (label : String) : Except String Unit → List String
  | .error err => [s!"{label} unprepare: {err}"]
  | .ok () => []

/-- `RoCEHandler.Unprepare`: release the netdev side, then the RDMA side, whatever
the first did, and fail if either failed. -/
def roceUnprepare (rdmaUnprepare netdevUnprepare : UnprepareRequest → NodeProg Unit)
    (req : UnprepareRequest) : NodeProg Unit := do
  let netErr ← Prog.attempt (netdevUnprepare ⟨req.claimUID, roceNetAllocation req⟩)
  let rdmaErr ← Prog.attempt (rdmaUnprepare ⟨req.claimUID, roceRdmaAllocation req⟩)
  let errs := sideError "netdev" netErr ++ sideError "rdma" rdmaErr
  if errs ≠ [] then throw s!"roce unprepare errors: {formatErrors errs}"

/-! ### The `DeviceHandler` interface -/

/-- `DeviceHandler.Validate`. -/
def Handler.validate (h : Handler) (cfg : DeviceConfig) : NodeProg Unit := do
  invoke h (.validate cfg)
  match h with
  | .macvlan => macvlanValidate cfg
  | .ipvlan => ipvlanValidate cfg
  | .veth => vethValidate cfg
  | .sriovVf => sriovVfValidate cfg
  | .dummy => dummyValidate cfg
  | .hostDevice => hostDeviceValidate cfg
  | .ipoib => ipoibValidate cfg
  | .uverbs _ => pure ()
  | .roce _ _ => roceValidate cfg

/-- `DeviceHandler.Unprepare`. -/
def Handler.unprepare (h : Handler) (req : UnprepareRequest) : NodeProg Unit := do
  invoke h (.unprepare req)
  match h with
  | .macvlan => macvlanUnprepare req
  | .ipvlan => ipvlanUnprepare req
  | .veth => vethUnprepare req
  | .sriovVf => sriovVfUnprepare req
  | .dummy => dummyUnprepare req
  | .hostDevice => hostDeviceUnprepare req
  | .ipoib => ipoibUnprepare req
  | .uverbs hasTracker => uverbsUnprepare hasTracker req
  | .roce rdma netdev => roceUnprepare rdma.unprepare netdev.unprepare req

/-- `DeviceHandler.Prepare`. -/
def Handler.prepare (h : Handler) (req : PrepareRequest) : NodeProg PrepareResult := do
  invoke h (.prepare req)
  match h with
  | .macvlan => macvlanPrepare req
  | .ipvlan => ipvlanPrepare req
  | .veth => vethPrepare req
  | .sriovVf => sriovVfPrepare req
  | .dummy => dummyPrepare req
  | .hostDevice => hostDevicePrepare req
  | .ipoib => ipoibPrepare req
  | .uverbs hasTracker => uverbsPrepare hasTracker req
  | .roce rdma netdev => rocePrepare rdma.prepare netdev.prepare rdma.unprepare req

/-! ### What a prepare returns -/

/-- A result fit for `h` to return on `req`: its allocation is filed under the claim it
was asked for, under `h`'s type and one of its kinds, so the registry finds `h` again
from the allocation. -/
def Handler.Answers (h : Handler) (req : PrepareRequest) (r : PrepareResult) : Prop :=
  r.allocation.claimUID = req.claimUID ∧ r.allocation.type = h.type ∧ r.allocation.kind ∈ h.kinds

/-- Every handler of the repository returns only results fit for it. -/
theorem Handler.prepare_returns (h : Handler) (req : PrepareRequest) :
    (h.prepare req).Returns (h.Answers req) := by
  cases h <;>
    simp only [Handler.prepare, Handler.Answers, Handler.type, Handler.kinds, macvlanPrepare,
      ipvlanPrepare, vethPrepare, sriovVfPrepare, dummyPrepare, hostDevicePrepare, ipoibPrepare,
      uverbsPrepare, uverbsResult, rocePrepare, requireNetdev, linkSetUpOrDelete, netdevResult,
      roceResult, roceAllocation, Prog.returns_bind, Prog.returns_ite, Prog.returns_pure,
      List.mem_singleton, and_self, Prog.returns_checkUndo, implies_true, Prog.returns_const_true,
      Prog.returns_check, Prog.returns_ofOption, Prog.returns_throw, Prog.returns_tryCatch_throw]

end DraMultiDevice

namespace DraMultiDevice

/-! ### What a RoCE claim does with its two sides -/

section Sides

variable (rdmaPrepare netdevPrepare : PrepareRequest → NodeProg PrepareResult)
  (rdmaUnprepare netdevUnprepare : UnprepareRequest → NodeProg Unit)

/-- `RoCEHandler.Prepare` runs the RDMA side, then the netdev side; when the netdev side
fails it runs the RDMA side's release once, on the allocation the RDMA side returned,
and nothing else. -/
theorem run_rocePrepare (req : PrepareRequest) (cfg : ComboConfig)
    (combo : req.config.combo = some cfg) (w : World) :
    (rocePrepare rdmaPrepare netdevPrepare rdmaUnprepare req).run w =
      match (rdmaPrepare (roceRdmaRequest req cfg)).run w with
      | (.error err, w₁) => (.error s!"rdma prepare failed: {err}", w₁)
      | (.ok rdma, w₁) =>
        match (netdevPrepare (roceNetRequest req cfg)).run w₁ with
        | (.error err, w₂) => (.error s!"netdev prepare failed: {err}",
            ((rdmaUnprepare ⟨req.claimUID, rdma.allocation⟩).run w₂).2)
        | (.ok net, w₂) => (.ok (roceResult req.claimUID rdma net), w₂) := by
  simp only [rocePrepare, combo, Prog.run_bind, Prog.run_ofOption_some, Prog.runThen_ok,
    Prog.run_tryCatch]
  rcases (rdmaPrepare (roceRdmaRequest req cfg)).run w with ⟨_ | rdma, w₁⟩
  · rfl
  · simp only [Prog.runElse_ok, Prog.runThen_ok, Prog.run_checkUndo, Prog.run_attempt]
    rcases ran : (netdevPrepare (roceNetRequest req cfg)).run w₁ with ⟨_ | net, w₂⟩ <;> simp [ran]

/-- `RoCEHandler.Unprepare` releases the netdev side, then the RDMA side whatever the
first did, and fails exactly when one of them failed. -/
theorem run_roceUnprepare (req : UnprepareRequest) (w : World) :
    let net := (netdevUnprepare ⟨req.claimUID, roceNetAllocation req⟩).run w
    let rdma := (rdmaUnprepare ⟨req.claimUID, roceRdmaAllocation req⟩).run net.2
    ((roceUnprepare rdmaUnprepare netdevUnprepare req).run w).2 = rdma.2 ∧
      (((roceUnprepare rdmaUnprepare netdevUnprepare req).run w).1 = .ok () ↔
        net.1 = .ok () ∧ rdma.1 = .ok ()) := by
  simp only [roceUnprepare, Prog.run_bind, Prog.run_attempt, Prog.runThen_ok]
  rcases (netdevUnprepare _).run w with ⟨_ | _, w₁⟩ <;>
    rcases (rdmaUnprepare _).run w₁ with ⟨_ | _, w₂⟩ <;> simp [sideError]

end Sides

/-! ### The allocations `RoCEHandler.Unprepare` rebuilds

What the rebuilt allocations hold, read back from the combined allocation, and what
releasing them does next to releasing the allocations the sides returned. -/

section Rebuilt

variable (claimUID : String) (rdma net : PrepareResult)

/-- The combined allocation as `RoCEHandler.Unprepare` receives it. -/
def roceRelease : UnprepareRequest := ⟨claimUID, roceAllocation claimUID rdma net⟩

@[simp] theorem roceNetAllocation_claimUID (req : UnprepareRequest) :
    (roceNetAllocation req).claimUID = req.claimUID := rfl

@[simp] theorem roceRdmaAllocation_claimUID (req : UnprepareRequest) :
    (roceRdmaAllocation req).claimUID = req.claimUID := rfl

@[simp] theorem roceNetAllocation_createdInterface :
    (roceNetAllocation (roceRelease claimUID rdma net)).metadata.get "createdInterface" =
      net.allocation.metadata.get "createdInterface" := rfl

@[simp] theorem roceNetAllocation_hostEnd :
    (roceNetAllocation (roceRelease claimUID rdma net)).metadata.get "hostEnd" =
      net.allocation.metadata.get "hostEnd" := rfl

@[simp] theorem roceNetAllocation_vfInterface (req : UnprepareRequest) :
    (roceNetAllocation req).metadata.get "vfInterface" = "" := rfl

@[simp] theorem roceRdmaAllocation_ibdev :
    (roceRdmaAllocation (roceRelease claimUID rdma net)).metadata.get "ibdev" =
      rdma.allocation.metadata.get "ibdev" := rfl

theorem deleteCreatedLink_congr (key : String) (message : String → String → String)
    {req req' : UnprepareRequest}
    (same : req.allocation.metadata.get key = req'.allocation.metadata.get key) :
    deleteCreatedLink key message req = deleteCreatedLink key message req' := by
  unfold deleteCreatedLink
  rw [same]

/-- **Releasing the rebuilt sides.** For every pair of results the two sides' `Prepare`
returned, each release `RoCEHandler.Unprepare` makes on a rebuilt allocation is the
release of the allocation that side returned, for the uverbs handler (whose allocation
carries the claim's UID) and for the dummy, veth, macvlan, ipvlan, ipoib and
host-device handlers; for the sriov-vf handler it releases nothing, as the rebuilt
allocation names no VF. -/
theorem release_rebuilt_sides (hasTracker : Bool) (keyed : rdma.allocation.claimUID = claimUID) :
    let req := roceRelease claimUID rdma net
    let rebuilt : UnprepareRequest := ⟨claimUID, roceNetAllocation req⟩
    let own : UnprepareRequest := ⟨claimUID, net.allocation⟩
    uverbsUnprepare hasTracker ⟨claimUID, roceRdmaAllocation req⟩ =
        uverbsUnprepare hasTracker ⟨claimUID, rdma.allocation⟩ ∧
      dummyUnprepare rebuilt = dummyUnprepare own ∧ vethUnprepare rebuilt = vethUnprepare own ∧
      macvlanUnprepare rebuilt = macvlanUnprepare own ∧
      ipvlanUnprepare rebuilt = ipvlanUnprepare own ∧ ipoibUnprepare rebuilt = ipoibUnprepare own ∧
      hostDeviceUnprepare rebuilt = hostDeviceUnprepare own ∧
      sriovVfUnprepare rebuilt = pure () := by
  refine ⟨?_, deleteCreatedLink_congr _ _ (by simp), deleteCreatedLink_congr _ _ (by simp),
    deleteCreatedLink_congr _ _ (by simp), deleteCreatedLink_congr _ _ (by simp),
    deleteCreatedLink_congr _ _ (by simp), rfl, ?_⟩
  · simp only [uverbsUnprepare, roceRdmaAllocation_ibdev, roceRdmaAllocation_claimUID, keyed]
    rfl
  · simp [sriovVfUnprepare]

end Rebuilt

/-- A node with an SR-IOV PF whose VF is `ens1f0v0`, and a uverbs device whose IB device
is `mlx5_0`; every other call succeeds. -/
def sriovNode : World where
  tracker := RDMANetnsTracker.new
  allocations := ∅
  cdiFiles := ∅
  detectedMode := none
  oracle := fun n call => match call with
    | .readDir _ => .ok ["ens1f0v0"]
    | .readFile _ => .ok "mlx5_0\n"
    | call => Oracle.healthy n call
  clock := 0
  trace := []

/-- RoCE over the uverbs handler, with the tracker, and the sriov-vf handler. -/
def roceOverSriov : Handler := .roce (.uverbs true) .sriovVf

/-- A RoCE configuration whose netdev side is a VF of `ens1f0`. -/
def vfCombo : ComboConfig := ⟨{}, { kind := "sriov-vf", parent := "ens1f0" }⟩

/-- A RoCE claim over `uverbs0` and a VF of `ens1f0`. -/
def roceOverVf : PrepareRequest :=
  ⟨"aabbccdd-1234-5678-abcd-1234567890ab", "uverbs0", { type := deviceTypeCombo, combo := some vfCombo }⟩

set_option maxRecDepth 8000 in
/-- Prepared and released through the RoCE handler, the VF is never brought down; the
sriov-vf handler's own round trip on the request RoCE makes of it brings it down. -/
theorem roce_round_trip_leaves_vf_up :
    (let prepared := (roceOverSriov.prepare roceOverVf).run sriovNode
     let vfPrepared := (Handler.sriovVf.prepare (roceNetRequest roceOverVf vfCombo)).run sriovNode
     (∃ result, prepared.1 = .ok result ∧
       result.allocation.metadata.get "net_interface" = "ens1f0v0" ∧
       Event.kernel (.linkSetDown "ens1f0v0") ∉
         ((roceOverSriov.unprepare ⟨result.allocation.claimUID, result.allocation⟩).run
           prepared.2).2.trace) ∧
     ∃ result, vfPrepared.1 = .ok result ∧
       Event.kernel (.linkSetDown "ens1f0v0") ∈
         ((Handler.sriovVf.unprepare ⟨result.allocation.claimUID, result.allocation⟩).run
           vfPrepared.2).2.trace) :=
  ⟨⟨_, rfl, rfl, by decide⟩, ⟨_, rfl, by decide⟩⟩

end DraMultiDevice
