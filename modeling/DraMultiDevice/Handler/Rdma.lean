import DraMultiDevice.Handler.Netdev
import Mathlib.Data.Int.Bitwise

/-!
# RDMA handlers

`pkg/handler/rdma`: the RDMA netns mode detection with its process-wide cache, the
`uverbs` handler, which registers pending netns moves in the tracker in exclusive
mode, the return of a device to the host namespace, and the `ipoib` handler.

## Main results

`toUInt16_lor_eq_iff`: the partition key `IpoibHandler.Prepare` programs,
`uint16(pkey | 0x8000)`, is `pkey | 0x8000` exactly for keys in `[0, 2^16)`, where the
allocation records that key (`ipoibPrepare_pkey_of_lt`); `Validate` accepts keys outside
that range (`ipoib_wide_pkey_truncated`).
-/

namespace DraMultiDevice

open Prog (check ofOption)

/-- `DetectNetnsMode`, one step of the node (`World.detectNetnsMode`). -/
def detectNetnsMode : NodeProg NetnsMode := .op .detectNetnsMode .pure

def ibDevDir : String := "/dev/infiniband"

/-- `unicode.IsSpace`, the characters `strings.TrimSpace` removes. -/
def isGoSpace (c : Char) : Bool :=
  c = ' ' || c = '\t' || c = '\n' || c = '\x0B' || c = '\x0C' || c = '\r' ||
    c.toNat = 0x85 || c.toNat = 0xA0 || c.toNat = 0x1680 ||
    (0x2000 ≤ c.toNat && c.toNat ≤ 0x200A) || c.toNat = 0x2028 || c.toNat = 0x2029 ||
    c.toNat = 0x202F || c.toNat = 0x205F || c.toNat = 0x3000

/-- `strings.TrimSpace`. -/
def trimSpace (s : String) : String :=
  ⟨((s.data.dropWhile isGoSpace).reverse.dropWhile isGoSpace).reverse⟩

/-- `strings.Replace(s, old, new, 1)` for a non-empty `old`: the first occurrence. -/
def replaceFirst (old new : List Char) : List Char → List Char
  | [] => []
  | s@(c :: rest) => if old.isPrefixOf s then new ++ s.drop old.length else c :: replaceFirst old new rest

/-- `findAvailableUverbs`: the first `uverbs*` entry of `/dev/infiniband`. -/
def findAvailableUverbs : NodeProg String := do
  match ← kernel (.readDir ibDevDir) with
  | .error err => throw s!"failed to read {ibDevDir}: {err}"
  | .ok entries =>
    match entries.find? (fun name => hasPrefix name "uverbs") with
    | some name => pure name
    | none => throw s!"no uverbs devices found in {ibDevDir}"

/-- `resolveIBDevice`: the IB device behind a uverbs device, or `""`. -/
def resolveIBDevice (uverbsName : String) : NodeProg String := do
  match ← kernel (.readFile s!"/sys/class/infiniband_verbs/{uverbsName}/ibdev") with
  | .ok data => pure (trimSpace data)
  | .error _ => pure ""

/-- A read-write device node exposed at its host path. -/
def rwNode (path : String) : DeviceNode := ⟨path, path, "rw"⟩

/-- The device nodes and mounts `UverbsHandler.Prepare` hands to the container. -/
def uverbsEdits (deviceName ibDev : String) : NodeProg ContainerEdits := do
  let devPath := ibDevDir ++ "/" ++ deviceName
  let rdmaCMPath := ibDevDir ++ "/rdma_cm"
  let cm := match ← kernel (.stat rdmaCMPath) with
    | .ok () => [rwNode rdmaCMPath]
    | .error _ => []
  let umadPath := ibDevDir ++ "/" ++ String.mk (replaceFirst "uverbs".data "umad".data deviceName.data)
  let umad := match ← kernel (.stat umadPath) with
    | .ok () => [rwNode umadPath]
    | .error _ => []
  let sysPath := "/sys/class/infiniband/" ++ ibDev
  let mounts ← if ibDev = "" then pure [] else do
    match ← kernel (.stat sysPath) with
    | .ok () => pure [⟨sysPath, sysPath, ["ro", "bind"]⟩]
    | .error _ => pure []
  return { deviceNodes := rwNode devPath :: cm ++ umad, mounts := mounts }

/-- The locals `UverbsHandler.Prepare` has computed when it asks for the netns mode. -/
structure UverbsDevice where
  deviceName : String
  ibDev : String
  edits : ContainerEdits

/-- The system calls of `UverbsHandler.Prepare` up to the netns mode check: pick the
device, check its node, resolve its IB device and build the container edits. -/
def uverbsProbe (req : PrepareRequest) : NodeProg UverbsDevice := do
  let deviceName ← if req.allocatedDevice ≠ "" then pure req.allocatedDevice else
    tryCatch findAvailableUverbs fun err => throw s!"no uverbs device allocated or available: {err}"
  let devPath := ibDevDir ++ "/" ++ deviceName
  check (kernel (.stat devPath)) fun err => s!"uverbs device {devPath} not found: {err}"
  let ibDev ← resolveIBDevice deviceName
  let edits ← uverbsEdits deviceName ibDev
  return ⟨deviceName, ibDev, edits⟩

/-- The result `UverbsHandler.Prepare` returns for the device it probed. -/
def uverbsResult (req : PrepareRequest) (found : UverbsDevice) : PrepareResult where
  poolName := "default"
  deviceName := found.deviceName
  cdiEdits := found.edits
  allocation := ⟨deviceTypeRDMA, "uverbs", req.claimUID, found.deviceName,
    [("uverbsDevice", found.deviceName), ("ibdev", found.ibDev),
      ("devPath", ibDevDir ++ "/" ++ found.deviceName)]⟩

/-- `UverbsHandler.Prepare`. In exclusive mode, with an IB device and a tracker, it
registers a pending move, the only place that does. -/
def uverbsPrepare (hasTracker : Bool) (req : PrepareRequest) : NodeProg PrepareResult := do
  let found ← uverbsProbe req
  if (← detectNetnsMode) = .exclusive ∧ found.ibDev ≠ "" ∧ hasTracker then
    RDMANetnsTracker.addPendingOp req.claimUID found.ibDev
  return uverbsResult req found

/-- The host network namespace as the code opens it. -/
def initNetnsPath : String := "/proc/1/ns/net"

/-- Enter the pod's network namespace if its path is known and the namespace can be
opened and set: whether the thread is now in it. -/
def enterPodNetns (podNetnsPath : String) : NodeProg Bool :=
  if podNetnsPath = "" then pure false else do
    match ← kernel (.netnsGetFromPath podNetnsPath) with
    | .error _ => pure false
    | .ok podNS =>
      match ← kernel (.netnsSet podNS) with
      | .error _ => pure false
      | .ok () => pure true

/-- The frame `returnRDMAToHost` and `StopPodSandbox` share: with the OS thread pinned
and the host namespace open, enter the pod's namespace if one is known, run `body`,
and on the way out restore the thread's namespace (the deferred `netns.Set(hostNS)`)
before unpinning it. -/
def inPodNetns (podNetnsPath : String) (body : NsHandle → NodeProg Unit) : NodeProg Unit := do
  let _ ← kernel .lockOSThread
  match ← kernel (.netnsGetFromPath initNetnsPath) with
  | .error _ => pure ()
  | .ok hostNS =>
    let entered ← enterPodNetns podNetnsPath
    body hostNS
    if entered then
      let _ ← kernel (.netnsSet hostNS)
  let _ ← kernel .unlockOSThread

/-- Move an RDMA device to the host namespace if it can be found, ignoring failures. -/
def returnDevice (ibDev : String) (hostNS : NsHandle) : NodeProg Unit := do
  if let .ok () ← kernel (.rdmaLinkByName ibDev) then
    let _ ← kernel (.rdmaLinkSetNsFd ibDev hostNS)

def returnRDMAToHost (ibDev podNetnsPath : String) : NodeProg Unit :=
  inPodNetns podNetnsPath (returnDevice ibDev)

/-- `UverbsHandler.Unprepare`: in exclusive mode, drop the claim's pending and active
moves and return the device to the host. It never fails. -/
def uverbsUnprepare (hasTracker : Bool) (req : UnprepareRequest) : NodeProg Unit := do
  let ibDev := req.allocation.metadata.get "ibdev"
  if (← detectNetnsMode) = .exclusive ∧ ibDev ≠ "" ∧ hasTracker then
    RDMANetnsTracker.removePendingOp req.allocation.claimUID
    let podNetnsPath := match ← RDMANetnsTracker.removeActiveOp req.allocation.claimUID with
      | some active => active.netnsPath
      | none => ""
    returnRDMAToHost ibDev podNetnsPath

/-! ### IPoIB -/

/-- `IpoibHandler.Validate`. -/
def ipoibValidate (cfg : DeviceConfig) : NodeProg Unit := do
  let netdev ← requireNetdev cfg "ipoib"
  if netdev.parent = "" then throw "parent interface is required for ipoib"
  if netdev.pkey = 0 then throw "pkey is required for ipoib"

/-- Go's `uint16(x)` of an `int`: the value modulo `2^16`. -/
def toUInt16 (x : Int) : UInt16 := UInt16.ofNat (x % 65536).toNat

/-- `fmt.Sprintf("%04x", x)`: lower-case hex of the magnitude, the sign counted in the
width of four. -/
def formatHex04 (x : Int) : String :=
  let digits := Nat.toDigits 16 x.natAbs
  let width := if x < 0 then 3 else 4
  (if x < 0 then "-" else "") ++ ⟨List.replicate (width - digits.length) '0' ++ digits⟩

/-- The mode names `IpoibHandler.Prepare` accepts. -/
def ipoibMode : String → Option IPoIBMode
  | "connected" => some .connected
  | "datagram" | "" => some .datagram
  | _ => none

/-- `IpoibHandler.Prepare`: a child of the parent IB interface with the partition key,
full membership bit set. -/
def ipoibPrepare (req : PrepareRequest) : NodeProg PrepareResult := do
  let cfg ← requireNetdev req.config "ipoib"
  let parent := cfg.parent
  if parent = "" then throw "parent interface is required for ipoib"
  if cfg.pkey = 0 then throw "pkey is required for ipoib"
  let pkey := Int.lor cfg.pkey 0x8000
  let pkeyHex := formatHex04 pkey
  let mode ← ofOption (ipoibMode cfg.mode)
    s!"unsupported ipoib mode: {cfg.mode} (want datagram or connected)"
  let ifName := "ib" ++ uidPrefix req.claimUID
  let containerName := containerNameOr cfg "ib1"
  let parentIndex ← check (kernel (.linkByName parent)) fun err =>
    s!"parent interface {parent} not found: {err}"
  check (kernel (.linkAdd (.ipoib ifName parentIndex (toUInt16 pkey) mode (linkMTU cfg)))) fun err =>
    s!"failed to create ipoib interface {ifName} (parent={parent}, pkey=0x{pkeyHex}): {err}"
  linkSetUpOrDelete ifName ifName fun err => s!"failed to bring up ipoib interface {ifName}: {err}"
  return netdevResult req.claimUID "ipoib" ifName containerName
    [("createdInterface", ifName), ("parent", parent), ("pkey", "0x" ++ pkeyHex),
      ("containerName", containerName)]

def ipoibUnprepare : UnprepareRequest → NodeProg Unit :=
  deleteCreatedLink "createdInterface" fun n err => s!"failed to delete ipoib interface {n}: {err}"

/-! ### The partition key -/

/-- `uint16` of an `int`, as a number: the value modulo `2^16`. -/
theorem toUInt16_toNat (x : Int) : ((toUInt16 x).toNat : Int) = x % 0x10000 := by
  have lt : (x % 65536).toNat < 65536 := by omega
  rw [toUInt16, UInt16.toNat_ofNat_of_lt lt, Int.toNat_of_nonneg (Int.emod_nonneg _ (by decide))]

/-- The key with the full-membership bit set is a 16-bit value exactly when the configured
key is one: a negative key stays negative under the or, and a key of `2^16` or more keeps
a bit above the sixteenth. -/
theorem lor_full_member_lt_iff (pkey : Int) :
    0 ≤ Int.lor pkey 0x8000 ∧ Int.lor pkey 0x8000 < 0x10000 ↔ 0 ≤ pkey ∧ pkey < 0x10000 := by
  cases pkey with
  | ofNat m =>
    have narrow : m ||| 0x8000 < 0x10000 ↔ m < 0x10000 := by
      refine ⟨fun narrow => Nat.lt_of_not_le fun wide => ?_,
        fun narrow => Nat.or_lt_two_pow (n := 16) narrow (by decide)⟩
      obtain ⟨i, high, bit⟩ := Nat.ge_two_pow_implies_high_bit_true (n := 16) wide
      have kept := Nat.testBit_implies_ge (show (m ||| 0x8000).testBit i = true by simp [bit])
      have := Nat.pow_le_pow_right (by decide : 2 > 0) high
      omega
    show 0 ≤ ((m ||| 0x8000 : Nat) : Int) ∧ ((m ||| 0x8000 : Nat) : Int) < 0x10000 ↔
      0 ≤ (m : Int) ∧ (m : Int) < 0x10000
    omega
  | negSucc m =>
    show 0 ≤ Int.negSucc (Nat.ldiff m 0x8000) ∧ _ ↔ 0 ≤ Int.negSucc m ∧ _
    simp only [Int.negSucc_not_nonneg, false_and]

/-- The key `IpoibHandler.Prepare` programs, `uint16(pkey | 0x8000)`, is `pkey | 0x8000`
exactly when the configured key lies in `[0, 2^16)`. -/
theorem toUInt16_lor_eq_iff (pkey : Int) :
    ((toUInt16 (Int.lor pkey 0x8000)).toNat : Int) = Int.lor pkey 0x8000 ↔
      0 ≤ pkey ∧ pkey < 0x10000 := by
  rw [toUInt16_toNat, ← lor_full_member_lt_iff]
  omega

/-- What `IpoibHandler.Prepare` does with the configured key: every link it adds is an IPoIB
child carrying `uint16(pkey | 0x8000)`, and the allocation it returns records
`pkey | 0x8000` as `0x%04x`. -/
theorem ipoibPrepare_pkey (req : PrepareRequest) (cfg : NetdevConfig)
    (netdev : req.config.netdev = some cfg) :
    (ipoibPrepare req).AllOps (fun o => ∀ link, o = .kernel (.linkAdd link) →
        ∃ name parentIndex mode mtu,
          link = .ipoib name parentIndex (toUInt16 (Int.lor cfg.pkey 0x8000)) mode mtu) ∧
      (ipoibPrepare req).Returns fun r =>
        r.allocation.metadata.get "pkey" = "0x" ++ formatHex04 (Int.lor cfg.pkey 0x8000) := by
  constructor
  · simp [ipoibPrepare, requireNetdev, netdev, linkSetUpOrDelete, kernel, KernelCall.Reply]
  · simp [ipoibPrepare, requireNetdev, netdev, linkSetUpOrDelete, kernel, KernelCall.Reply,
      netdevResult, Metadata.get, List.lookup_cons]

/-- With a configured key in `[0, 2^16)`, the key `IpoibHandler.Prepare` programs is
`pkey | 0x8000` as a number, and the allocation records that key as `0x%04x`. -/
theorem ipoibPrepare_pkey_of_lt (req : PrepareRequest) (cfg : NetdevConfig)
    (netdev : req.config.netdev = some cfg) (range : 0 ≤ cfg.pkey ∧ cfg.pkey < 0x10000) :
    (ipoibPrepare req).AllOps (fun o => ∀ link, o = .kernel (.linkAdd link) →
        ∃ name parentIndex key mode mtu, link = .ipoib name parentIndex key mode mtu ∧
          (key.toNat : Int) = Int.lor cfg.pkey 0x8000) ∧
      (ipoibPrepare req).Returns fun r =>
        r.allocation.metadata.get "pkey" =
          "0x" ++ formatHex04 (toUInt16 (Int.lor cfg.pkey 0x8000)).toNat := by
  have kept := (toUInt16_lor_eq_iff cfg.pkey).mpr range
  obtain ⟨links, recorded⟩ := ipoibPrepare_pkey req cfg netdev
  refine ⟨links.mono fun o added link issued => ?_, recorded.mono fun r pkey => pkey.trans ?_⟩
  · obtain ⟨name, parentIndex, mode, mtu, rfl⟩ := added link issued
    exact ⟨name, parentIndex, _, mode, mtu, rfl, kept⟩
  · rw [kept]

/-- An IPoIB configuration `IpoibHandler.Validate` accepts, whose partition key needs 17
bits. -/
def widePkeyConfig : DeviceConfig :=
  { type := deviceTypeNetdev, netdev := some { kind := "ipoib", parent := "ib0", pkey := 0x10000 } }

def widePkeyRequest : PrepareRequest :=
  ⟨"aabbccdd-1234-5678-abcd-1234567890ab", "ib0", widePkeyConfig⟩

/-- The programmed key is `pkey | 0x8000` exactly for keys in `[0, 2^16)`, and
`IpoibHandler.Validate` accepts keys outside it: it accepts `0x10000`. `Prepare` then programs the key
`0x8000`, the low 16 bits of `0x10000 | 0x8000`, and records `"0x18000"` as the
allocation's key, which is not the key it programmed. -/
theorem ipoib_wide_pkey_truncated :
    (∀ pkey : Int, ((toUInt16 (Int.lor pkey 0x8000)).toNat : Int) = Int.lor pkey 0x8000 ↔
        0 ≤ pkey ∧ pkey < 0x10000) ∧
      ((ipoibValidate widePkeyConfig).run (World.start Oracle.healthy)).1 = .ok () ∧
      ((ipoibPrepare widePkeyRequest).run (World.start Oracle.healthy)).2.trace =
        [.kernel (.linkByName "ib0"), .kernel (.linkAdd (.ipoib "ibaabbccdd" 0 0x8000 .datagram 0)),
          .kernel (.linkSetUp "ibaabbccdd")] ∧
      ∃ r, ((ipoibPrepare widePkeyRequest).run (World.start Oracle.healthy)).1 = .ok r ∧
        r.allocation.metadata.get "pkey" = "0x18000" :=
  ⟨toUInt16_lor_eq_iff, rfl, by decide, _, rfl, by decide⟩

end DraMultiDevice
