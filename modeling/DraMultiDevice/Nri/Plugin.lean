import DraMultiDevice.Handler.Rdma
import DraMultiDevice.Nri.Annotations

/-!
# The NRI plugin

`RunPodSandbox` and `StopPodSandbox` of the NRI plugin (`pkg/nri/plugin.go`).
`RunPodSandbox` drains the pending moves of the pod's claims in one tracker step, then,
outside the tracker's lock, moves each device into the pod's network namespace and
records it active. When the namespace cannot be reached at all it puts every drained
move back; when one device's move fails it goes on to the next device.

## Main results

* `runPodSandbox_keeps_moves`: when the per-device kernel calls succeed, every drained
  move ends active in the pod or pending again.
* `runPodSandbox_drops_move`: a drained move whose device the kernel cannot find ends
  in neither map, once the pod's namespace was opened.
-/

namespace DraMultiDevice

/-- `api.LinuxNamespace`. -/
structure LinuxNamespace where
  type : String
  path : String
  deriving DecidableEq, Repr

/-- `api.PodSandbox`, the fields the plugin reads: its UID, its annotations in
map-iteration order, and the namespaces of its Linux section, if it has one. -/
structure PodSandbox where
  uid : String
  annotations : List (String × String)
  linux : Option (List LinuxNamespace)
  deriving DecidableEq, Repr

def getNetNSPath (pod : PodSandbox) : String :=
  match pod.linux with
  | none => ""
  | some namespaces => ((namespaces.find? (·.type = "network")).map (·.path)).getD ""

namespace Plugin

/-- Put drained moves back in the tracker. -/
def reRegister (moves : List PendingMove) : NodeProg Unit :=
  moves.forM fun m => RDMANetnsTracker.addPendingOp m.claimUID m.ibDev

/-- One pass of the move loop of `RunPodSandbox`; a failed call skips the device. -/
def moveDevice (podUID netnsPath : String) (podNS : NsHandle) (m : PendingMove) :
    NodeProg Unit := do
  match ← kernel (.rdmaLinkByName m.ibDev) with
  | .error _ => pure ()
  | .ok () =>
    match ← kernel (.rdmaLinkSetNsFd m.ibDev podNS) with
    | .error _ => pure ()
    | .ok () => RDMANetnsTracker.markActiveOp m.claimUID podUID m.ibDev netnsPath

/-- `Plugin.RunPodSandbox`. -/
def runPodSandbox (pod : PodSandbox) : NodeProg Unit := do
  let claimUIDs := extractClaimUIDs pod.annotations
  if claimUIDs = [] then pure () else do
    let moves ← RDMANetnsTracker.consumePendingForClaimsOp claimUIDs
    if moves = [] then pure () else do
      let netnsPath := getNetNSPath pod
      if netnsPath = "" then reRegister moves else do
        match ← kernel (.netnsGetFromPath netnsPath) with
        | .error err =>
          reRegister moves
          throw s!"get pod netns: {err}"
        | .ok podNS => moves.forM (moveDevice pod.uid netnsPath podNS)

/-- `Plugin.StopPodSandbox`: the backup return of a stopped pod's devices to the host. -/
def stopPodSandbox (pod : PodSandbox) : NodeProg Unit := do
  let moves ← RDMANetnsTracker.removeActiveForPodOp pod.uid
  if moves = [] then pure () else
    inPodNetns (getNetNSPath pod) fun hostNS => moves.forM fun m => returnDevice m.ibDev hostNS

end Plugin

/-! ### What the kernel replies -/

/-- The kernel cannot find RDMA device `ibDev`, whenever asked. -/
def Oracle.RdmaLinkMissing (o : Oracle) (ibDev : String) : Prop :=
  ∀ n, ∃ err, o n (.rdmaLinkByName ibDev) = .error err

/-- Every RDMA link lookup and every move of an RDMA link succeeds. -/
def Oracle.RdmaMovesSucceed (o : Oracle) : Prop :=
  ∀ n ibDev ns, o n (.rdmaLinkByName ibDev) = .ok () ∧ o n (.rdmaLinkSetNsFd ibDev ns) = .ok ()

namespace Plugin

open RDMANetnsTracker

/-! ### Re-registration -/

def reRegistered (t : RDMANetnsTracker) (moves : List PendingMove) : RDMANetnsTracker :=
  moves.foldl (fun t m => t.addPending m.claimUID m.ibDev) t

theorem run_reRegister (moves : List PendingMove) (w : World) :
    (reRegister moves).run w = (.ok (), { w with tracker := reRegistered w.tracker moves }) := by
  induction moves generalizing w with
  | nil => rfl
  | cons m rest ih => exact ih _

theorem reRegistered_active (t : RDMANetnsTracker) (moves : List PendingMove) :
    (reRegistered t moves).active = t.active := by
  induction moves generalizing t with
  | nil => rfl
  | cons m rest ih => exact ih _

theorem reRegistered_lookup_of_not_mem (t : RDMANetnsTracker) (moves : List PendingMove)
    (c : String) (absent : c ∉ moves.map PendingMove.claimUID) :
    (reRegistered t moves).pending.lookup c = t.pending.lookup c := by
  induction moves generalizing t with
  | nil => rfl
  | cons m rest ih =>
    simp only [List.map_cons, List.mem_cons, not_or] at absent
    rw [reRegistered, List.foldl_cons, ← reRegistered, ih _ absent.2, addPending_lookup,
      if_neg absent.1]

theorem reRegistered_lookup (t : RDMANetnsTracker) (moves : List PendingMove)
    (nodup : (moves.map PendingMove.claimUID).Nodup) (m : PendingMove) (member : m ∈ moves) :
    (reRegistered t moves).pending.lookup m.claimUID = some m := by
  induction moves generalizing t with
  | nil => cases member
  | cons m' rest ih =>
    obtain ⟨fresh, nodup⟩ := List.nodup_cons.mp nodup
    rw [reRegistered, List.foldl_cons, ← reRegistered]
    rcases List.mem_cons.mp member with rfl | later
    · rw [reRegistered_lookup_of_not_mem _ _ _ fresh, addPending_lookup, if_pos rfl]
    · exact ih _ nodup later

/-! ### The move loop -/

/-- What one pass of the move loop can do: nothing, after a failed call, or record the
move active, after the kernel found the device. -/
theorem moveDevice_cases (podUID netnsPath : String) (podNS : NsHandle) (m : PendingMove)
    (w : World) :
    ∃ w', (moveDevice podUID netnsPath podNS m).run w = (.ok (), w') ∧ w'.oracle = w.oracle ∧
      ((w'.tracker = w.tracker ∧ ∃ n, (∃ err, w.oracle n (.rdmaLinkByName m.ibDev) = .error err) ∨
          ∃ err, w.oracle n (.rdmaLinkSetNsFd m.ibDev podNS) = .error err) ∨
        (w'.tracker = w.tracker.markActive m.claimUID podUID m.ibDev netnsPath ∧
          ∃ n, w.oracle n (.rdmaLinkByName m.ibDev) = .ok ())) := by
  simp only [moveDevice, Prog.run_bind, run_kernel, Prog.runThen_ok]
  split
  next err found => exact ⟨_, rfl, rfl, .inl ⟨rfl, w.clock, .inl ⟨err, found⟩⟩⟩
  next found =>
    simp only [Prog.run_bind, run_kernel, Prog.runThen_ok]
    split
    next err moved => exact ⟨_, rfl, rfl, .inl ⟨rfl, w.clock + 1, .inr ⟨err, moved⟩⟩⟩
    next => exact ⟨_, rfl, rfl, .inr ⟨rfl, w.clock, found⟩⟩

theorem moveDevices_pending (podUID netnsPath : String) (podNS : NsHandle)
    (moves : List PendingMove) (w : World) :
    ∃ w', (moves.forM (moveDevice podUID netnsPath podNS)).run w = (.ok (), w') ∧
      w'.tracker.pending = w.tracker.pending := by
  induction moves generalizing w with
  | nil => exact ⟨w, rfl, rfl⟩
  | cons m rest ih =>
    obtain ⟨w₁, run₁, -, step⟩ := moveDevice_cases podUID netnsPath podNS m w
    obtain ⟨w', run', pending⟩ := ih w₁
    refine ⟨w', by rw [Prog.run_forM_cons, run₁, Prog.runThen_ok, run'], ?_⟩
    rcases step with ⟨same, -⟩ | ⟨marked, -⟩
    · rw [pending, same]
    · rw [pending, marked, markActive_pending]

/-- The active entry of a claim is left alone by the move loop unless the kernel found
the device of a move of that claim. -/
theorem moveDevices_active_of_missing (podUID netnsPath : String) (podNS : NsHandle)
    (moves : List PendingMove) (w : World) (c : String)
    (missing : ∀ m ∈ moves, m.claimUID = c → w.oracle.RdmaLinkMissing m.ibDev) :
    ((moves.forM (moveDevice podUID netnsPath podNS)).run w).2.tracker.active.lookup c =
      w.tracker.active.lookup c := by
  induction moves generalizing w with
  | nil => rfl
  | cons m rest ih =>
    obtain ⟨w₁, run₁, oracle₁, step⟩ := moveDevice_cases podUID netnsPath podNS m w
    rw [Prog.run_forM_cons, run₁, Prog.runThen_ok,
      ih w₁ fun m' member same => oracle₁ ▸ missing m' (.tail _ member) same]
    rcases step with ⟨same, -⟩ | ⟨marked, n, found⟩
    · rw [same]
    · rw [marked, markActive_lookup, if_neg]
      rintro rfl
      obtain ⟨err, lost⟩ := missing m (.head _) rfl n
      rw [found] at lost
      cases lost

/-- When every RDMA call succeeds, the move loop records each move active in the pod. -/
theorem moveDevices_active (podUID netnsPath : String) (podNS : NsHandle)
    (moves : List PendingMove) (nodup : (moves.map PendingMove.claimUID).Nodup) (w : World)
    (succeed : w.oracle.RdmaMovesSucceed) (m : PendingMove) (member : m ∈ moves) :
    ((moves.forM (moveDevice podUID netnsPath podNS)).run w).2.tracker.active.lookup
      m.claimUID = some ⟨m.ibDev, podUID, netnsPath⟩ := by
  induction moves generalizing w with
  | nil => cases member
  | cons m' rest ih =>
    obtain ⟨fresh, nodup⟩ := List.nodup_cons.mp nodup
    obtain ⟨w₁, run₁, oracle₁, step⟩ := moveDevice_cases podUID netnsPath podNS m' w
    have marked : w₁.tracker = w.tracker.markActive m'.claimUID podUID m'.ibDev netnsPath := by
      rcases step with ⟨-, n, ⟨err, failed⟩ | ⟨err, failed⟩⟩ | ⟨marked, -⟩
      · rw [(succeed n _ podNS).1] at failed
        cases failed
      · rw [(succeed n _ podNS).2] at failed
        cases failed
      · exact marked
    rw [Prog.run_forM_cons, run₁, Prog.runThen_ok]
    rcases List.mem_cons.mp member with rfl | later
    · rw [moveDevices_active_of_missing _ _ _ _ _ m.claimUID fun m'' member' same =>
          (fresh (same ▸ List.mem_map_of_mem PendingMove.claimUID member')).elim,
        marked, markActive_lookup, if_pos rfl]
    · exact ih nodup w₁ (oracle₁ ▸ succeed) later

/-! ### `RunPodSandbox` -/

/-- What `RunPodSandbox` can do with the moves it drains: nothing was drained; or the
pod's namespace could not be reached and every drained move is put back; or the
namespace was opened and the move loop runs over the drained moves. -/
theorem runPodSandbox_cases (pod : PodSandbox) (w : World) :
    let drained := w.tracker.consumePendingForClaims (extractClaimUIDs pod.annotations)
    let path := getNetNSPath pod
    (drained.1 = [] ∧ ((runPodSandbox pod).run w).2.tracker = drained.2) ∨
    ((path = "" ∨ ∃ err, w.oracle w.clock (.netnsGetFromPath path) = .error err) ∧
      ((runPodSandbox pod).run w).2.tracker = reRegistered drained.2 drained.1) ∨
    ∃ podNS, path ≠ "" ∧ w.oracle w.clock (.netnsGetFromPath path) = .ok podNS ∧
      (runPodSandbox pod).run w = (drained.1.forM (moveDevice pod.uid path podNS)).run
        ({ w with tracker := drained.2 }.tick (.netnsGetFromPath path)) := by
  intro drained path
  simp only [runPodSandbox]
  split
  next none =>
    simp only [drained, none]
    exact .inl ⟨rfl, rfl⟩
  next =>
    simp only [Prog.run_bind, run_consumePendingForClaimsOp, Prog.runThen_ok]
    split
    next empty => exact .inl ⟨empty, rfl⟩
    next =>
      split
      next unknown => exact .inr (.inl ⟨.inl unknown, by rw [run_reRegister]⟩)
      next known =>
        simp only [Prog.run_bind, run_kernel, Prog.runThen_ok]
        split
        next err failed =>
          refine .inr (.inl ⟨.inr ⟨err, failed⟩, ?_⟩)
          simp only [Prog.run_bind, run_reRegister, Prog.runThen_ok, Prog.run_throw]
          rfl
        next podNS opened => exact .inr (.inr ⟨podNS, known, opened, rfl⟩)

/-- **Drained moves are kept when the devices move.** Whatever the annotations, the
tracker and the netns lookup, if every RDMA link lookup and move succeeds, each move
`RunPodSandbox` drains ends active in the pod, with its device, or pending again. -/
theorem runPodSandbox_keeps_moves (pod : PodSandbox) (w : World)
    (succeed : w.oracle.RdmaMovesSucceed) (m : PendingMove)
    (drained : m ∈ (w.tracker.consumePendingForClaims (extractClaimUIDs pod.annotations)).1) :
    ((runPodSandbox pod).run w).2.tracker.active.lookup m.claimUID =
        some ⟨m.ibDev, pod.uid, getNetNSPath pod⟩ ∨
      ((runPodSandbox pod).run w).2.tracker.pending.lookup m.claimUID = some m := by
  have nodup := (consumePendingForClaims_moves w.tracker (extractClaimUIDs pod.annotations)).1
  rcases runPodSandbox_cases pod w with ⟨empty, -⟩ | ⟨-, putBack⟩ | ⟨podNS, -, -, moved⟩
  · rw [empty] at drained
    cases drained
  · exact .inr (putBack ▸ reRegistered_lookup _ _ nodup m drained)
  · refine .inl ?_
    rw [moved]
    have active := moveDevices_active pod.uid (getNetNSPath pod) podNS _ nodup
      ({ w with tracker := (w.tracker.consumePendingForClaims (extractClaimUIDs pod.annotations)).2 }.tick
        (.netnsGetFromPath (getNetNSPath pod))) succeed m drained
    exact active

/-- **A drained move is dropped when its device is missing.** If `RunPodSandbox` opens
the pod's namespace and the kernel cannot find the device of a move it drained, the
move ends in neither map: it is no longer pending, and the active map holds for its
claim what it held before the event. -/
theorem runPodSandbox_drops_move (pod : PodSandbox) (w : World) (m : PendingMove)
    (drained : m ∈ (w.tracker.consumePendingForClaims (extractClaimUIDs pod.annotations)).1)
    (podNS : NsHandle) (path : getNetNSPath pod ≠ "")
    (opened : w.oracle w.clock (.netnsGetFromPath (getNetNSPath pod)) = .ok podNS)
    (missing : w.oracle.RdmaLinkMissing m.ibDev) :
    ((runPodSandbox pod).run w).2.tracker.pending.lookup m.claimUID = none ∧
      ((runPodSandbox pod).run w).2.tracker.active.lookup m.claimUID =
        w.tracker.active.lookup m.claimUID := by
  obtain ⟨-, members⟩ := consumePendingForClaims_moves w.tracker (extractClaimUIDs pod.annotations)
  obtain ⟨asked, stored⟩ := (members m).mp drained
  rcases runPodSandbox_cases pod w with ⟨empty, -⟩ | ⟨unreachable, -⟩ | ⟨podNS', -, opened', moved⟩
  · rw [empty] at drained
    cases drained
  · rcases unreachable with empty | ⟨err, failed⟩
    · exact absurd empty path
    · rw [opened] at failed
      cases failed
  · obtain ⟨w', loop, pending⟩ := moveDevices_pending pod.uid _ podNS' _
      ({ w with tracker := _ }.tick (.netnsGetFromPath (getNetNSPath pod)))
    rw [moved, loop]
    refine ⟨by rw [pending]; simp [consumePendingForClaims_lookup, asked], ?_⟩
    rw [← consumePendingForClaims_active w.tracker (extractClaimUIDs pod.annotations)]
    refine (congrArg (·.2.tracker.active.lookup m.claimUID) loop).symm.trans
      (moveDevices_active_of_missing _ _ _ _ _ _ fun m' member same => ?_)
    obtain ⟨-, stored'⟩ := (members m').mp member
    rw [same, stored] at stored'
    cases stored'
    exact missing

/-! ### What the sandbox events do to the claims' moves -/

/-- The move loop changes a claim's active move only for a move of that claim. -/
theorem moveDevices_active_cases (podUID netnsPath : String) (podNS : NsHandle)
    (moves : List PendingMove) (w : World) (c : String) :
    ((moves.forM (moveDevice podUID netnsPath podNS)).run w).2.tracker.active.lookup c =
      w.tracker.active.lookup c ∨ ∃ m ∈ moves, m.claimUID = c := by
  induction moves generalizing w with
  | nil => exact .inl rfl
  | cons m rest ih =>
    obtain ⟨w₁, run₁, -, step⟩ := moveDevice_cases podUID netnsPath podNS m w
    rw [Prog.run_forM_cons, run₁, Prog.runThen_ok]
    rcases ih w₁ with same | ⟨m', member, keyed⟩
    · rcases step with ⟨unchanged, -⟩ | ⟨marked, -⟩
      · exact .inl (by rw [same, unchanged])
      · by_cases here : c = m.claimUID
        · exact .inr ⟨m, List.mem_cons_self _ _, here.symm⟩
        · exact .inl (by rw [same, marked, markActive_lookup, if_neg here])
    · exact .inr ⟨m', List.mem_cons_of_mem _ member, keyed⟩

/-- `RunPodSandbox` adds no move: each claim keeps or loses its pending move, and gets
an active move only in place of the pending move it drained. -/
theorem runPodSandbox_narrows (pod : PodSandbox) (w : World) :
    w.tracker.Narrows ((runPodSandbox pod).run w).2.tracker := by
  intro c
  obtain ⟨nodup, members⟩ := consumePendingForClaims_moves w.tracker (extractClaimUIDs pod.annotations)
  have pending := consumePendingForClaims_lookup w.tracker (extractClaimUIDs pod.annotations) c
  have active := consumePendingForClaims_active w.tracker (extractClaimUIDs pod.annotations)
  rcases runPodSandbox_cases pod w with ⟨-, same⟩ | ⟨-, putBack⟩ | ⟨podNS, -, -, moved⟩
  · rw [same]
    simp only [moves, pending, active]
    split_ifs <;> simp
  · rw [putBack]
    by_cases drained : c ∈ (w.tracker.consumePendingForClaims
        (extractClaimUIDs pod.annotations)).1.map PendingMove.claimUID
    · obtain ⟨m, member, rfl⟩ := List.mem_map.mp drained
      simp [moves, reRegistered_lookup _ _ nodup m member, reRegistered_active, active,
        ((members m).mp member).2]
    · simp only [moves, reRegistered_lookup_of_not_mem _ _ _ drained, reRegistered_active, active,
        pending]
      split_ifs <;> simp
  · rw [moved]
    generalize w.tracker.consumePendingForClaims (extractClaimUIDs pod.annotations) = drained at *
    obtain ⟨w', loop, kept⟩ := moveDevices_pending pod.uid (getNetNSPath pod) podNS drained.1
      ({ w with tracker := drained.2 }.tick (.netnsGetFromPath (getNetNSPath pod)))
    have marked := moveDevices_active_cases pod.uid (getNetNSPath pod) podNS drained.1
      ({ w with tracker := drained.2 }.tick (.netnsGetFromPath (getNetNSPath pod))) c
    rw [loop] at marked ⊢
    simp only [World.tick_tracker] at kept marked
    dsimp only at kept marked ⊢
    simp only [moves, kept]
    rcases marked with same | ⟨m, member, rfl⟩
    · rw [same, pending, active]
      exact ⟨by split_ifs <;> simp, .inl rfl⟩
    · have asked := ((members m).mp member).1
      rw [pending, if_pos asked]
      exact ⟨.inl rfl, .inr (.inr ⟨rfl, by simp [((members m).mp member).2]⟩)⟩

theorem runPodSandbox_moves_of_not_mem (pod : PodSandbox) (w : World) {c : String}
    (unnamed : c ∉ extractClaimUIDs pod.annotations) :
    ((runPodSandbox pod).run w).2.tracker.moves c = w.tracker.moves c := by
  obtain ⟨-, members⟩ := consumePendingForClaims_moves w.tracker (extractClaimUIDs pod.annotations)
  have pending := consumePendingForClaims_lookup w.tracker (extractClaimUIDs pod.annotations) c
  have active := consumePendingForClaims_active w.tracker (extractClaimUIDs pod.annotations)
  have undrained : c ∉ (w.tracker.consumePendingForClaims
      (extractClaimUIDs pod.annotations)).1.map PendingMove.claimUID := fun drained => by
    obtain ⟨m, member, rfl⟩ := List.mem_map.mp drained
    exact unnamed ((members m).mp member).1
  rcases runPodSandbox_cases pod w with ⟨-, same⟩ | ⟨-, putBack⟩ | ⟨podNS, -, -, moved⟩
  · simp [same, moves, pending, active, unnamed]
  · simp [putBack, moves, reRegistered_lookup_of_not_mem _ _ _ undrained, reRegistered_active,
      active, pending, unnamed]
  · rw [moved]
    generalize w.tracker.consumePendingForClaims (extractClaimUIDs pod.annotations) = drained at *
    obtain ⟨w', loop, kept⟩ := moveDevices_pending pod.uid (getNetNSPath pod) podNS drained.1
      ({ w with tracker := drained.2 }.tick (.netnsGetFromPath (getNetNSPath pod)))
    have marked := moveDevices_active_cases pod.uid (getNetNSPath pod) podNS drained.1
      ({ w with tracker := drained.2 }.tick (.netnsGetFromPath (getNetNSPath pod))) c
    rw [loop] at marked ⊢
    simp only [World.tick_tracker] at kept marked
    dsimp only at kept marked ⊢
    rcases marked with same | ⟨m, member, rfl⟩
    · simp only [moves, kept, same, pending, active, if_neg unnamed]
    · exact absurd (List.mem_map_of_mem _ member) undrained

theorem inPodNetns_calls (podNetnsPath : String) (body : NsHandle → NodeProg Unit)
    (calls : ∀ ns, (body ns).AllOps NodeOp.IsCall) : (inPodNetns podNetnsPath body).AllOps NodeOp.IsCall := by
  simp [KernelCall.Reply, kernel, inPodNetns, enterPodNetns, calls]

theorem returnDevice_calls (ibDev : String) (hostNS : NsHandle) :
    (returnDevice ibDev hostNS).AllOps NodeOp.IsCall := by
  simp [KernelCall.Reply, kernel, returnDevice]

/-- The frame never fails when its body does not: every error of the namespace calls is
logged and ignored. -/
theorem inPodNetns_neverFails (podNetnsPath : String) {body : NsHandle → NodeProg Unit}
    (never : ∀ ns, (body ns).NeverFails) : (inPodNetns podNetnsPath body).NeverFails := by
  simp [KernelCall.Reply, kernel, inPodNetns, enterPodNetns, never]

theorem returnDevice_neverFails (ibDev : String) (hostNS : NsHandle) :
    (returnDevice ibDev hostNS).NeverFails := by
  simp [KernelCall.Reply, kernel, returnDevice]

/-- `StopPodSandbox` drops its pod's active moves and touches no other move. -/
theorem stopPodSandbox_tracker (pod : PodSandbox) (w : World) :
    ((stopPodSandbox pod).run w).2.tracker = (w.tracker.removeActiveForPod pod.uid).2 := by
  simp only [stopPodSandbox, Prog.run_bind, run_removeActiveForPodOp, Prog.runThen_ok]
  split
  · rfl
  · exact (Prog.run_tracker_of_calls (inPodNetns_calls _ _ fun ns =>
      Prog.allOps_forM _ _ _ fun m _ => returnDevice_calls m.ibDev ns) _).1

theorem stopPodSandbox_narrows (pod : PodSandbox) (w : World) :
    w.tracker.Narrows ((stopPodSandbox pod).run w).2.tracker := by
  rw [stopPodSandbox_tracker]
  exact removeActiveForPod_narrows w.tracker pod.uid

/-- A node with one pending move, device `mlx5_0` for a claim, in a kernel that
cannot find that device. -/
def missingDeviceNode : World where
  tracker := RDMANetnsTracker.new.addPending "aabbccdd-1234-5678-abcd-1234567890ab" "mlx5_0"
  allocations := ∅
  cdiFiles := ∅
  detectedMode := some .exclusive
  oracle := fun n call => match call with
    | .rdmaLinkByName _ => .error "link not found"
    | call => Oracle.healthy n call
  clock := 0
  trace := []

/-- A pod of that claim, with a network namespace. -/
def missingDevicePod : PodSandbox where
  uid := "pod-1"
  annotations := [("resource.kubernetes.io/ctr", "aabbccdd-1234-5678-abcd-1234567890ab")]
  linux := some [⟨"network", "/var/run/netns/pod-1"⟩]

set_option maxRecDepth 4000 in
/-- `RunPodSandbox` loses the move: pending before the event, in neither map after. -/
theorem runPodSandbox_loses_move :
    missingDeviceNode.tracker.pending.lookup "aabbccdd-1234-5678-abcd-1234567890ab" =
        some ⟨"mlx5_0", "aabbccdd-1234-5678-abcd-1234567890ab"⟩ ∧
      ((runPodSandbox missingDevicePod).run missingDeviceNode).2.tracker.pending.lookup
        "aabbccdd-1234-5678-abcd-1234567890ab" = none ∧
      ((runPodSandbox missingDevicePod).run missingDeviceNode).2.tracker.active.lookup
        "aabbccdd-1234-5678-abcd-1234567890ab" = none :=
  ⟨rfl, runPodSandbox_drops_move missingDevicePod missingDeviceNode
    ⟨"mlx5_0", "aabbccdd-1234-5678-abcd-1234567890ab"⟩ (by decide) 0 (by decide) rfl
    (fun _ => ⟨_, rfl⟩)⟩

end Plugin

end DraMultiDevice
