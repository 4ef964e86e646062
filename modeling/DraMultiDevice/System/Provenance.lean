import DraMultiDevice.System.Frame

/-!
# Whose claims the tracker holds

`RunPodSandbox` reads claim UIDs out of a pod's annotations, which whoever creates the
pod writes. This module shows that, under every interleaving the node allows, the
tracker's moves come from where the design says they do:

* every claim with a pending or an active move had one when the node started, or is a
  claim of a `PrepareResourceClaims` batch started so far;
* every active move, the record that a claim's RDMA device is in a pod's network
  namespace, was there at the start, or was recorded by the `RunPodSandbox` of a pod
  whose annotations name the claim, with that pod's UID and namespace path.

## Main results

`Driver.relocations_only_for_prepared_claims`, `Driver.active_moves_only_for_naming_pods`.

## Proof strategy

`NodeOp.GivesOnly pend act` says which moves a step may give: only `AddPending` gives a
pending move and only `MarkActive` an active one. A handler's `Prepare` gives only a
pending move of its request's claim and its `Unprepare` none (`Handler.RegistersOwn`),
so a batch gives only pending moves of the claims it prepares. A sandbox event gives
only moves of the moves it drained, which depends on the replies its steps get:
`Prog.Guarded` reads it off the program text for the replies a property of the tracker
admits (`NodeOp.DrainsOnly`). `Node.Keeps` is the node's invariant for any property of
the tracker every such step keeps, and it holds after every choice of the scheduler;
each main result is one instance.
-/

namespace DraMultiDevice

/-! ### Steps taken under allowed replies -/

namespace Prog

variable {O : Type} [AtomicOp O] {α : Type} {allowed : (o : O) → AtomicOp.Resp o → Prop} {P Q : O → Prop}

variable (allowed P) in
/-- `p.Guarded allowed P`: every step `p` can take, when each step before it got a reply
`allowed` admits, satisfies `P`. -/
def Guarded : Prog O α → Prop
  | .pure _ => True
  | .fail _ => True
  | .op o next => P o ∧ ∀ r, allowed o r → (next r).Guarded

theorem AllOps.guarded {p : Prog O α} (all : p.AllOps P) : p.Guarded allowed P := by
  induction p with
  | pure a => trivial
  | fail e => trivial
  | op o next ih => exact ⟨all.1, fun r _ => ih r (all.2 r)⟩

theorem Guarded.mono {p : Prog O α} (guarded : p.Guarded allowed P) (imp : ∀ o, P o → Q o) :
    p.Guarded allowed Q := by
  induction p with
  | pure a => trivial
  | fail e => trivial
  | op o next ih => exact ⟨imp o guarded.1, fun r ok => ih r (guarded.2 r ok)⟩

end Prog

/-! ### The steps that give moves -/

namespace NodeOp

open RDMANetnsTracker

/-- The moves a step may give: a pending move only to a claim `pend` admits, an active
move only one `act` admits. -/
def GivesOnly (pend : String → Prop) (act : String → ActiveMove → Prop) : NodeOp → Prop
  | .addPending c _ => pend c
  | .markActive c p i n => act c ⟨i, p, n⟩
  | _ => True

/-- A drain's reply holds only moves whose claim `D` admits for the UIDs asked for. -/
def DrainsOnly (D : List String → String → Prop) : (o : NodeOp) → o.Resp → Prop
  | .consumePendingForClaims uids, moves => ∀ m ∈ moves, D uids m.claimUID
  | _, _ => True

variable {pend pend' : String → Prop} {act act' : String → ActiveMove → Prop}

theorem GivesOnly.mono (pends : ∀ c, pend c → pend' c) (acts : ∀ c a, act c a → act' c a) {o : NodeOp}
    (gives : o.GivesOnly pend act) : o.GivesOnly pend' act' := by
  cases o
  case addPending => exact pends _ gives
  case markActive => exact acts _ _ gives
  all_goals trivial

theorem givesOnly_of_calls {α : Type} {p : NodeProg α} (calls : p.AllOps IsCall) :
    p.AllOps (GivesOnly pend act) :=
  calls.mono fun o call => by cases o <;> first | exact call.elim | trivial

/-- A claim that keeps or loses each of its moves has one after only if it had one
before. -/
theorem holds_of_lookups {t t' : RDMANetnsTracker} {c : String} (held : t'.Holds c)
    (pending : t'.pending.lookup c = none ∨ t'.pending.lookup c = t.pending.lookup c)
    (active : t'.active.lookup c = none ∨ t'.active.lookup c = t.active.lookup c) : t.Holds c :=
  fun empty => held <| by
    simp only [moves, Prod.mk.injEq] at empty ⊢
    exact ⟨pending.elim id (·.trans empty.1), active.elim id (·.trans empty.2)⟩

theorem ite_none_cases {V : Type} {p : Prop} [Decidable p] (x : Option V) :
    (if p then none else x) = none ∨ (if p then none else x) = x := by
  split_ifs <;> simp

variable {N : String → Prop}

/-- A step that gives moves only to claims of `N` leaves a claim a move only if it had
one before or is of `N`. -/
theorem holds_exec {o : NodeOp} (gives : o.GivesOnly N fun c _ => N c) (w : World) {c : String}
    (held : (AtomicOp.exec o w).2.tracker.Holds c) : w.tracker.Holds c ∨ N c := by
  cases o
  case addPending c' i =>
    change (w.tracker.addPending c' i).Holds c at held
    by_cases same : c = c'
    · exact .inr (same ▸ gives)
    · exact .inl (holds_of_lookups held (.inr ((addPending_lookup _ _ _ _).trans (if_neg same))) (.inr rfl))
  case markActive c' p i n =>
    change (w.tracker.markActive c' p i n).Holds c at held
    by_cases same : c = c'
    · exact .inr (same ▸ gives)
    · exact .inl (holds_of_lookups held (.inr rfl) (.inr ((markActive_lookup _ _ _ _ _ _).trans (if_neg same))))
  case removePending c' =>
    change (w.tracker.removePending c').Holds c at held
    exact .inl (holds_of_lookups held (removePending_lookup _ _ _ ▸ ite_none_cases _) (.inr rfl))
  case consumePendingForClaims uids =>
    change (w.tracker.consumePendingForClaims uids).2.Holds c at held
    exact .inl (holds_of_lookups held (consumePendingForClaims_lookup _ _ _ ▸ ite_none_cases _)
      (.inr (by rw [consumePendingForClaims_active])))
  case removeActive c' =>
    change (w.tracker.removeActive c').2.Holds c at held
    obtain ⟨-, active, pending⟩ := removeActive_spec w.tracker c'
    exact .inl (holds_of_lookups held (.inr (by rw [pending]))
      (by rw [active, lookup_erase_eq_ite]; exact ite_none_cases _))
  case removeActiveForPod p =>
    change (w.tracker.removeActiveForPod p).2.Holds c at held
    exact .inl (holds_of_lookups held (.inr (by rw [(removeActiveForPod_spec _ _).2.2]))
      (removeActiveForPod_lookup _ _ _))
  case detectNetnsMode =>
    change w.detectNetnsMode.2.tracker.Holds c at held
    exact .inl (w.detectNetnsMode_frame.1 ▸ held)
  all_goals exact .inl held

/-- A step that records only active moves `act` admits leaves a claim an active move
only if it had that one before or `act` admits it. -/
theorem active_exec {o : NodeOp} (gives : o.GivesOnly pend act) (w : World) {c : String} {a : ActiveMove}
    (recorded : (AtomicOp.exec o w).2.tracker.active.lookup c = some a) :
    w.tracker.active.lookup c = some a ∨ act c a := by
  cases o
  case markActive c' p i n =>
    change (w.tracker.markActive c' p i n).active.lookup c = some a at recorded
    rw [markActive_lookup] at recorded
    split_ifs at recorded with same
    · exact .inr (Option.some_injective _ recorded ▸ same ▸ gives)
    · exact .inl recorded
  case consumePendingForClaims uids =>
    change (w.tracker.consumePendingForClaims uids).2.active.lookup c = some a at recorded
    exact .inl (consumePendingForClaims_active _ _ ▸ recorded)
  case removeActive c' =>
    change (w.tracker.removeActive c').2.active.lookup c = some a at recorded
    rw [(removeActive_spec _ _).2.1, lookup_erase_eq_ite] at recorded
    split_ifs at recorded
    exact .inl recorded
  case removeActiveForPod p =>
    change (w.tracker.removeActiveForPod p).2.active.lookup c = some a at recorded
    rcases removeActiveForPod_lookup w.tracker p c with gone | same
    · exact absurd (gone.symm.trans recorded) (nomatch ·)
    · exact .inl (same ▸ recorded)
  case detectNetnsMode =>
    change w.detectNetnsMode.2.tracker.active.lookup c = some a at recorded
    exact .inl (w.detectNetnsMode_frame.1 ▸ recorded)
  all_goals exact .inl recorded

/-- From a tracker whose claims are all of `N`, a drain's reply holds only moves of
claims of `N`. -/
theorem drainsOnly_exec (o : NodeOp) (w : World) (named : ∀ c, w.tracker.Holds c → N c) :
    o.DrainsOnly (fun _ c => N c) (AtomicOp.exec o w).1 := by
  cases o
  case consumePendingForClaims uids =>
    intro m drained
    have stored := (((consumePendingForClaims_moves w.tracker uids).2 m).mp drained).2
    exact named _ fun empty => by simp [moves, stored] at empty
  all_goals trivial

/-- From every tracker, a drain's reply holds only moves of the claims asked for. -/
theorem drainsAsked_exec (o : NodeOp) (w : World) : o.DrainsOnly (fun uids c => c ∈ uids) (AtomicOp.exec o w).1 := by
  cases o
  case consumePendingForClaims uids =>
    exact fun m drained => (((consumePendingForClaims_moves w.tracker uids).2 m).mp drained).1
  all_goals trivial

end NodeOp

/-- A property of the node's steps, as a property of the driver's: the driver's own
steps reach neither the tracker nor the kernel. -/
def DriverOp.OnNode (P : NodeOp → Prop) : DriverOp → Prop
  | .node o => P o
  | _ => True

theorem DriverOp.OnNode.mono {P Q : NodeOp → Prop} (imp : ∀ o, P o → Q o) {o : DriverOp} (admitted : o.OnNode P) :
    o.OnNode Q := by
  cases o
  case node o => exact imp o admitted
  all_goals trivial

/-- A property of the tracker every node step `P` admits keeps is kept by every driver
step `P` admits. -/
theorem DriverOp.tracker_exec {P : NodeOp → Prop} {Inv : RDMANetnsTracker → Prop}
    (preserved : ∀ o w, P o → Inv w.tracker → Inv (AtomicOp.exec o w).2.tracker) {o : DriverOp}
    (admitted : o.OnNode P) (w : World) (inv : Inv w.tracker) : Inv (AtomicOp.exec o w).2.tracker := by
  cases o
  case node o => exact preserved o w admitted inv
  all_goals exact inv

/-! ### The handlers' moves -/

/-- `Prepare` gives only a pending move of its request's claim, and `Unprepare` no move. -/
def Handler.RegistersOwn (h : Handler) : Prop :=
  (∀ req, (h.prepare req).AllOps (NodeOp.GivesOnly (· = req.claimUID) fun _ _ => False)) ∧
    ∀ req, (h.unprepare req).AllOps (NodeOp.GivesOnly (fun _ => False) fun _ _ => False)

theorem Handler.netdev_registersOwn {h : Handler} (isNetdev : h.IsNetdev) : h.RegistersOwn :=
  ⟨fun req => NodeOp.givesOnly_of_calls ((Handler.netdev_calls isNetdev).2.1 req),
    fun req => NodeOp.givesOnly_of_calls ((Handler.netdev_calls isNetdev).2.2 req)⟩

theorem Handler.uverbs_registersOwn : (Handler.uverbs true).RegistersOwn := by
  refine ⟨fun req => ?_, fun req => ?_⟩
  · simp [Handler.prepare, invoke, uverbsPrepare, detectNetnsMode, RDMANetnsTracker.addPendingOp,
      NodeOp.GivesOnly, NodeOp.givesOnly_of_calls (uverbsProbe_calls req)]
  · have returned : ∀ ibDev path, (returnRDMAToHost ibDev path).AllOps
        (NodeOp.GivesOnly (fun _ => False) fun _ _ => False) :=
      fun ibDev path => NodeOp.givesOnly_of_calls (returnRDMAToHost_calls ibDev path)
    simp [Handler.unprepare, invoke, uverbsUnprepare, detectNetnsMode, RDMANetnsTracker.removePendingOp,
      RDMANetnsTracker.removeActiveOp, NodeOp.GivesOnly, returned]

/-- `RoCEHandler.Prepare` takes the steps of its sides: the RDMA side's `Prepare` on
the request's claim, the netdev side's, and the RDMA side's `Unprepare` of what the RDMA
side returned. -/
theorem rocePrepare_allOps {P : NodeOp → Prop} {R : PrepareResult → Prop}
    (rdmaPrepare netdevPrepare : PrepareRequest → NodeProg PrepareResult)
    (rdmaUnprepare : UnprepareRequest → NodeProg Unit) (req : PrepareRequest)
    (rdma : ∀ cfg, (rdmaPrepare (roceRdmaRequest req cfg)).AllOps P)
    (returns : ∀ cfg, (rdmaPrepare (roceRdmaRequest req cfg)).Returns R)
    (netdev : ∀ cfg, (netdevPrepare (roceNetRequest req cfg)).AllOps P)
    (undo : ∀ result, R result → (rdmaUnprepare ⟨req.claimUID, result.allocation⟩).AllOps P) :
    (rocePrepare rdmaPrepare netdevPrepare rdmaUnprepare req).AllOps P := by
  simp only [rocePrepare, Prog.allOps_bind, Prog.allOps_ofOption, Prog.returns_ofOption, Prog.allOps_tryCatch_throw,
    Prog.returns_tryCatch_throw, Prog.allOps_checkUndo, Prog.returns_checkUndo, Prog.allOps_attempt,
    Prog.allOps_discard, Prog.allOps_pure]
  exact ⟨trivial, fun cfg _ => ⟨rdma cfg, (returns cfg).mono fun result returned =>
    ⟨⟨netdev cfg, (Prog.returns_true _).mono fun _ _ _ _ => undo result returned⟩,
      (Prog.returns_true _).mono fun _ _ _ _ => trivial⟩⟩⟩

/-- `RoCEHandler.Unprepare` takes the steps of its sides' `Unprepare`, on the records
it rebuilds for them. -/
theorem roceUnprepare_allOps {P : NodeOp → Prop} (rdmaUnprepare netdevUnprepare : UnprepareRequest → NodeProg Unit)
    (req : UnprepareRequest) (rdma : (rdmaUnprepare ⟨req.claimUID, roceRdmaAllocation req⟩).AllOps P)
    (netdev : (netdevUnprepare ⟨req.claimUID, roceNetAllocation req⟩).AllOps P) :
    (roceUnprepare rdmaUnprepare netdevUnprepare req).AllOps P := by
  simp [roceUnprepare, rdma, netdev]

/-- Every handler the repository registers gives only a pending move of the claim it
prepares. -/
theorem Handler.Tracked.registersOwn {h : Handler} (tracked : h.Tracked) : h.RegistersOwn := by
  cases tracked with
  | netdev isNetdev => exact Handler.netdev_registersOwn isNetdev
  | uverbs => exact Handler.uverbs_registersOwn
  | roce isNetdev =>
    have uverbs := Handler.uverbs_registersOwn
    have netdev := Handler.netdev_registersOwn isNetdev
    refine ⟨fun req => ?_, fun req => ?_⟩
    · simp only [Handler.prepare, invoke, Prog.allOps_bind, Prog.allOps_op, Prog.allOps_pure_ctor,
        Prog.returns_op, Prog.returns_pure_ctor, NodeOp.GivesOnly]
      exact ⟨⟨trivial, fun _ => trivial⟩, fun _ => rocePrepare_allOps _ _ _ req
        (fun cfg => uverbs.1 (roceRdmaRequest req cfg)) (fun _ => Prog.returns_true _)
        (fun cfg => netdev.1 (roceNetRequest req cfg)) fun _ _ =>
          (uverbs.2 _).mono fun _ => NodeOp.GivesOnly.mono (fun _ => False.elim) fun _ _ => id⟩
    · simp only [Handler.unprepare, invoke, Prog.allOps_bind, Prog.allOps_op, Prog.allOps_pure_ctor,
        Prog.returns_op, Prog.returns_pure_ctor, NodeOp.GivesOnly]
      exact ⟨⟨trivial, fun _ => trivial⟩, fun _ => roceUnprepare_allOps _ _ req (uverbs.2 _) (netdev.2 _)⟩

/-! ### The moves of a batch -/

namespace Driver

/-- The claim UIDs a batch prepares. -/
def Batch.preparedUIDs : Batch → List String
  | .prepare claims => claims.map ResourceClaim.uid
  | .unprepare _ => []

variable {d : Driver} (registry : d.registry = buildHandlerRegistry)
include registry

/-- The steps of `prepareClaim`: the system calls of the validation, and the steps of the
`Prepare` of a handler the registry finds. -/
theorem prepareClaim_allOps {P : NodeOp → Prop} (rc : ResourceClaim) (calls : ∀ o, o.IsCall → P o)
    (prepared : ∀ h : Handler, h.Tracked → (h.prepare ⟨rc.uid, d.getAllocatedDevice rc, d.parseConfig rc⟩).AllOps P) :
    (d.prepareClaim rc).AllOps P := by
  unfold prepareClaim
  cases found : d.mustGet (d.parseConfig rc).type (d.parseConfig rc).getKind with
  | error err => simp [found]
  | ok h =>
    have tracked := (get_tracked registry (get_of_mustGet found)).1
    simp only [found, Prog.allOps_bind, Prog.allOps_pure, Prog.returns_pure, Prog.allOps_tryCatch_throw,
      Prog.returns_tryCatch_throw, true_and]
    exact ⟨(Handler.validate_calls tracked _).mono calls, (Prog.returns_true _).mono fun _ _ => prepared h tracked⟩

/-- The steps of `unprepareAllocation`: those of the `Unprepare` of a handler the registry
finds, on the record under its claim. -/
theorem unprepareAllocation_allOps {P : NodeOp → Prop} (alloc : AllocationInfo)
    (released : ∀ h : Handler, h.Tracked → (h.unprepare ⟨alloc.claimUID, alloc⟩).AllOps P) :
    (d.unprepareAllocation alloc).AllOps P := by
  unfold unprepareAllocation
  split
  next found => exact released _ (get_tracked registry found).1
  next => trivial

theorem prepareClaim_registers (rc : ResourceClaim) :
    (d.prepareClaim rc).AllOps (NodeOp.GivesOnly (· = rc.uid) fun _ _ => False) :=
  prepareClaim_allOps registry rc (fun o call => by cases o <;> first | exact call.elim | trivial)
    fun _ tracked => tracked.registersOwn.1 ⟨rc.uid, d.getAllocatedDevice rc, d.parseConfig rc⟩

theorem unprepareAllocation_registers (alloc : AllocationInfo) :
    (d.unprepareAllocation alloc).AllOps (NodeOp.GivesOnly (fun _ => False) fun _ _ => False) :=
  unprepareAllocation_allOps registry alloc fun _ tracked => tracked.registersOwn.2 _

/-- **A batch gives only pending moves of the claims it prepares.** -/
theorem batchProgram_registers (b : Batch) :
    (d.batchProgram b).AllOps (DriverOp.OnNode (NodeOp.GivesOnly (· ∈ b.preparedUIDs) fun _ _ => False)) := by
  have restores : d.restoreAllocations.AllOps (DriverOp.OnNode (NodeOp.GivesOnly (· ∈ b.preparedUIDs) fun _ _ => False)) :=
    d.restoreAllocations_allOps trivial (fun _ => trivial) fun _ => trivial
  have released : ∀ alloc, (d.unprepareAllocation alloc).AllOps fun o =>
      DriverOp.OnNode (NodeOp.GivesOnly (· ∈ b.preparedUIDs) fun _ _ => False) (.node o) := fun alloc =>
    (unprepareAllocation_registers registry alloc).mono fun _ => NodeOp.GivesOnly.mono (fun _ => False.elim) fun _ _ => id
  cases b with
  | prepare claims =>
    refine (Prog.allOps_discard _ _).mpr (d.prepareResourceClaims_allOps claims restores fun rc member => ?_)
    exact d.prepareOne_allOps rc trivial ((prepareClaim_registers registry rc).mono fun _ =>
        NodeOp.GivesOnly.mono (fun _ named => named ▸ List.mem_map_of_mem _ member) fun _ _ => id)
      (Prog.returns_true _) (fun _ => d.createCDISpec_allOps _ _ trivial trivial trivial) (fun _ _ => released _)
      fun _ _ => trivial
  | unprepare claimUIDs =>
    refine (Prog.allOps_discard _ _).mpr (d.unprepareResourceClaims_allOps claimUIDs restores fun c _ => ?_)
    exact d.unprepareOne_allOps c trivial released (d.deleteCDISpec_allOps _ trivial trivial) trivial

end Driver

/-! ### The moves of a sandbox event -/

namespace Plugin

variable {pend : String → Prop} {act : String → ActiveMove → Prop}

theorem moveDevice_gives (podUID netnsPath : String) (podNS : NsHandle) {m : PendingMove}
    (marks : act m.claimUID ⟨m.ibDev, podUID, netnsPath⟩) :
    (moveDevice podUID netnsPath podNS m).AllOps (NodeOp.GivesOnly pend act) := by
  simp [moveDevice, kernel, KernelCall.Reply, RDMANetnsTracker.markActiveOp, NodeOp.GivesOnly, marks]

/-- `RunPodSandbox` gives only moves of the claims of the moves it drained, and records
every active move with its own pod's UID and namespace path. -/
theorem runPodSandbox_guarded (D : List String → String → Prop) (pod : PodSandbox) :
    (runPodSandbox pod).Guarded (NodeOp.DrainsOnly D)
      (NodeOp.GivesOnly (D (extractClaimUIDs pod.annotations)) fun c a =>
        D (extractClaimUIDs pod.annotations) c ∧ a.podUID = pod.uid ∧ a.netnsPath = getNetNSPath pod) := by
  dsimp only [runPodSandbox]
  split
  · trivial
  · refine ⟨trivial, fun moves drained => Prog.AllOps.guarded ?_⟩
    have again : (reRegister moves).AllOps (NodeOp.GivesOnly (D (extractClaimUIDs pod.annotations)) fun c a =>
        D (extractClaimUIDs pod.annotations) c ∧ a.podUID = pod.uid ∧ a.netnsPath = getNetNSPath pod) :=
      Prog.allOps_forM _ _ _ fun m member => ⟨drained m member, fun _ => trivial⟩
    have moved : ∀ ns, (moves.forM (moveDevice pod.uid (getNetNSPath pod) ns)).AllOps
        (NodeOp.GivesOnly (D (extractClaimUIDs pod.annotations)) fun c a =>
          D (extractClaimUIDs pod.annotations) c ∧ a.podUID = pod.uid ∧ a.netnsPath = getNetNSPath pod) :=
      fun ns => Prog.allOps_forM _ _ _ fun m member => moveDevice_gives _ _ _ ⟨drained m member, rfl, rfl⟩
    dsimp only [Prog.bind]
    simp [kernel, KernelCall.Reply, NodeOp.GivesOnly, again, moved]

theorem stopPodSandbox_gives (pod : PodSandbox) : (stopPodSandbox pod).AllOps (NodeOp.GivesOnly pend act) := by
  simp only [stopPodSandbox, RDMANetnsTracker.removeActiveForPodOp, Prog.allOps_bind, Prog.allOps_op,
    Prog.allOps_pure_ctor, Prog.returns_op, Prog.returns_pure_ctor, Prog.allOps_ite, Prog.allOps_pure]
  exact ⟨⟨trivial, fun _ => trivial⟩, fun moves => ⟨fun _ => trivial, fun _ => NodeOp.givesOnly_of_calls
    (inPodNetns_calls _ _ fun ns => Prog.allOps_forM _ _ _ fun m _ => returnDevice_calls m.ibDev ns)⟩⟩

end Plugin

/-! ### The node -/

/-- The sandbox event a choice starts takes only steps `P` admits, for the replies
`allowed` admits. -/
def Choice.Admits (allowed : (o : NodeOp) → o.Resp → Prop) (P : NodeOp → Prop) : Choice → Prop
  | .start (.runPodSandbox pod) => (Plugin.runPodSandbox pod).Guarded allowed P
  | .start (.stopPodSandbox pod) => (Plugin.stopPodSandbox pod).Guarded allowed P
  | _ => True

/-- The tracker has property `Inv`, the batch in progress takes only steps `P` admits,
and so does every sandbox event in progress, for the replies `allowed` admits. -/
structure Node.Keeps (Inv : RDMANetnsTracker → Prop) (allowed : (o : NodeOp) → o.Resp → Prop) (P : NodeOp → Prop)
    (n : Node) : Prop where
  tracker : Inv n.world.tracker
  batch : ∀ p, n.batch = some p → p.AllOps (DriverOp.OnNode P)
  sandbox : ∀ p ∈ n.sandbox, p.Guarded allowed P

namespace Node.Keeps

variable {d : Driver} {Inv : RDMANetnsTracker → Prop} {allowed : (o : NodeOp) → o.Resp → Prop}
  {P : NodeOp → Prop}

theorem idle {w : World} (inv : Inv w.tracker) : (Node.idle w).Keeps Inv allowed P :=
  ⟨inv, fun _ absent => (nomatch absent), fun _ absent => (nomatch absent)⟩

variable (preserved : ∀ o w, P o → Inv w.tracker → Inv (AtomicOp.exec o w).2.tracker)
  (replies : ∀ o w, Inv w.tracker → allowed o (AtomicOp.exec o w).1)
include preserved replies

/-- Every choice of the scheduler that starts only programs `P` admits keeps the node's
invariant: a step `P` admits keeps `Inv`, and from a tracker with `Inv` a sandbox event's
step gets a reply `allowed` admits. -/
theorem advance {n : Node} (keeps : n.Keeps Inv allowed P) :
    ∀ c, (∀ b ∈ n.started c, (d.batchProgram b).AllOps (DriverOp.OnNode P)) → c.Admits allowed P →
      (n.advance d c).Keeps Inv allowed P
  | .start (.batch b), batches, _ => by
    simp only [Node.advance]
    split_ifs with idle
    · exact ⟨keeps.tracker, fun p started => Option.some_injective _ started ▸ batches b (by simp [Node.started, idle]),
        keeps.sandbox⟩
    · exact keeps
  | .start (.runPodSandbox _), _, admits => ⟨keeps.tracker, keeps.batch, fun p member =>
      (List.mem_append.mp member).elim (keeps.sandbox p) fun new => List.mem_singleton.mp new ▸ admits⟩
  | .start (.stopPodSandbox _), _, admits => ⟨keeps.tracker, keeps.batch, fun p member =>
      (List.mem_append.mp member).elim (keeps.sandbox p) fun new => List.mem_singleton.mp new ▸ admits⟩
  | .stepBatch, _, _ => by
    rcases running : n.batch with _ | p
    · simp only [Node.advance, running]
      exact keeps
    have all := keeps.batch p running
    cases p with
    | pure _ | fail _ =>
      simp only [Node.advance, running, Prog.step]
      exact ⟨keeps.tracker, fun _ absent => (nomatch absent), keeps.sandbox⟩
    | op o next =>
      simp only [Node.advance, running, Prog.step]
      exact ⟨DriverOp.tracker_exec preserved all.1 n.world keeps.tracker,
        fun p stepped => Option.some_injective _ stepped ▸ all.2 _, keeps.sandbox⟩
  | .stepSandbox i, _, _ => by
    rcases thread : n.sandbox[i]? with _ | p
    · simp only [Node.advance, thread]
      exact keeps
    have guarded := keeps.sandbox p (List.getElem?_mem thread)
    cases p with
    | pure _ | fail _ =>
      simp only [Node.advance, thread, Prog.step]
      exact ⟨keeps.tracker, keeps.batch, fun q member => keeps.sandbox q (List.mem_of_mem_eraseIdx member)⟩
    | op o next =>
      simp only [Node.advance, thread, Prog.step]
      refine ⟨preserved o n.world guarded.1 keeps.tracker, keeps.batch, fun q member => ?_⟩
      rcases List.mem_or_eq_of_mem_set member with old | rfl
      · exact keeps.sandbox q old
      · exact guarded.2 _ (replies o n.world keeps.tracker)

theorem runSchedule {n : Node} (keeps : n.Keeps Inv allowed P) (schedule : List Choice)
    (batches : ∀ b ∈ n.startedAlong d schedule, (d.batchProgram b).AllOps (DriverOp.OnNode P))
    (events : ∀ c ∈ schedule, c.Admits allowed P) : (n.runSchedule d schedule).Keeps Inv allowed P := by
  induction schedule generalizing n with
  | nil => exact keeps
  | cons c rest ih =>
    exact ih (keeps.advance preserved replies c (fun b now => batches b (List.mem_append_left _ now))
      (events c (.head _))) (fun b later => batches b (List.mem_append_right _ later)) fun c' member =>
        events c' (.tail _ member)

end Node.Keeps

/-! ### The claims the tracker holds -/

/-- Every sandbox event gives moves only to claims of `N`, from a tracker holding only
claims of `N`. -/
theorem Choice.admits_draining (N : String → Prop) :
    ∀ c : Choice, c.Admits (NodeOp.DrainsOnly fun _ c => N c) (NodeOp.GivesOnly N fun c _ => N c)
  | .start (.batch _) | .stepBatch | .stepSandbox _ => trivial
  | .start (.runPodSandbox pod) =>
      (Plugin.runPodSandbox_guarded _ pod).mono fun _ => NodeOp.GivesOnly.mono (fun _ => id) fun _ _ => And.left
  | .start (.stopPodSandbox pod) => (Plugin.stopPodSandbox_gives pod).guarded

namespace Driver

variable {d : Driver} (registry : d.registry = buildHandlerRegistry)
include registry

/-- **Moves only for prepared claims.** Along every schedule from an idle node, any
interleaving of batches and sandbox events, a claim the tracker holds a pending or an
active move for had one at the start, or is a claim of a `PrepareResourceClaims`
batch the schedule has started. A pod's annotations may name any UID, but a drain
returns only moves the tracker holds, and a drained move goes back to the tracker, or
becomes active, only under its own claim. -/
theorem relocations_only_for_prepared_claims (w : World) (schedule : List Choice) {c : String}
    (held : ((Node.idle w).runSchedule d schedule).world.tracker.Holds c) :
    w.tracker.Holds c ∨ c ∈ ((Node.idle w).startedAlong d schedule).flatMap Batch.preparedUIDs := by
  let N c := w.tracker.Holds c ∨ c ∈ ((Node.idle w).startedAlong d schedule).flatMap Batch.preparedUIDs
  have start : (Node.idle w).Keeps (fun t => ∀ c, t.Holds c → N c) (NodeOp.DrainsOnly fun _ c => N c)
      (NodeOp.GivesOnly N fun c _ => N c) := Node.Keeps.idle fun _ => .inl
  have named := start.runSchedule (fun o w gives named c held => (NodeOp.holds_exec gives w held).elim (named c) id)
    (fun o w named => NodeOp.drainsOnly_exec o w named) schedule
    (fun b member => (batchProgram_registers registry b).mono fun _ => DriverOp.OnNode.mono fun _ =>
      NodeOp.GivesOnly.mono (fun _ prepared => .inr (List.mem_flatMap.mpr ⟨b, member, prepared⟩)) fun _ _ => False.elim)
    fun ch _ => Choice.admits_draining N ch
  exact named.tracker c held

end Driver

set_option maxRecDepth 8000 in
theorem relocated_claim_was_prepared :
    exampleDriver.registry = buildHandlerRegistry ∧
      ((Node.idle roceNode).runSchedule exampleDriver (releaseMidRelocation false)).world.tracker.Holds
        relocatedClaim.uid ∧
      (roceNode.tracker.Holds relocatedClaim.uid ∨ relocatedClaim.uid ∈
        ((Node.idle roceNode).startedAlong exampleDriver (releaseMidRelocation false)).flatMap
          Driver.Batch.preparedUIDs) :=
  have held : ((Node.idle roceNode).runSchedule exampleDriver (releaseMidRelocation false)).world.tracker.Holds
      relocatedClaim.uid := by
    show _ ≠ _
    decide
  ⟨rfl, held, Driver.relocations_only_for_prepared_claims rfl _ _ held⟩

/-! ### The pods devices move into -/

/-- Every choice starts only sandbox events that record an active move only as the
`RunPodSandbox` of a pod naming its claim. -/
theorem Choice.admits_naming_pods {Q : String → ActiveMove → Prop} (c : Choice)
    (naming : ∀ pod, c = .start (.runPodSandbox pod) → ∀ claim a, claim ∈ extractClaimUIDs pod.annotations →
      a.podUID = pod.uid → a.netnsPath = getNetNSPath pod → Q claim a) :
    c.Admits (NodeOp.DrainsOnly fun uids c => c ∈ uids) (NodeOp.GivesOnly (fun _ => True) Q) :=
  match c with
  | .start (.batch _) => trivial
  | .start (.runPodSandbox pod) => (Plugin.runPodSandbox_guarded _ pod).mono fun _ =>
      NodeOp.GivesOnly.mono (fun _ _ => trivial) fun claim a named => naming pod rfl claim a named.1 named.2.1 named.2.2
  | .start (.stopPodSandbox pod) => (Plugin.stopPodSandbox_gives pod).guarded
  | .stepBatch | .stepSandbox _ => trivial

namespace Driver

variable {d : Driver} (registry : d.registry = buildHandlerRegistry)
include registry

/-- **Devices move only into pods that name their claim.** Along every schedule from an
idle node, any interleaving of batches and sandbox events, every active move the tracker
records, the record that a claim's RDMA device is in a pod's network namespace, was
recorded at the start, or was recorded by the `RunPodSandbox` of a pod started so far
whose annotations name the claim, under that pod's UID and namespace path. -/
theorem active_moves_only_for_naming_pods (w : World) (schedule : List Choice) {c : String} {a : ActiveMove}
    (recorded : ((Node.idle w).runSchedule d schedule).world.tracker.active.lookup c = some a) :
    w.tracker.active.lookup c = some a ∨ ∃ pod, .start (.runPodSandbox pod) ∈ schedule ∧
      c ∈ extractClaimUIDs pod.annotations ∧ a.podUID = pod.uid ∧ a.netnsPath = getNetNSPath pod := by
  let Q c a := w.tracker.active.lookup c = some a ∨ ∃ pod, .start (.runPodSandbox pod) ∈ schedule ∧
    c ∈ extractClaimUIDs pod.annotations ∧ a.podUID = pod.uid ∧ a.netnsPath = getNetNSPath pod
  have start : (Node.idle w).Keeps (fun t => ∀ c a, t.active.lookup c = some a → Q c a)
      (NodeOp.DrainsOnly fun uids c => c ∈ uids) (NodeOp.GivesOnly (fun _ => True) Q) :=
    Node.Keeps.idle fun _ _ => .inl
  have named := start.runSchedule
    (fun o w gives named c a recorded => (NodeOp.active_exec gives w recorded).elim (named c a) id)
    (fun o w _ => NodeOp.drainsAsked_exec o w) schedule
    (fun b _ => (batchProgram_registers registry b).mono fun _ =>
      DriverOp.OnNode.mono fun _ => NodeOp.GivesOnly.mono (fun _ _ => trivial) fun _ _ => False.elim)
    fun ch member => Choice.admits_naming_pods ch fun pod started claim a named podUID path =>
      .inr ⟨pod, started ▸ member, named, podUID, path⟩
  exact named.tracker c a recorded

end Driver

/-- The active move the relocation leaves for its claim: `uverbs0`'s IB device in
`pod-1`'s namespace. -/
def relocatedMove : ActiveMove := ⟨"mlx5_0", relocatedPod.uid, getNetNSPath relocatedPod⟩

set_option maxRecDepth 8000 in
theorem relocated_pod_names_its_claim :
    exampleDriver.registry = buildHandlerRegistry ∧
      ((Node.idle roceNode).runSchedule exampleDriver (releaseMidRelocation false)).world.tracker.active.lookup
        relocatedClaim.uid = some relocatedMove ∧
      (roceNode.tracker.active.lookup relocatedClaim.uid = some relocatedMove ∨
        ∃ pod, .start (.runPodSandbox pod) ∈ releaseMidRelocation false ∧
          relocatedClaim.uid ∈ extractClaimUIDs pod.annotations ∧ relocatedMove.podUID = pod.uid ∧
          relocatedMove.netnsPath = getNetNSPath pod) :=
  have recorded : ((Node.idle roceNode).runSchedule exampleDriver (releaseMidRelocation false)).world.tracker.active.lookup
      relocatedClaim.uid = some relocatedMove := by
    decide
  ⟨rfl, recorded, Driver.active_moves_only_for_naming_pods rfl _ _ recorded⟩

end DraMultiDevice
