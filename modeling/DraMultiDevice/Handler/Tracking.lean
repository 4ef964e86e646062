import DraMultiDevice.Handler.Combo
import DraMultiDevice.Nri.Plugin

/-!
# What the handlers do to the tracker

Only the uverbs handler reaches the tracker: its `Prepare` registers a pending move for
its claim in exclusive mode, and its `Unprepare` drops the claim's pending and active
moves. RoCE reaches the tracker through its RDMA side, and every netdev handler makes
system calls only. For each handler the repository registers, this module says what one
`Prepare` or `Unprepare` does to the tracker as seen from its claim, and that it leaves
every other claim's moves alone.

## Main results

* `Handler.prepare_effect`: from a claim with no moves, a `Prepare` leaves it no active
  move, and a pending move exactly when it succeeded with an allocation naming an IB
  device while the cached mode is exclusive.
* `Handler.unprepare_effect`: an `Unprepare` drops the claim's moves when the cached
  mode is exclusive and the allocation names an IB device, and otherwise leaves them.
* `Handler.unprepare_ok`: on a kernel that deletes every link, no release fails.

## Proof strategy

One run equation per uverbs function (`run_uverbsPrepare`, `run_uverbsUnprepare`), one
lemma that the other handlers make only system calls (`Handler.netdev_calls`, through
`Prog.AllOps`), and RoCE assembled from its two sides with `run_rocePrepare` and
`run_roceUnprepare`.
-/

namespace DraMultiDevice

/-- The IB device whose move a release undoes: the `ibdev` of a uverbs allocation, the
`rdma_ibdev` of a RoCE allocation, and none for any other. -/
def AllocationInfo.ibdev (alloc : AllocationInfo) : String :=
  if alloc.type = deviceTypeRDMA ∧ alloc.kind = "uverbs" then alloc.metadata.get "ibdev"
  else if alloc.type = deviceTypeCombo ∧ alloc.kind = "roce" then alloc.metadata.get "rdma_ibdev"
  else ""

theorem AllocationInfo.ibdev_of_netdev {alloc : AllocationInfo} (netdev : alloc.type = deviceTypeNetdev) :
    alloc.ibdev = "" := by
  simp [AllocationInfo.ibdev, netdev, deviceTypeNetdev, deviceTypeRDMA, deviceTypeCombo]

open RDMANetnsTracker

/-! ### Handlers that make system calls only -/

theorem Prog.allOps_forIn {O : Type} [AtomicOp O] {β γ : Type} (P : O → Prop) (l : List β) (init : γ)
    (f : β → γ → Prog O (ForInStep γ)) (each : ∀ b ∈ l, ∀ c, (f b c).AllOps P) :
    (forIn l init f).AllOps P := by
  induction l generalizing init with
  | nil => simp
  | cons b rest ih =>
    rw [List.forIn_cons, Prog.allOps_bind]
    refine ⟨each b (List.mem_cons_self _ _) init, (Prog.returns_true _).mono fun step _ => ?_⟩
    cases step
    · simp
    · exact ih _ fun b' member => each b' (List.mem_cons_of_mem _ member)

theorem firstVirtfnNet_calls (dir : String) (entries : List String) :
    (firstVirtfnNet dir entries).AllOps NodeOp.IsCall := by
  induction entries with
  | nil => simp [firstVirtfnNet]
  | cons entry rest ih =>
    simp only [firstVirtfnNet]
    split
    · exact ih
    · simp [KernelCall.Reply, kernel, ih]
      rintro (_ | _) <;> simp [ih]

theorem findAvailableVF_calls (pf : String) (vfIndex : Int) :
    (findAvailableVF pf vfIndex).AllOps NodeOp.IsCall := by
  simp only [findAvailableVF]
  split
  · simp [KernelCall.Reply, kernel]
    rintro (_ | _) <;> simp
  · simp [KernelCall.Reply, kernel, firstVirtfnNet_calls]
    exact fun _ => (Prog.returns_true _).mono fun found _ => by cases found <;> simp

theorem validateNetdev_calls (kind : String) (required : List (NetdevConfig → String × String))
    (cfg : DeviceConfig) : (validateNetdev kind required cfg).AllOps NodeOp.IsCall := by
  simp only [validateNetdev, requireNetdev, Prog.allOps_bind, Prog.allOps_ofOption, true_and]
  exact (Prog.returns_true _).mono fun netdev _ =>
    ⟨Prog.allOps_forIn _ _ _ _ fun field _ _ => by split <;> simp, by simp⟩

/-- Every netdev handler makes only system calls and handler-interface calls. -/
theorem Handler.netdev_calls {h : Handler} (netdev : h.IsNetdev) :
    (∀ cfg, (h.validate cfg).AllOps NodeOp.IsCall) ∧ (∀ req, (h.prepare req).AllOps NodeOp.IsCall) ∧
      ∀ req, (h.unprepare req).AllOps NodeOp.IsCall := by
  rcases netdev with rfl | rfl | rfl | rfl | rfl | rfl | rfl <;>
    simp only [Handler.validate, Handler.prepare, Handler.unprepare, dummyValidate, vethValidate,
      sriovVfValidate, macvlanValidate, ipvlanValidate, hostDeviceValidate, ipoibValidate, macvlanPrepare,
      ipvlanPrepare, vethPrepare, sriovVfPrepare, dummyPrepare, hostDevicePrepare, ipoibPrepare,
      dummyUnprepare, macvlanUnprepare, ipvlanUnprepare, vethUnprepare, sriovVfUnprepare,
      hostDeviceUnprepare, ipoibUnprepare, deleteCreatedLink, requireNetdev, linkSetUpOrDelete, kernel,
      KernelCall.Reply, validateNetdev_calls, findAvailableVF_calls, Prog.allOps_bind, Prog.allOps_ofOption,
      Prog.allOps_ite, Prog.allOps_throw, Prog.allOps_check, Prog.allOps_checkUndo, Prog.allOps_discard,
      Prog.allOps_pure_ctor, Prog.allOps_pure, Prog.allOps_tryCatch_throw, allOps_invoke, allOps_op_kernel,
      NodeOp.isCall_invoke, NodeOp.isCall_kernel, Prog.returns_const_true, returns_op_kernel,
      Prog.returns_pure_ctor, Prog.returns_checkUndo, Prog.returns_check, Prog.returns_ofOption,
      Prog.returns_throw, Prog.returns_pure, Prog.returns_tryCatch_throw, forall_except_iff, and_self,
      implies_true, ne_eq, gt_iff_lt, ite_not, not_lt]

theorem uverbsProbe_calls (req : PrepareRequest) : (uverbsProbe req).AllOps NodeOp.IsCall := by
  simp only [uverbsProbe, kernel, KernelCall.Reply, resolveIBDevice, uverbsEdits,
    findAvailableUverbs, Prog.allOps_ite, Prog.allOps_bind, Prog.allOps_tryCatch_throw,
    allOps_op_kernel, NodeOp.isCall_kernel, Prog.allOps_pure_ctor, implies_true, and_self,
    returns_op_kernel, Prog.returns_pure_ctor, forall_except_iff, Prog.allOps_throw, true_and,
    Prog.allOps_check, Prog.allOps_pure, Prog.returns_pure, Prog.returns_bind, Prog.returns_ite,
    Prog.returns_const_true, Prog.returns_check, Prog.returns_tryCatch_throw, and_true]
  intro _ entries
  split <;> trivial

theorem returnRDMAToHost_neverFails (ibDev podNetnsPath : String) :
    (returnRDMAToHost ibDev podNetnsPath).NeverFails :=
  Plugin.inPodNetns_neverFails _ (Plugin.returnDevice_neverFails ibDev)

theorem returnRDMAToHost_calls (ibDev podNetnsPath : String) :
    (returnRDMAToHost ibDev podNetnsPath).AllOps NodeOp.IsCall :=
  Plugin.inPodNetns_calls _ _ (Plugin.returnDevice_calls ibDev)

end DraMultiDevice

namespace DraMultiDevice

open RDMANetnsTracker

/-! ### The uverbs handler -/

@[simp] theorem run_detectNetnsMode_bind {α : Type} (f : NetnsMode → NodeProg α) (w : World) :
    (detectNetnsMode >>= f).run w = (f w.detectNetnsMode.1).run w.detectNetnsMode.2 := rfl

theorem run_uverbsPrepare (hasTracker : Bool) (req : PrepareRequest) (w : World) :
    (uverbsPrepare hasTracker req).run w =
      match (uverbsProbe req).run w with
      | (.error err, w₁) => (.error err, w₁)
      | (.ok found, w₁) =>
        (.ok (uverbsResult req found),
          if w₁.detectNetnsMode.1 = .exclusive ∧ found.ibDev ≠ "" ∧ hasTracker = true then
            { w₁.detectNetnsMode.2 with
              tracker := w₁.detectNetnsMode.2.tracker.addPending req.claimUID found.ibDev }
          else w₁.detectNetnsMode.2) := by
  simp only [uverbsPrepare, Prog.run_bind]
  rcases (uverbsProbe req).run w with ⟨_ | found, w₁⟩
  · rfl
  · simp only [Prog.runThen_ok, run_detectNetnsMode_bind]
    split <;> rfl

@[simp] theorem uverbsResult_ibdev (req : PrepareRequest) (found : UverbsDevice) :
    (uverbsResult req found).allocation.ibdev = found.ibDev := rfl

theorem run_uverbsUnprepare (hasTracker : Bool) (req : UnprepareRequest) (w : World) :
    let detected := w.detectNetnsMode
    ∃ w', (uverbsUnprepare hasTracker req).run w = (.ok (), w') ∧
      w'.detectedMode = some detected.1 ∧
      w'.tracker = if detected.1 = .exclusive ∧ req.allocation.metadata.get "ibdev" ≠ "" ∧
        hasTracker = true then detected.2.tracker.release req.allocation.claimUID
      else detected.2.tracker := by
  intro detected
  simp only [uverbsUnprepare, run_detectNetnsMode_bind]
  split
  next cond =>
    let c := req.allocation.claimUID
    let start := { detected.2 with tracker := detected.2.tracker.release c }
    let path := match ((detected.2.tracker.removePending c).removeActive c).1 with
      | some active => active.netnsPath
      | none => ""
    let returned := (returnRDMAToHost (req.allocation.metadata.get "ibdev") path).run start
    obtain ⟨⟨⟩, ok⟩ := (returnRDMAToHost_neverFails _ path).run start
    obtain ⟨tracker, mode⟩ := Prog.run_tracker_of_calls (returnRDMAToHost_calls _ path) start
    exact ⟨returned.2, Prod.ext ok rfl, mode.trans w.detectNetnsMode_cached, tracker⟩
  next cond => exact ⟨_, rfl, w.detectNetnsMode_cached, rfl⟩

/-! ### What a `Prepare` and an `Unprepare` do to the tracker -/

/-- The pending move a `Prepare` leaves a claim that had none: one for the IB device of
the allocation it returned, when it succeeded while the cached mode is exclusive. -/
def registeredMove (mode : Option NetnsMode) (claimUID : String) :
    Except String PrepareResult → Option PendingMove
  | .ok result =>
    if mode = some .exclusive ∧ result.allocation.ibdev ≠ "" then
      some ⟨result.allocation.ibdev, claimUID⟩ else none
  | .error _ => none

/-- What a `Prepare` of claim `c` run from `w`, where `c` has no moves, leaves: the
other claims' moves as they were, `c`'s pending move `registeredMove` and no active
move, and the mode detected once the allocation names an IB device. -/
structure PrepareEffect (c : String) (w : World) (r : Except String PrepareResult × World) : Prop where
  others : SameExcept c w.tracker r.2.tracker
  claim : r.2.tracker.moves c = (registeredMove r.2.detectedMode c r.1, none)
  detected : ∀ result, r.1 = .ok result → result.allocation.ibdev ≠ "" → r.2.detectedMode ≠ none

/-- What an `Unprepare` of `alloc` run from `w` leaves in `w'`: the other claims' moves
as they were, and the claim's moves dropped when the cached mode is exclusive and the
allocation names an IB device, and as they were otherwise; the mode detected once the
allocation names an IB device. -/
structure UnprepareEffect (alloc : AllocationInfo) (w w' : World) : Prop where
  others : SameExcept alloc.claimUID w.tracker w'.tracker
  claim : w'.tracker.moves alloc.claimUID =
    if w'.detectedMode = some .exclusive ∧ alloc.ibdev ≠ "" then (none, none)
    else w.tracker.moves alloc.claimUID
  detected : alloc.ibdev ≠ "" → w'.detectedMode ≠ none

theorem PrepareEffect.of_error {c err : String} {w w' : World} (tracker : w'.tracker = w.tracker)
    (fresh : w.tracker.moves c = (none, none)) : PrepareEffect c w (.error err, w') :=
  ⟨fun c' _ => by rw [tracker], by simpa [tracker, registeredMove] using fresh, by simp⟩

/-- The move a successful `Prepare` registered reads the same under a later mode that
kept the one cached when the allocation names an IB device. -/
theorem registeredMove_of_cached {mode mode' : Option NetnsMode} {c : String} {result : PrepareResult}
    (detected : result.allocation.ibdev ≠ "" → mode ≠ none) (cached : ∀ m, mode = some m → mode' = some m) :
    registeredMove mode' c (.ok result) = registeredMove mode c (.ok result) := by
  by_cases ib : result.allocation.ibdev = ""
  · simp [registeredMove, ib]
  · obtain ⟨m, rfl⟩ := Option.ne_none_iff_exists'.mp (detected ib)
    rw [cached m rfl]

/-- A `Prepare` that succeeded, released with the allocation it returned: the claim is
left with no move, whatever the mode. -/
theorem PrepareEffect.release_clears {c : String} {w w₁ w₂ w₃ : World} {result : PrepareResult}
    (prepared : PrepareEffect c w (.ok result, w₁)) (keyed : result.allocation.claimUID = c)
    (tracker : w₂.tracker = w₁.tracker) (mode : ∀ m, w₁.detectedMode = some m → w₂.detectedMode = some m)
    (cached : ∀ m, w₂.detectedMode = some m → w₃.detectedMode = some m)
    (released : UnprepareEffect result.allocation w₂ w₃) : w₃.tracker.moves c = (none, none) := by
  have claim := released.claim
  rw [keyed, tracker, prepared.claim] at claim
  rw [claim]
  by_cases ib : result.allocation.ibdev = ""
  · simp [registeredMove, ib]
  · obtain ⟨m, detected⟩ := Option.ne_none_iff_exists'.mp (prepared.detected result rfl ib)
    rw [cached m (mode m detected), detected]
    by_cases exclusive : m = .exclusive <;> simp [registeredMove, exclusive, ib]

theorem PrepareEffect.of_calls {c : String} {p : NodeProg PrepareResult}
    (calls : p.AllOps NodeOp.IsCall) (netdev : p.Returns fun r => r.allocation.type = deviceTypeNetdev)
    {w : World} (fresh : w.tracker.moves c = (none, none)) : PrepareEffect c w (p.run w) := by
  obtain ⟨tracker, -⟩ := Prog.run_tracker_of_calls calls w
  have noIb : ∀ result, (p.run w).1 = .ok result → result.allocation.ibdev = "" :=
    fun result ran => AllocationInfo.ibdev_of_netdev (netdev.run w ran)
  refine ⟨fun c' _ => by rw [tracker], ?_, fun result ran absent => absurd (noIb result ran) absent⟩
  rw [tracker, fresh]
  rcases ran : (p.run w).1 with err | result
  · rfl
  · simp [registeredMove, noIb result ran]

theorem UnprepareEffect.narrows {alloc : AllocationInfo} {w w' : World}
    (effect : UnprepareEffect alloc w w') : w.tracker.Narrows w'.tracker := by
  refine Narrows.of_sameExcept effect.others ?_
  rw [effect.claim]
  split
  exacts [.inl rfl, .inr rfl]

theorem UnprepareEffect.of_calls {alloc : AllocationInfo} {p : NodeProg Unit}
    (calls : p.AllOps NodeOp.IsCall) (noIb : alloc.ibdev = "") (w : World) :
    UnprepareEffect alloc w (p.run w).2 := by
  obtain ⟨tracker, -⟩ := Prog.run_tracker_of_calls calls w
  exact ⟨fun c' _ => by rw [tracker], by simp [tracker, noIb], fun absent => absurd noIb absent⟩

theorem Handler.type_of_netdev {h : Handler} (netdev : h.IsNetdev) : h.type = deviceTypeNetdev := by
  rcases netdev with rfl | rfl | rfl | rfl | rfl | rfl | rfl <;> rfl

theorem uverbs_prepare_effect (req : PrepareRequest) (w : World)
    (fresh : w.tracker.moves req.claimUID = (none, none)) :
    PrepareEffect req.claimUID w (((Handler.uverbs true).prepare req).run w) := by
  simp only [Handler.prepare, Prog.run_bind, run_invoke, Prog.runThen_ok]
  rw [run_uverbsPrepare]
  obtain ⟨tracker₁, -⟩ := Prog.run_tracker_of_calls (uverbsProbe_calls req)
    { w with trace := w.trace ++ [.invoke (.uverbs true) (.prepare req)] }
  rcases probe : (uverbsProbe req).run _ with ⟨err | found, w₁⟩
  all_goals rw [probe] at tracker₁; dsimp only at tracker₁ ⊢
  · exact ⟨fun c' _ => by rw [tracker₁], by simp [tracker₁, fresh, registeredMove], by simp⟩
  · have moved : w₁.detectNetnsMode.2.tracker = w.tracker := w₁.detectNetnsMode_frame.1.trans tracker₁
    have cached := w₁.detectNetnsMode_cached
    split_ifs with cond
    · refine ⟨moved ▸ sameExcept_addPending _ _ _, ?_, fun _ _ _ => by simp [cached]⟩
      simp [moved, fresh, cached, registeredMove, cond.1, cond.2.1]
    · refine ⟨fun c' _ => by rw [moved], ?_, fun _ _ _ => by simp [cached]⟩
      simp only [moved, fresh, cached, registeredMove, uverbsResult_ibdev]
      rw [if_neg (by simpa using cond)]

theorem uverbsUnprepare_effect {alloc : AllocationInfo} (typed : alloc.type = deviceTypeRDMA)
    (kinded : alloc.kind = "uverbs") (w : World) :
    UnprepareEffect alloc w ((uverbsUnprepare true ⟨alloc.claimUID, alloc⟩).run w).2 := by
  obtain ⟨w', ran, cached, tracker⟩ := run_uverbsUnprepare true ⟨alloc.claimUID, alloc⟩ w
  have ibdev : alloc.ibdev = alloc.metadata.get "ibdev" := by simp [AllocationInfo.ibdev, typed, kinded]
  rw [ran, w.detectNetnsMode_frame.1] at *
  refine ⟨?_, ?_, fun _ => by simp [cached]⟩
  · rw [tracker]
    split_ifs
    exacts [sameExcept_release _ _, SameExcept.refl _ _]
  · rw [tracker, cached, ibdev]
    by_cases cond : w.detectNetnsMode.1 = .exclusive ∧ alloc.metadata.get "ibdev" ≠ ""
    · simp [cond]
    · simp only [Option.some.injEq, if_neg cond, and_true]

/-- A release seen through another allocation of the same claim and IB device, from a
world with the same tracker. -/
theorem UnprepareEffect.congr {alloc alloc' : AllocationInfo} {w v w' : World}
    (effect : UnprepareEffect alloc' v w') (keyed : alloc'.claimUID = alloc.claimUID)
    (ibdev : alloc'.ibdev = alloc.ibdev) (tracker : v.tracker = w.tracker) :
    UnprepareEffect alloc w w' := by
  obtain ⟨others, claim, detected⟩ := effect
  rw [keyed, ibdev, tracker] at *
  exact ⟨others, claim, detected⟩

theorem UnprepareEffect.of_frame {alloc : AllocationInfo} {w w₁ w' : World}
    (effect : UnprepareEffect alloc w w₁) (tracker : w'.tracker = w₁.tracker)
    (mode : w'.detectedMode = w₁.detectedMode) : UnprepareEffect alloc w w' := by
  obtain ⟨others, claim, detected⟩ := effect
  rw [← tracker, ← mode] at *
  exact ⟨others, claim, detected⟩

theorem uverbs_unprepare_effect {alloc : AllocationInfo} (typed : alloc.type = deviceTypeRDMA)
    (kinded : alloc.kind = "uverbs") (w : World) :
    UnprepareEffect alloc w (((Handler.uverbs true).unprepare ⟨alloc.claimUID, alloc⟩).run w).2 :=
  (uverbsUnprepare_effect typed kinded _).congr rfl rfl rfl

/-! ### RoCE -/

theorem roceAllocation_ibdev (claimUID : String) (rdma net : PrepareResult) :
    (roceAllocation claimUID rdma net).ibdev = rdma.allocation.metadata.get "ibdev" := rfl

theorem PrepareEffect.congr {c : String} {v w : World} {r : Except String PrepareResult × World}
    (effect : PrepareEffect c v r) (tracker : v.tracker = w.tracker) : PrepareEffect c w r := by
  obtain ⟨others, claim, detected⟩ := effect
  rw [tracker] at others
  exact ⟨others, claim, detected⟩

theorem rocePrepare_effect {netdev : Handler} (isNetdev : netdev.IsNetdev) (req : PrepareRequest)
    (w : World) (fresh : w.tracker.moves req.claimUID = (none, none)) :
    PrepareEffect req.claimUID w ((rocePrepare (Handler.uverbs true).prepare netdev.prepare
      (Handler.uverbs true).unprepare req).run w) := by
  cases combo : req.config.combo with
  | none =>
    have failed : (rocePrepare (Handler.uverbs true).prepare netdev.prepare
        (Handler.uverbs true).unprepare req).run w = (.error "combo config is required for roce", w) := by
      simp [rocePrepare, combo]
    rw [failed]
    exact ⟨SameExcept.refl _ _, by simpa [registeredMove] using fresh, by simp⟩
  | some cfg =>
    rw [run_rocePrepare _ _ _ req cfg combo]
    have rdmaEffect := uverbs_prepare_effect (roceRdmaRequest req cfg) w fresh
    have answers : ∀ rdma, (((Handler.uverbs true).prepare (roceRdmaRequest req cfg)).run w).1 = .ok rdma →
        (Handler.uverbs true).Answers (roceRdmaRequest req cfg) rdma :=
      fun _ ran => (Handler.prepare_returns _ _).run w ran
    rcases rdmaRun : ((Handler.uverbs true).prepare (roceRdmaRequest req cfg)).run w with ⟨err | rdma, w₁⟩
    all_goals rw [rdmaRun] at rdmaEffect answers; dsimp only
    · exact ⟨rdmaEffect.others, by simpa [registeredMove] using rdmaEffect.claim, by simp⟩
    obtain ⟨others₁, claim₁, detected₁⟩ := rdmaEffect
    obtain ⟨keyed, typed, kinded⟩ := answers rdma rfl
    dsimp only [roceRdmaRequest] at others₁ claim₁ detected₁ keyed
    replace kinded : rdma.allocation.kind = "uverbs" := List.mem_singleton.mp kinded
    have ibdev : rdma.allocation.ibdev = rdma.allocation.metadata.get "ibdev" := by
      simp [AllocationInfo.ibdev, typed, kinded, Handler.type]
    obtain ⟨tracker₂, mode₂⟩ := Prog.run_tracker_of_calls
      ((Handler.netdev_calls isNetdev).2.1 (roceNetRequest req cfg)) w₁
    rcases netRun : (netdev.prepare (roceNetRequest req cfg)).run w₁ with ⟨err | net, w₂⟩
    all_goals rw [netRun] at tracker₂ mode₂; dsimp only at tracker₂ mode₂ ⊢
    · have released := uverbs_unprepare_effect typed kinded w₂
      rw [keyed] at released
      have others₃ := released.others
      rw [keyed, tracker₂] at others₃
      refine ⟨others₁.trans others₃, ?_, by simp⟩
      simpa [registeredMove] using PrepareEffect.release_clears ⟨others₁, claim₁, detected₁⟩ keyed
        tracker₂ (fun _ cached => mode₂.trans cached) (fun _ => Prog.run_detectedMode _ w₂) released
    · refine ⟨fun c' other => by rw [tracker₂]; exact others₁ c' other, ?_,
        fun _ returned present => ?_⟩
      · dsimp only
        rw [tracker₂, claim₁, mode₂]
        simp [registeredMove, roceResult, roceAllocation_ibdev, ← ibdev]
      · cases returned
        rw [mode₂]
        exact detected₁ rdma rfl (by rwa [roceResult, roceAllocation_ibdev, ← ibdev] at present)

theorem roce_prepare_effect {netdev : Handler} (isNetdev : netdev.IsNetdev) (req : PrepareRequest)
    (w : World) (fresh : w.tracker.moves req.claimUID = (none, none)) :
    PrepareEffect req.claimUID w (((Handler.roce (.uverbs true) netdev).prepare req).run w) :=
  (rocePrepare_effect isNetdev req
    { w with trace := w.trace ++ [.invoke (.roce (.uverbs true) netdev) (.prepare req)] } fresh).congr rfl

theorem roce_unprepare_effect {netdev : Handler} (isNetdev : netdev.IsNetdev) {alloc : AllocationInfo}
    (typed : alloc.type = deviceTypeCombo) (kinded : alloc.kind = "roce") (w : World) :
    UnprepareEffect alloc w
      (((Handler.roce (.uverbs true) netdev).unprepare ⟨alloc.claimUID, alloc⟩).run w).2 := by
  simp only [Handler.unprepare, Prog.run_bind, run_invoke, Prog.runThen_ok]
  rw [(run_roceUnprepare _ _ _ _).1]
  have ibdev : alloc.ibdev = alloc.metadata.get "rdma_ibdev" := by
    simp [AllocationInfo.ibdev, typed, kinded, deviceTypeCombo, deviceTypeRDMA]
  obtain ⟨tracker, -⟩ := Prog.run_tracker_of_calls ((Handler.netdev_calls isNetdev).2.2 _)
    { w with trace := w.trace ++ [.invoke (.roce (.uverbs true) netdev) (.unprepare ⟨alloc.claimUID, alloc⟩)] }
  exact (uverbs_unprepare_effect rfl rfl _).congr rfl ibdev.symm tracker

/-! ### Every handler the repository registers -/

/-- The handlers the tracker lemmas cover, among them every handler the repository
registers: the netdev handlers, the uverbs handler with the tracker, and RoCE over that
uverbs handler and a netdev handler. -/
inductive Handler.Tracked : Handler → Prop
  | netdev {h : Handler} : h.IsNetdev → Handler.Tracked h
  | uverbs : Handler.Tracked (.uverbs true)
  | roce {netdev : Handler} : netdev.IsNetdev → Handler.Tracked (.roce (.uverbs true) netdev)

theorem Handler.validate_calls {h : Handler} (tracked : h.Tracked) (cfg : DeviceConfig) :
    (h.validate cfg).AllOps NodeOp.IsCall := by
  cases tracked with
  | netdev isNetdev => exact (Handler.netdev_calls isNetdev).1 cfg
  | uverbs => simp [Handler.validate]
  | roce _ => simp [Handler.validate, roceValidate]

/-- **What a `Prepare` does to the tracker.** For every handler the repository
registers, from a claim with no moves, a `Prepare` leaves every other claim's moves
alone and leaves its own claim no active move and the pending move `registeredMove`
names. -/
theorem Handler.prepare_effect {h : Handler} (tracked : h.Tracked) (req : PrepareRequest) (w : World)
    (fresh : w.tracker.moves req.claimUID = (none, none)) :
    PrepareEffect req.claimUID w ((h.prepare req).run w) := by
  cases tracked with
  | netdev isNetdev =>
    exact PrepareEffect.of_calls ((Handler.netdev_calls isNetdev).2.1 req)
      ((Handler.prepare_returns h req).mono fun _ answers =>
        answers.2.1.trans (Handler.type_of_netdev isNetdev)) fresh
  | uverbs => exact uverbs_prepare_effect req w fresh
  | roce isNetdev => exact roce_prepare_effect isNetdev req w fresh

/-- **What an `Unprepare` does to the tracker.** For every handler the repository
registers and every allocation filed under its type and one of its kinds, an
`Unprepare` leaves every other claim's moves alone, and drops the claim's moves exactly
when the cached mode is exclusive and the allocation names an IB device. -/
theorem Handler.unprepare_effect {h : Handler} (tracked : h.Tracked) {alloc : AllocationInfo}
    (typed : alloc.type = h.type) (kinded : alloc.kind ∈ h.kinds) (w : World) :
    UnprepareEffect alloc w ((h.unprepare ⟨alloc.claimUID, alloc⟩).run w).2 := by
  cases tracked with
  | netdev isNetdev =>
    exact UnprepareEffect.of_calls ((Handler.netdev_calls isNetdev).2.2 _)
      (AllocationInfo.ibdev_of_netdev (typed.trans (Handler.type_of_netdev isNetdev))) w
  | uverbs => exact uverbs_unprepare_effect typed (List.mem_singleton.mp kinded) w
  | roce isNetdev => exact roce_unprepare_effect isNetdev typed (List.mem_singleton.mp kinded) w

/-! ### Releases that cannot fail -/

/-- The kernel deletes every link it is asked to delete. -/
def Oracle.LinkDelSucceeds (o : Oracle) : Prop := ∀ n name, o n (.linkDel name) = .ok ()

/-- The kernel deletes every link it reports present; a link it reports missing may
refuse deletion. -/
def Oracle.DeletesPresent (o : Oracle) : Prop :=
  ∀ n m name idx, o n (.linkByName name) = .ok idx → o m (.linkDel name) = .ok ()

theorem Oracle.LinkDelSucceeds.deletesPresent {o : Oracle} (dels : o.LinkDelSucceeds) : o.DeletesPresent :=
  fun _ m name _ _ => dels m name

theorem run_deleteCreatedLink_ok (key : String) (message : String → String → String)
    (req : UnprepareRequest) (w : World) (dels : w.oracle.DeletesPresent) :
    ((deleteCreatedLink key message req).run w).1 = .ok () := by
  unfold deleteCreatedLink
  dsimp only
  split
  · rfl
  · simp only [Prog.run_bind, Prog.run_pure', run_kernel, Prog.runThen_ok]
    rcases found : w.oracle w.clock (.linkByName (req.allocation.metadata.get key)) with err | idx
    · rfl
    · simp [kernel]
      rw [dels _ _ _ _ found]
      rfl

theorem Handler.netdev_unprepare_ok {h : Handler} (isNetdev : h.IsNetdev) (req : UnprepareRequest)
    (w : World) (dels : w.oracle.DeletesPresent) : ((h.unprepare req).run w).1 = .ok () := by
  rcases isNetdev with rfl | rfl | rfl | rfl | rfl | rfl | rfl
  all_goals simp only [Handler.unprepare, Prog.run_bind, run_invoke, Prog.runThen_ok]
  case inr.inr.inr.inl =>
    have never : (sriovVfUnprepare req).NeverFails := by
      simp [KernelCall.Reply, kernel, sriovVfUnprepare]
    obtain ⟨⟨⟩, ok⟩ := never.run _
    exact ok
  case inr.inr.inr.inr.inr.inl => rfl
  all_goals exact run_deleteCreatedLink_ok _ _ _ _ dels

/-- On a kernel that deletes every link it reports present, no release of a handler the
repository registers fails. -/
theorem Handler.unprepare_ok_of_deletesPresent {h : Handler} (tracked : h.Tracked) (req : UnprepareRequest)
    (w : World) (dels : w.oracle.DeletesPresent) : ((h.unprepare req).run w).1 = .ok () := by
  cases tracked with
  | netdev isNetdev => exact Handler.netdev_unprepare_ok isNetdev req w dels
  | uverbs =>
    simp only [Handler.unprepare, Prog.run_bind, run_invoke, Prog.runThen_ok]
    obtain ⟨_, ran, -⟩ := run_uverbsUnprepare true req _
    rw [ran]
  | roce isNetdev =>
    simp only [Handler.unprepare, Prog.run_bind, run_invoke, Prog.runThen_ok]
    refine (run_roceUnprepare _ _ _ _).2.mpr ⟨Handler.netdev_unprepare_ok isNetdev _ _ dels, ?_⟩
    simp only [Handler.unprepare, Prog.run_bind, run_invoke, Prog.runThen_ok]
    obtain ⟨_, ran, -⟩ := run_uverbsUnprepare true _ _
    rw [ran]

/-- On a kernel that deletes every link, no release of a handler the repository
registers fails. -/
theorem Handler.unprepare_ok {h : Handler} (tracked : h.Tracked) (req : UnprepareRequest) (w : World)
    (dels : w.oracle.LinkDelSucceeds) : ((h.unprepare req).run w).1 = .ok () :=
  Handler.unprepare_ok_of_deletesPresent tracked req w dels.deletesPresent

end DraMultiDevice
