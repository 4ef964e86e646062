import DraMultiDevice.System.Provenance

/-!
# What the threads of the node touch

Two facts about the text of the programs that share the tracker: a batch touches the
tracker only at its own claims, and a sandbox event gives back to the tracker only moves
it drained, each once.

## Main results

* `Driver.batchProgram_confined`: a batch touches only the moves of its own claims and
  files every record under its claim, given lookups that answer records filed under the
  claims asked for.
* `Plugin.runPodSandbox_follows`, `Plugin.stopPodSandbox_follows`: a sandbox event gives
  back only the moves it holds.
* `Prog.Follows.forget`: a sandbox event that cannot give a claim back need not hold it.
-/

namespace DraMultiDevice

/-! ### The claims a step touches -/

/-- The tracker steps that reach only the moves of claims of `C`: no drain and no
removal by pod. -/
def NodeOp.Touches (C : String → Prop) : NodeOp → Prop
  | .addPending c _ | .removePending c | .markActive c _ _ _ | .removeActive c => C c
  | .consumePendingForClaims _ | .removeActiveForPod _ => False
  | _ => True

/-- A step of the driver confined to the claims of `C`: its tracker steps touch only
them, and it files every record under the record's own claim. -/
def DriverOp.Confined (C : String → Prop) : DriverOp → Prop
  | .node o => o.Touches C
  | .storeAllocation c alloc => alloc.claimUID = c
  | _ => True

/-- A lookup answers only a record filed under the claim asked for. -/
def DriverOp.KeyedLookup : (o : DriverOp) → o.Resp → Prop
  | .lookupAllocation c, r => ∀ alloc, r = some alloc → alloc.claimUID = c
  | _, _ => True

theorem NodeOp.Touches.mono {C C' : String → Prop} (imp : ∀ c, C c → C' c) {o : NodeOp} (touches : o.Touches C) :
    o.Touches C' := by
  cases o <;> first | exact imp _ touches | exact touches

theorem NodeOp.touches_of_calls {α : Type} {C : String → Prop} {p : NodeProg α} (calls : p.AllOps NodeOp.IsCall) :
    p.AllOps (NodeOp.Touches C) :=
  calls.mono fun o call => by cases o <;> first | exact call.elim | trivial

namespace Prog

variable {O : Type} [AtomicOp O] {α β : Type} {allowed : (o : O) → AtomicOp.Resp o → Prop} {P : O → Prop}

theorem Guarded.bind {x : Prog O α} {f : α → Prog O β} (first : x.Guarded allowed P)
    (rest : ∀ a, (f a).Guarded allowed P) : (x >>= f).Guarded allowed P := by
  show (x.bind f).Guarded allowed P
  induction x with
  | pure a => exact rest a
  | fail e => trivial
  | op o next ih => exact ⟨first.1, fun r ok => ih r (first.2 r ok)⟩

end Prog

/-! ### The handlers touch only their request's claim -/

/-- `Prepare` and `Unprepare` touch only the moves of their request's claim, for a release
of a record filed under that claim. -/
def Handler.TouchesOwn (h : Handler) : Prop :=
  (∀ req, (h.prepare req).AllOps (NodeOp.Touches (· = req.claimUID))) ∧
    ∀ req : UnprepareRequest, req.allocation.claimUID = req.claimUID →
      (h.unprepare req).AllOps (NodeOp.Touches (· = req.claimUID))

theorem Handler.netdev_touchesOwn {h : Handler} (isNetdev : h.IsNetdev) : h.TouchesOwn :=
  ⟨fun req => NodeOp.touches_of_calls ((Handler.netdev_calls isNetdev).2.1 req),
    fun req _ => NodeOp.touches_of_calls ((Handler.netdev_calls isNetdev).2.2 req)⟩

theorem Handler.uverbs_touchesOwn : (Handler.uverbs true).TouchesOwn := by
  refine ⟨fun req => ?_, fun req filed => ?_⟩
  · simp [Handler.prepare, invoke, uverbsPrepare, detectNetnsMode, RDMANetnsTracker.addPendingOp,
      NodeOp.Touches, NodeOp.touches_of_calls (uverbsProbe_calls req)]
  · have returned : ∀ ibDev path, (returnRDMAToHost ibDev path).AllOps (NodeOp.Touches (· = req.claimUID)) :=
      fun ibDev path => NodeOp.touches_of_calls (returnRDMAToHost_calls ibDev path)
    simp [Handler.unprepare, invoke, uverbsUnprepare, detectNetnsMode, RDMANetnsTracker.removePendingOp,
      RDMANetnsTracker.removeActiveOp, NodeOp.Touches, returned, filed]

/-- Every handler the repository registers touches only its request's claim: the RoCE
handler's rollback releases the record its RDMA side returned, which that side files
under the request's claim. -/
theorem Handler.Tracked.touchesOwn {h : Handler} (tracked : h.Tracked) : h.TouchesOwn := by
  cases tracked with
  | netdev isNetdev => exact Handler.netdev_touchesOwn isNetdev
  | uverbs => exact Handler.uverbs_touchesOwn
  | roce isNetdev =>
    have uverbs := Handler.uverbs_touchesOwn
    have netdev := Handler.netdev_touchesOwn isNetdev
    refine ⟨fun req => ?_, fun req _ => ?_⟩
    · simp only [Handler.prepare, invoke, Prog.allOps_bind, Prog.allOps_op, Prog.allOps_pure_ctor,
        Prog.returns_op, Prog.returns_pure_ctor, NodeOp.Touches]
      exact ⟨⟨trivial, fun _ => trivial⟩, fun _ => rocePrepare_allOps _ _ _ req
        (fun cfg => uverbs.1 (roceRdmaRequest req cfg)) (fun cfg => Handler.prepare_returns (.uverbs true) (roceRdmaRequest req cfg))
        (fun cfg => netdev.1 (roceNetRequest req cfg)) fun _ (answers : Handler.Answers _ _ _) => uverbs.2 _ answers.1⟩
    · simp only [Handler.unprepare, invoke, Prog.allOps_bind, Prog.allOps_op, Prog.allOps_pure_ctor,
        Prog.returns_op, Prog.returns_pure_ctor, NodeOp.Touches]
      exact ⟨⟨trivial, fun _ => trivial⟩, fun _ => roceUnprepare_allOps _ _ req (uverbs.2 ⟨req.claimUID, roceRdmaAllocation req⟩ rfl)
        (netdev.2 ⟨req.claimUID, roceNetAllocation req⟩ rfl)⟩

/-! ### A batch touches only its claims -/

namespace Driver

variable {d : Driver} (registry : d.registry = buildHandlerRegistry)
include registry

theorem unprepareAllocation_touches (alloc : AllocationInfo) :
    (d.unprepareAllocation alloc).AllOps (NodeOp.Touches (· = alloc.claimUID)) :=
  unprepareAllocation_allOps registry alloc fun _ tracked => tracked.touchesOwn.2 ⟨alloc.claimUID, alloc⟩ rfl

/-- One claim of a prepare batch touches only that claim, and files its record under it. -/
theorem prepareOne_confined (rc : ResourceClaim) : (d.prepareOne rc).AllOps (DriverOp.Confined (· = rc.uid)) :=
  d.prepareOne_allOps rc trivial
    (prepareClaim_allOps registry rc (fun o call => by cases o <;> first | exact call.elim | trivial)
      fun _ tracked => tracked.touchesOwn.1 ⟨rc.uid, d.getAllocatedDevice rc, d.parseConfig rc⟩)
    (prepareClaim_returns d rc) (fun _ => d.createCDISpec_allOps _ _ trivial trivial trivial)
    (fun _ ⟨_, _, answers⟩ => (unprepareAllocation_touches registry _).mono fun _ touches =>
      touches.mono fun _ same => same.trans answers.1)
    fun _ ⟨_, _, answers⟩ => answers.1

/-- One claim of an unprepare batch touches only that claim, given a lookup that answers
a record filed under it. -/
theorem unprepareOne_confined (claimUID : String) :
    (d.unprepareOne claimUID).Guarded DriverOp.KeyedLookup (DriverOp.Confined (· = claimUID)) := by
  refine ⟨trivial, fun r keyed => ?_⟩
  rcases r with _ | alloc
  · trivial
  have filed : alloc.claimUID = claimUID := keyed alloc rfl
  refine Prog.AllOps.guarded ?_
  simp only [Prog.bind, Prog.allOps_bind, Prog.allOps_attempt, Prog.allOps_monadLift]
  refine ⟨(unprepareAllocation_touches registry alloc).mono fun _ touches => touches.mono fun _ same =>
    same.trans filed, (Prog.returns_true _).mono fun released _ => ?_⟩
  rcases released with _ | ⟨⟩
  · trivial
  · have deleted : (d.deleteCDISpec claimUID).AllOps (DriverOp.Confined (· = claimUID)) :=
      d.deleteCDISpec_allOps claimUID trivial trivial
    simp [deleted, deleteAllocation, DriverOp.Confined]

/-- **A batch touches only the moves of its own claims**, and files every record under its
claim, given lookups that answer records filed under the claims asked for. -/
theorem batchProgram_confined (b : Batch) :
    (d.batchProgram b).Guarded DriverOp.KeyedLookup (DriverOp.Confined (· ∈ b.claimUIDs)) := by
  have restores : d.restoreAllocations.AllOps (DriverOp.Confined (· ∈ b.claimUIDs)) :=
    d.restoreAllocations_allOps trivial (fun _ => trivial) fun _ => rfl
  cases b with
  | prepare claims =>
    refine Prog.AllOps.guarded ((Prog.allOps_discard _ _).mpr (d.prepareResourceClaims_allOps claims restores
      fun rc member => (prepareOne_confined registry rc).mono fun o confined => ?_))
    cases o
    case node o => exact confined.mono fun _ same => same ▸ List.mem_map_of_mem _ member
    all_goals exact confined
  | unprepare claimUIDs =>
    have loop : ∀ rest ⊆ claimUIDs, ∀ results,
        (d.unprepareClaimsLoop rest results).Guarded DriverOp.KeyedLookup (DriverOp.Confined (· ∈ claimUIDs)) := by
      intro rest
      induction rest with
      | nil => exact fun _ _ => trivial
      | cons c rest ih =>
        refine fun within results => Prog.Guarded.bind ((unprepareOne_confined registry c).mono fun o confined => ?_)
          fun _ => ih (List.subset_of_cons_subset within) _
        cases o
        case node o => exact confined.mono fun _ same => same ▸ within (.head _)
        all_goals exact confined
    exact Prog.Guarded.bind (Prog.Guarded.bind restores.guarded fun _ => loop claimUIDs (List.Subset.refl _) ∅)
      fun _ => trivial

end Driver

/-! ### The moves a sandbox event holds -/

namespace NodeOp

/-- The claims whose drained moves a sandbox event holds after a step: a drain adds the
claims of the moves it returns, and a move given back to the tracker, pending or active,
is no longer held. -/
def holding (H : Set String) : (o : NodeOp) → o.Resp → Set String
  | .consumePendingForClaims _, moves => H ∪ {c | c ∈ moves.map PendingMove.claimUID}
  | .addPending c _, _ | .markActive c _ _ _, _ => H \ {c}
  | _, _ => H

/-- The steps of a sandbox event that holds `H`: it gives back only moves it holds, takes
moves out of the tracker only by draining them or by pod, and detects no mode. -/
def GivesHeld (H : Set String) : NodeOp → Prop
  | .addPending c _ | .markActive c _ _ _ => c ∈ H
  | .removePending _ | .removeActive _ | .detectNetnsMode => False
  | _ => True

/-- A drain returns moves of distinct claims. -/
def DrainsDistinct : (o : NodeOp) → o.Resp → Prop
  | .consumePendingForClaims _, moves => (moves.map PendingMove.claimUID).Nodup
  | _, _ => True

/-- The step gives a move of `c` back to the tracker. -/
def Gives (c : String) : NodeOp → Prop
  | .addPending c' _ | .markActive c' _ _ _ => c' = c
  | _ => False

def Drains (c : String) : (o : NodeOp) → o.Resp → Prop
  | .consumePendingForClaims _, moves => c ∈ moves.map PendingMove.claimUID
  | _, _ => False

/-- Forgetting a claim the step does not drain commutes with the step. -/
theorem holding_diff (H : Set String) (c : String) {o : NodeOp} {r : o.Resp} (fresh : ¬o.Drains c r) :
    o.holding (H \ {c}) r = o.holding H r \ {c} := by
  cases o
  case consumePendingForClaims =>
    ext c'
    simp only [Drains, List.mem_map, not_exists, not_and] at fresh
    by_cases here : c' = c
    · subst here
      simp only [holding, Set.mem_diff, Set.mem_union, Set.mem_singleton_iff, Set.mem_setOf_eq, List.mem_map,
        not_true_eq_false, and_false, false_or, iff_false, not_exists, not_and]
      exact fresh
    · simp [holding, here]
  case addPending | markActive => exact Set.diff_diff_comm
  all_goals rfl

theorem holding_of_drains (H : Set String) (c : String) {o : NodeOp} {r : o.Resp} (drains : o.Drains c r) :
    o.holding (H \ {c}) r = o.holding H r := by
  cases o
  case consumePendingForClaims =>
    ext c'
    simp only [Drains, List.mem_map] at drains
    by_cases here : c' = c
    · subst here
      simp [holding, drains]
    · simp [holding, here]
  all_goals exact drains.elim

end NodeOp

namespace Prog

variable {α β : Type} {ok : β → Set String → Prop} {err : Set String → Prop}

/-- `p.Follows ok err H`: taken by a sandbox event that holds the claims `H`, every step of
`p` is one `NodeOp.GivesHeld` allows, whatever moves of distinct claims its drains return,
and `p` ends holding claims that `ok` admits with its value, or `err` if it fails. -/
def Follows (ok : α → Set String → Prop) (err : Set String → Prop) : NodeProg α → Set String → Prop
  | .pure a, H => ok a H
  | .fail _, H => err H
  | .op o next, H => o.GivesHeld H ∧ ∀ r, o.DrainsDistinct r → (next r).Follows ok err (o.holding H r)

@[simp] theorem follows_pure (a : β) (H : Set String) :
    (Pure.pure a : NodeProg β).Follows ok err H ↔ ok a H := Iff.rfl

@[simp] theorem follows_pure_ctor (a : β) (H : Set String) :
    (Prog.pure a : NodeProg β).Follows ok err H ↔ ok a H := Iff.rfl

@[simp] theorem follows_throw (e : String) (H : Set String) :
    (throw e : NodeProg β).Follows ok err H ↔ err H := Iff.rfl

@[simp] theorem follows_op (o : NodeOp) (next : o.Resp → NodeProg β) (H : Set String) :
    (Prog.op o next).Follows ok err H ↔
      o.GivesHeld H ∧ ∀ r, o.DrainsDistinct r → (next r).Follows ok err (o.holding H r) := Iff.rfl

theorem follows_bind (x : NodeProg α) (g : α → NodeProg β) (H : Set String) :
    (x >>= g).Follows ok err H ↔ x.Follows (fun a H' => (g a).Follows ok err H') err H := by
  show (x.bind g).Follows ok err H ↔ _
  induction x generalizing H with
  | pure a => rfl
  | fail e => rfl
  | op o next ih => exact and_congr_right' (forall_congr' fun r => imp_congr_right fun _ => ih r _)

theorem follows_of_calls {ok : α → Set String → Prop} {p : NodeProg α} (calls : p.AllOps NodeOp.IsCall)
    {H : Set String} (oks : ∀ a, ok a H) (errs : err H) : p.Follows ok err H := by
  induction p with
  | pure a => exact oks a
  | fail e => exact errs
  | op o next ih =>
    have same : ∀ r, o.holding H r = H := by cases o <;> first | exact calls.1.elim | exact fun _ => rfl
    refine ⟨by cases o <;> first | exact calls.1.elim | trivial, fun r _ => ?_⟩
    rw [same]
    exact ih r (calls.2 r)

/-- `p.MayGive c`: some run of `p` gives a move of `c` back to the tracker before any of its
drains returns one, its drains returning moves of distinct claims. -/
def MayGive (c : String) : NodeProg α → Prop
  | .pure _ | .fail _ => False
  | .op o next => o.Gives c ∨ ∃ r, o.DrainsDistinct r ∧ ¬o.Drains c r ∧ (next r).MayGive c

/-- A sandbox event that cannot give `c` back need not hold it. -/
theorem Follows.forget {p : NodeProg α} {H : Set String} (follows : p.Follows (fun _ _ => True) (fun _ => True) H)
    {c : String} (keeps : ¬p.MayGive c) : p.Follows (fun _ _ => True) (fun _ => True) (H \ {c}) := by
  induction p generalizing H with
  | pure a => trivial
  | fail e => trivial
  | op o next ih =>
    simp only [MayGive, not_or, not_exists, not_and] at keeps
    refine ⟨?_, fun r distinct => ?_⟩
    · have gives := follows.1
      cases o <;> first | exact gives.elim | trivial | exact ⟨gives, fun same => keeps.1 (Set.mem_singleton_iff.mp same)⟩
    · by_cases drains : o.Drains c r
      · rw [NodeOp.holding_of_drains H c drains]
        exact follows.2 r distinct
      · rw [NodeOp.holding_diff H c drains]
        exact ih r (follows.2 r distinct) (keeps.2 r distinct drains)

/-- A sandbox event that cannot give back any claim of `K` need not hold them. -/
theorem Follows.forgetAll {p : NodeProg α} {H : Set String} (follows : p.Follows (fun _ _ => True) (fun _ => True) H)
    (K : List String) (keeps : ∀ c ∈ K, ¬p.MayGive c) :
    p.Follows (fun _ _ => True) (fun _ => True) (H \ {c | c ∈ K}) := by
  induction K with
  | nil => simpa using follows
  | cons c K ih =>
    have forgotten := (ih fun c' member => keeps c' (.tail _ member)).forget (keeps c (.head _))
    convert forgotten using 1
    ext c'
    simp only [Set.mem_diff, Set.mem_setOf_eq, List.mem_cons, Set.mem_singleton_iff, not_or]
    exact ⟨fun ⟨held, other, outside⟩ => ⟨⟨held, outside⟩, other⟩, fun ⟨⟨held, outside⟩, other⟩ => ⟨held, other, outside⟩⟩

end Prog

namespace Plugin

variable {ok : Unit → Set String → Prop} {err : Set String → Prop}

theorem held_erase {m : PendingMove} {rest : List PendingMove} {H : Set String}
    (nodup : ((m :: rest).map PendingMove.claimUID).Nodup) (held : ∀ m' ∈ m :: rest, m'.claimUID ∈ H) :
    ∀ m' ∈ rest, m'.claimUID ∈ H \ {m.claimUID} := fun m' member =>
  ⟨held m' (.tail _ member), fun same => (List.nodup_cons.mp nodup).1 (by
    rw [← Set.mem_singleton_iff.mp same]
    exact List.mem_map_of_mem _ member)⟩

theorem reRegister_follows (oks : ∀ H, ok () H) :
    ∀ (moves : List PendingMove) (H : Set String), (moves.map PendingMove.claimUID).Nodup →
      (∀ m ∈ moves, m.claimUID ∈ H) → (reRegister moves).Follows ok err H
  | [], H, _, _ => oks H
  | m :: rest, H, nodup, held => by
    show ((RDMANetnsTracker.addPendingOp m.claimUID m.ibDev) >>= fun _ => reRegister rest).Follows ok err H
    rw [Prog.follows_bind]
    exact ⟨held m (.head _), fun _ _ => reRegister_follows oks rest _ (List.nodup_cons.mp nodup).2
      (held_erase nodup held)⟩

theorem moveDevices_follows (podUID netnsPath : String) (podNS : NsHandle) (oks : ∀ H, ok () H) :
    ∀ (moves : List PendingMove) (H : Set String), (moves.map PendingMove.claimUID).Nodup →
      (∀ m ∈ moves, m.claimUID ∈ H) → (moves.forM (moveDevice podUID netnsPath podNS)).Follows ok err H
  | [], H, _, _ => oks H
  | m :: rest, H, nodup, held => by
    have next := fun H' => moveDevices_follows podUID netnsPath podNS oks rest H' (List.nodup_cons.mp nodup).2
    show (moveDevice podUID netnsPath podNS m >>= fun _ => rest.forM _).Follows ok err H
    simp [moveDevice, kernel, RDMANetnsTracker.markActiveOp, Prog.follows_bind, NodeOp.GivesHeld,
      NodeOp.DrainsDistinct, NodeOp.holding, KernelCall.Reply]
    have rest_held : ∀ m' ∈ rest, m'.claimUID ∈ H := fun m' member => held m' (.tail _ member)
    rintro (_ | ⟨⟩)
    · exact next H rest_held
    · refine ⟨trivial, ?_⟩
      rintro (_ | ⟨⟩) -
      · exact next H rest_held
      · exact ⟨held m (.head _), fun _ _ => next _ (held_erase nodup held)⟩

/-- `RunPodSandbox`, holding nothing when it starts, gives back only the moves it drained,
each once. -/
theorem runPodSandbox_follows (pod : PodSandbox) :
    (runPodSandbox pod).Follows (fun _ _ => True) (fun _ => True) ∅ := by
  dsimp only [runPodSandbox]
  split
  · trivial
  rw [RDMANetnsTracker.consumePendingForClaimsOp, Prog.follows_bind]
  refine ⟨trivial, fun moves (nodup : (moves.map PendingMove.claimUID).Nodup) => ?_⟩
  have held : ∀ m ∈ moves, m.claimUID ∈ NodeOp.holding ∅ (.consumePendingForClaims _) moves :=
    fun m member => .inr (List.mem_map_of_mem _ member)
  rw [Prog.follows_pure_ctor]
  split_ifs
  · trivial
  · exact reRegister_follows (fun _ => trivial) moves _ nodup held
  rw [kernel, Prog.follows_bind]
  refine ⟨trivial, fun reply _ => ?_⟩
  rcases reply with _ | podNS
  · exact (Prog.follows_bind _ _ _).mpr (reRegister_follows (fun _ => trivial) moves _ nodup held)
  · exact moveDevices_follows _ _ podNS (fun _ => trivial) moves _ nodup held

theorem stopPodSandbox_follows (pod : PodSandbox) (H : Set String) :
    (stopPodSandbox pod).Follows (fun _ _ => True) (fun _ => True) H := by
  rw [stopPodSandbox, RDMANetnsTracker.removeActiveForPodOp, Prog.follows_bind]
  refine ⟨trivial, fun moves _ => ?_⟩
  rw [Prog.follows_pure_ctor]
  split_ifs
  · trivial
  · exact Prog.follows_of_calls (inPodNetns_calls _ _ fun ns => Prog.allOps_forM _ _ _ fun m _ =>
      returnDevice_calls m.ibDev ns) (fun _ => trivial) trivial

end Plugin

end DraMultiDevice
