import DraMultiDevice.System.Interfaces

/-!
# No orphaned interface under any interleaving

The kubelet plugin helper serializes the driver's batches, but the NRI plugin's sandbox
events run alongside them, one atomic step at a time, in whatever order the scheduler
picks (`Node.advance`). This module shows that the driver orphans no link in any such
interleaving.

The batch in progress is followed by the ghost of `System.Interfaces`: the allocation
map and the files as the batch sees them, and the links the driver created. The sandbox
events reach none of these, so the ghost mirrors the node however their steps fall
between the batch's, and each step of the batch gets a reply the ghost allows.

## Main result

`interleaved_runs_orphan_no_link`: on a kernel that deletes every link, along every
schedule of the node from an idle start on which the kernel finds every link the
driver created and it still holds, whenever no batch is in progress, every such link is
recorded by a claim's allocation, under a non-empty name that the `Unprepare` of the
handler the registry finds for it deletes.

## Proof strategy

`Driver.NodeOwned` is the invariant of the whole node: the ghost mirrors the world, the
sandbox threads touch no link, and the batch in progress leaves the links owned whatever
replies it gets. `NodeOwned.advance` keeps it through one choice of the scheduler, one
case per choice, with `Driver.Owned.batchProgram_leaves` when a batch starts and
`Ghost.exec` when it takes a step, and `NodeOwned.runSchedule` keeps it through every
schedule.
-/

namespace DraMultiDevice

/-! ### The ghost mirrors the node -/

namespace Ghost

/-- The ghost mirrors the node's world: the same map and the same files. -/
def Mirrors (w g : World) : Prop := w.allocations = g.allocations ∧ w.cdiFiles = g.cdiFiles

/-- A step of the batch taken on the world the ghost mirrors gets a reply the ghost
allows, leads to a ghost that mirrors the world it leaves, and observes the links as
the driver's step does. -/
theorem exec {w g : World} (mirrors : Mirrors w g) (dels : w.oracle.LinkDelSucceeds) {links : List LinkSpec}
    (found : Links.Found links w) (o : DriverOp) :
    Allowed (g, links) o (AtomicOp.exec o w).1 ∧
      Mirrors (AtomicOp.exec o w).2 (step (g, links) o (AtomicOp.exec o w).1).1 ∧
      (step (g, links) o (AtomicOp.exec o w).1).2 = Links.driverStep links o (AtomicOp.exec o w).1 := by
  obtain ⟨allocations, files⟩ := mirrors
  cases o
  case node o =>
    exact ⟨Links.allowed_of_found dels found o, ⟨(Prog.run_allocations (.op o .pure) w).trans allocations,
      (Prog.run_cdiFiles (.op o .pure) w).trans files⟩, rfl⟩
  all_goals simp [AtomicOp.exec, DriverOp.exec, Allowed, step, Mirrors, Links.driverStep, allocations, files]

/-- The sandbox events' steps keep the ghost a mirror. -/
theorem Mirrors.node {w g : World} (mirrors : Mirrors w g) (o : NodeOp) : Mirrors (AtomicOp.exec o w).2 g :=
  ⟨(Prog.run_allocations (.op o .pure) w).trans mirrors.1, (Prog.run_cdiFiles (.op o .pure) w).trans mirrors.2⟩

end Ghost

/-! ### The sandbox events touch no link -/

namespace Plugin

theorem reRegister_free (moves : List PendingMove) : (reRegister moves).AllOps Links.Free :=
  Prog.allOps_forM _ _ _ fun _ _ => by simp [RDMANetnsTracker.addPendingOp, Links.Free]

theorem runPodSandbox_free (pod : PodSandbox) : (runPodSandbox pod).AllOps Links.Free := by
  simp [runPodSandbox, RDMANetnsTracker.consumePendingForClaimsOp, kernel, KernelCall.Reply, Links.Free,
    reRegister_free]
  exact fun _ _ _ _ _ => Prog.allOps_forM _ _ _ fun _ _ => by
    simp [moveDevice, kernel, KernelCall.Reply, RDMANetnsTracker.markActiveOp, Links.Free]

theorem stopPodSandbox_free (pod : PodSandbox) : (stopPodSandbox pod).AllOps Links.Free := by
  simp only [stopPodSandbox, RDMANetnsTracker.removeActiveForPodOp, Prog.allOps_bind, Prog.allOps_op,
    Prog.allOps_pure_ctor, Prog.returns_op, Prog.returns_pure_ctor, Prog.allOps_ite, Prog.allOps_pure]
  refine ⟨⟨trivial, fun _ => trivial⟩, fun moves => ⟨fun _ => trivial, fun _ => inPodNetns_free _ _ fun _ =>
    Prog.allOps_forM _ _ _ fun _ _ => by simp [returnDevice, kernel, KernelCall.Reply, Links.Free]⟩⟩

end Plugin

/-! ### The node -/

/-- What one step of a thread adds to an observation: `f` of the reply the step gets. -/
def Prog.observeStep {O : Type} [AtomicOp O] {α S : Type} (f : S → (o : O) → AtomicOp.Resp o → S) :
    Prog O α → World → S → S
  | .op o _, w, s => f s o (AtomicOp.exec o w).1
  | _, _, s => s

namespace Node

/-- The links after one choice of the scheduler: a step of the batch is observed as the
driver's, a step of a sandbox event as the node's. -/
def linksAfter (n : Node) (links : List LinkSpec) : Choice → List LinkSpec
  | .stepBatch =>
    match n.batch with
    | some p => p.observeStep Links.driverStep n.world links
    | none => links
  | .stepSandbox i =>
    match n.sandbox[i]? with
    | some p => p.observeStep Links.step n.world links
    | none => links
  | .start _ => links

/-- The links the driver created and the kernel still holds, along a schedule. -/
def linksAlong (d : Driver) : Node → List LinkSpec → List Choice → List LinkSpec
  | _, links, [] => links
  | n, links, c :: rest => linksAlong d (n.advance d c) (n.linksAfter links c) rest

end Node

namespace Driver

variable (d : Driver)

/-- What the batch in progress keeps over the ghost: whatever replies its remaining
steps get, the links are owned when it ends; with no batch in progress, they are owned. -/
def BatchOwned (g : World) (links : List LinkSpec) : Option (DriverProg Unit) → Prop
  | none => d.Owned g links
  | some p => p.LeavesGhost (fun _ s => d.Owned s.1 s.2) (fun _ s => d.Owned s.1 s.2) (g, links)

/-- The invariant of the node: a kernel that deletes every link, sandbox threads that
touch no link, and a ghost mirroring the world over which the batch in progress keeps
the links owned. -/
structure NodeOwned (n : Node) (links : List LinkSpec) : Prop where
  dels : n.world.oracle.LinkDelSucceeds
  sandbox : ∀ p ∈ n.sandbox, p.AllOps Links.Free
  ghost : ∃ g, Ghost.Mirrors n.world g ∧ d.BatchOwned g links n.batch

variable {d} (registry : d.registry = buildHandlerRegistry)
include registry

/-- Every choice of the scheduler keeps the node's invariant: a batch starts on owned
links, a step of the batch gets a reply the ghost allows from a kernel that finds the
links, and a step of a sandbox event touches neither the ghost nor a link. -/
theorem NodeOwned.advance {n : Node} {links : List LinkSpec} (inv : d.NodeOwned n links)
    (found : Links.Found links n.world) : ∀ c, d.NodeOwned (n.advance d c) (n.linksAfter links c)
  | .start (.batch b) => by
    obtain ⟨dels, sandbox, g, mirrors, owned⟩ := inv
    simp only [Node.advance, Node.linksAfter]
    split_ifs with idle
    · rw [Option.isNone_iff_eq_none.mp idle] at owned
      exact ⟨dels, sandbox, g, mirrors, owned.batchProgram_leaves d registry b⟩
    · exact ⟨dels, sandbox, g, mirrors, owned⟩
  | .start (.runPodSandbox pod) => ⟨inv.dels, fun p member => (List.mem_append.mp member).elim (inv.sandbox p)
      fun new => List.mem_singleton.mp new ▸ Plugin.runPodSandbox_free pod, inv.ghost⟩
  | .start (.stopPodSandbox pod) => ⟨inv.dels, fun p member => (List.mem_append.mp member).elim (inv.sandbox p)
      fun new => List.mem_singleton.mp new ▸ Plugin.stopPodSandbox_free pod, inv.ghost⟩
  | .stepBatch => by
    obtain ⟨dels, sandbox, g, mirrors, owned⟩ := inv
    rcases batch : n.batch with _ | p
    · simp only [Node.advance, Node.linksAfter, batch]
      exact ⟨dels, sandbox, g, mirrors, batch ▸ owned⟩
    rw [batch] at owned
    cases p with
    | pure a =>
      simp only [Node.advance, Node.linksAfter, batch, Prog.step, Prog.observeStep]
      exact ⟨dels, sandbox, g, mirrors, owned⟩
    | fail e =>
      simp only [Node.advance, Node.linksAfter, batch, Prog.step, Prog.observeStep]
      exact ⟨dels, sandbox, g, mirrors, owned⟩
    | op o next =>
      obtain ⟨allowed, mirrors', stepped⟩ := Ghost.exec mirrors dels found o
      simp only [Node.advance, Node.linksAfter, batch, Prog.step, Prog.observeStep]
      refine ⟨by rw [AtomicOp.exec_oracle]; exact dels, sandbox, _, mirrors', ?_⟩
      rw [← stepped]
      exact owned _ allowed
  | .stepSandbox i => by
    obtain ⟨dels, sandbox, g, mirrors, owned⟩ := inv
    rcases thread : n.sandbox[i]? with _ | p
    · simp only [Node.advance, Node.linksAfter, thread]
      exact ⟨dels, sandbox, g, mirrors, owned⟩
    have free := sandbox p (List.getElem?_mem thread)
    cases p with
    | pure a =>
      simp only [Node.advance, Node.linksAfter, thread, Prog.step, Prog.observeStep]
      exact ⟨dels, fun q member => sandbox q (List.mem_of_mem_eraseIdx member), g, mirrors, owned⟩
    | fail e =>
      simp only [Node.advance, Node.linksAfter, thread, Prog.step, Prog.observeStep]
      exact ⟨dels, fun q member => sandbox q (List.mem_of_mem_eraseIdx member), g, mirrors, owned⟩
    | op o next =>
      simp only [Node.advance, Node.linksAfter, thread, Prog.step, Prog.observeStep,
        Links.step_of_free links free.1]
      refine ⟨by rw [AtomicOp.exec_oracle]; exact dels, fun q member => ?_, g, mirrors.node o, owned⟩
      rcases List.mem_or_eq_of_mem_set member with old | rfl
      · exact sandbox q old
      · exact free.2 _

/-- Every schedule on which the kernel finds the links keeps the node's invariant. -/
theorem NodeOwned.runSchedule {n : Node} {links : List LinkSpec} (inv : d.NodeOwned n links)
    (schedule : List Choice)
    (finds : ∀ k, Links.Found (n.linksAlong d links (schedule.take k)) (n.runSchedule d (schedule.take k)).world) :
    d.NodeOwned (n.runSchedule d schedule) (n.linksAlong d links schedule) := by
  induction schedule generalizing n links with
  | nil => exact inv
  | cons c rest ih => exact ih (inv.advance registry (finds 0) c) fun k => finds (k + 1)

/-- **No orphaned interface under any interleaving.** On a kernel that deletes every
link, take any schedule of the node from an idle start: batches one at a time, sandbox
events started at any time, and the steps of all of them interleaved in any order, on
which the kernel, at every point, finds every link the driver created and it still
holds. Whenever no batch is in progress, every such link is recorded by an allocation
in the driver's map, under a non-empty name the `Unprepare` of the handler the registry
finds for it deletes. -/
theorem interleaved_runs_orphan_no_link (w : World) (dels : w.oracle.LinkDelSucceeds) (schedule : List Choice)
    (finds : ∀ k, Links.Found ((Node.idle w).linksAlong d [] (schedule.take k))
      ((Node.idle w).runSchedule d (schedule.take k)).world) :
    let n := (Node.idle w).runSchedule d schedule
    n.batch = none → ∀ link ∈ (Node.idle w).linksAlong d [] schedule, ∃ c, d.Records n.world c link := by
  intro n idle link member
  have start : d.NodeOwned (Node.idle w) [] :=
    ⟨dels, (fun _ absent => nomatch absent), w, ⟨rfl, rfl⟩, fun _ absent => nomatch absent⟩
  obtain ⟨-, -, g, mirrors, owned⟩ := start.runSchedule registry schedule finds
  rw [show (Node.runSchedule d (Node.idle w) schedule).batch = none from idle] at owned
  obtain ⟨c, records, -⟩ := owned link member
  exact ⟨c, records.congr (by rw [mirrors.1])⟩

end Driver

/-- A pod with no annotation and no namespace. -/
def idlePod : PodSandbox := ⟨"pod-1", [], none⟩

/-- The prepare batch of a dummy claim, with the stop of a sandbox started and stepped
between the batch's steps, and the batch run to its end. -/
def dummyInterleaving : List Choice :=
  [.start (.batch (.prepare [dummyClaim])), .start (.stopPodSandbox idlePod), .stepBatch, .stepSandbox 0,
    .stepBatch, .stepSandbox 0] ++ List.replicate 30 .stepBatch

set_option maxRecDepth 8000 in
theorem dummy_interleaving_orphans_no_link :
    exampleDriver.registry = buildHandlerRegistry ∧ (World.start Oracle.healthy).oracle.LinkDelSucceeds ∧
      (∀ k, Links.Found ((Node.idle (World.start Oracle.healthy)).linksAlong exampleDriver [] (dummyInterleaving.take k))
        ((Node.idle (World.start Oracle.healthy)).runSchedule exampleDriver (dummyInterleaving.take k)).world) ∧
      (let n := (Node.idle (World.start Oracle.healthy)).runSchedule exampleDriver dummyInterleaving
       n.batch = none ∧
         ∀ link ∈ (Node.idle (World.start Oracle.healthy)).linksAlong exampleDriver [] dummyInterleaving,
           ∃ c, exampleDriver.Records n.world c link) :=
  ⟨rfl, fun _ _ => rfl, fun _ _ _ _ _ => ⟨0, by rw [Node.runSchedule_oracle]; rfl⟩, rfl,
    @Driver.interleaved_runs_orphan_no_link exampleDriver rfl _ (fun _ _ => rfl) dummyInterleaving
      (fun _ _ _ _ _ => ⟨0, by rw [Node.runSchedule_oracle]; rfl⟩) rfl⟩

set_option maxRecDepth 8000 in
example : (Node.idle (World.start Oracle.healthy)).linksAlong exampleDriver [] dummyInterleaving =
    [.dummy "dm0badc0de" 0] := by decide

end DraMultiDevice
