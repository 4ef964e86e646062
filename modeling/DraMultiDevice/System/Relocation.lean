import DraMultiDevice.System.Agreement

/-!
# Relocation bookkeeping

A claim whose allocation names an IB device is moved into its pod's network namespace
when the pod's sandbox is created, and `RunPodSandbox` finds the device only through the
claim's pending move. The move lives in the driver's memory and is registered only by
the uverbs handler's `Prepare`, while the allocation can also come back from its
sidecar, through the rehydration at the start of every batch.

## Main results

* `relocation_pending_until_sandbox`: on a kernel in exclusive mode that deletes every
  link and removes every file, from a fresh process whose directory restores no record,
  after any sequence of events served one after another with no restart, every claim
  with an allocation naming an IB device, whose pod sandbox has not been created since
  the allocation was stored, has its pending move.
* `restart_loses_pending_move`: three runs leaving such a claim with no pending move: a
  restart, a RoCE release whose netdev side fails, and a release whose sidecar stays.

## Proof strategy

`Relocation` adds to `Agreement` that the cached mode is exclusive if any, that every
sidecar the glob restores sits under its own claim's name and holds the claim's record,
and the pending moves themselves. With the sidecars filed so, every rehydration restores
what the map holds, so a record comes only from a `Prepare`, which registered the move
in exclusive mode; on this kernel every release succeeds and removes the sidecar with
the record. Each claim's step is taken through the inversion lemmas `prepareOne_effect`
and `unprepareOne_cases`.
-/

namespace DraMultiDevice

open RDMANetnsTracker

/-- The claims whose pod sandbox an event creates. -/
def NodeEvent.sandboxClaims : NodeEvent → List String
  | .runPodSandbox pod => extractClaimUIDs pod.annotations
  | _ => []

/-- A kernel in exclusive RDMA netns mode that deletes every link and removes every
file. -/
structure Oracle.Relocating (o : Oracle) : Prop where
  exclusive : ∀ n, o n .rdmaSystemGetNetnsMode = .ok "exclusive"
  dels : o.LinkDelSucceeds
  removals : ∀ n path, o n (.remove path) = .ok ()

namespace Driver

variable (d : Driver)

/-- Serve an event, keeping beside the world the claims whose pod sandbox has been
created while they held their current allocation. The list is a ghost: no step of the
node reads it. -/
def handleSandboxed (s : World × List String) (e : NodeEvent) : World × List String :=
  (d.handle s.1 e, (s.2 ++ e.sandboxClaims).filter fun c => ((d.handle s.1 e).allocations.lookup c).isSome)

/-- The invariant of the relocation bookkeeping, for the claims `sandboxed` whose pod
sandbox has been created. -/
structure Relocation (sandboxed : List String) (w : World) : Prop where
  agree : Agreement d ∅ w
  relocating : w.oracle.Relocating
  mode : w.detectedMode = none ∨ w.detectedMode = some .exclusive
  filed : ∀ name alloc, d.allocPattern.matches name = true → Restores w.cdiFiles name alloc →
    name = d.allocFileName alloc.claimUID ∧ w.allocations.lookup alloc.claimUID = some alloc
  pending : ∀ c alloc, w.allocations.lookup c = some alloc → alloc.ibdev ≠ "" → c ∉ sandboxed →
    w.tracker.pending.lookup c = some ⟨alloc.ibdev, c⟩

/-- A fresh process on a relocating kernel, whose directory restores no record. -/
theorem Relocation.fresh {w : World} (tracker : w.tracker = RDMANetnsTracker.new)
    (allocations : w.allocations = ∅) (undetected : w.detectedMode = none) (relocating : w.oracle.Relocating)
    (noSidecars : ∀ name alloc, d.allocPattern.matches name = true → ¬Restores w.cdiFiles name alloc) :
    Relocation d [] w where
  agree := Agreement.fresh d tracker allocations
  relocating := relocating
  mode := .inl undetected
  filed name alloc matched restores := absurd restores (noSidecars name alloc matched)
  pending c alloc found := by simp [allocations] at found

variable {d} {s : List String}

theorem Relocation.rehydrated {w : World} (reloc : Relocation d s w) : Rehydrated d w :=
  fun name alloc matched restores => by
    rw [(reloc.filed name alloc matched restores).2]
    exact Option.some_ne_none _

/-- The invariant survives a step that keeps the kernel, the files and every record,
caches no other mode, keeps the agreement, and keeps the pending move of every claim
not newly sandboxed. -/
theorem Relocation.of_same {w w' : World} {s' : List String} (reloc : Relocation d s w)
    (agree : Agreement d ∅ w') (oracle : w'.oracle = w.oracle)
    (mode : w'.detectedMode = none ∨ w'.detectedMode = some .exclusive)
    (files : w'.cdiFiles = w.cdiFiles) (lookup : ∀ c, w'.allocations.lookup c = w.allocations.lookup c)
    (pending : ∀ c, c ∉ s' → c ∉ s ∧ w'.tracker.pending.lookup c = w.tracker.pending.lookup c) :
    Relocation d s' w' where
  agree := agree
  relocating := oracle ▸ reloc.relocating
  mode := mode
  filed name alloc matched restores := by
    rw [lookup]
    exact reloc.filed name alloc matched (files ▸ restores)
  pending c alloc found ib unsandboxed := by
    obtain ⟨unsandboxed, same⟩ := pending c unsandboxed
    rw [same]
    exact reloc.pending c alloc ((lookup c).symm.trans found) ib unsandboxed

theorem Relocation.mode_run {α : Type} {O : Type} [AtomicOp O] {w : World} (reloc : Relocation d s w)
    (p : Prog O α) : (p.run w).2.detectedMode = none ∨ (p.run w).2.detectedMode = some .exclusive :=
  Prog.run_detectedMode_exclusive p w reloc.relocating.exclusive reloc.mode

/-! ### The rehydration and the sandbox events -/

/-- With every restorable sidecar filed under its claim, a rehydration keeps every
record. -/
theorem Relocation.restoreAllocations {w : World} (reloc : Relocation d s w) :
    Relocation d s (d.restoreAllocations.run w).2 := by
  have agree := reloc.agree.restoreAllocations.1
  rw [run_restoreAllocations] at agree ⊢
  refine reloc.of_same agree rfl reloc.mode rfl (fun c => ?_) fun c unsandboxed => ⟨unsandboxed, rfl⟩
  rcases lookup_foldl_restoreRecord_cases (d.sidecarNames w.cdiFiles) w.allocations c with
    same | ⟨name, member, alloc, restores, rfl, found⟩
  · exact same
  · rw [Driver.restored, found, (reloc.filed name alloc ((mem_sidecarNames d).mp member).2 restores).2]

theorem Relocation.runPodSandbox {w : World} (reloc : Relocation d s w) (pod : PodSandbox) :
    Relocation d (s ++ extractClaimUIDs pod.annotations) ((Plugin.runPodSandbox pod).run w).2 :=
  reloc.of_same (reloc.agree.runPodSandbox pod) (Prog.run_oracle _ w) (reloc.mode_run _)
    (Prog.run_cdiFiles _ w) (fun _ => by rw [Prog.run_allocations]) fun c unsandboxed =>
      ⟨fun mem => unsandboxed (List.mem_append_left _ mem),
        congrArg Prod.fst (Plugin.runPodSandbox_moves_of_not_mem pod w
          fun mem => unsandboxed (List.mem_append_right _ mem))⟩

theorem Relocation.stopPodSandbox {w : World} (reloc : Relocation d s w) (pod : PodSandbox) :
    Relocation d s ((Plugin.stopPodSandbox pod).run w).2 :=
  reloc.of_same (reloc.agree.stopPodSandbox pod) (Prog.run_oracle _ w) (reloc.mode_run _)
    (Prog.run_cdiFiles _ w) (fun _ => by rw [Prog.run_allocations]) fun c unsandboxed =>
      ⟨unsandboxed, by rw [Plugin.stopPodSandbox_tracker, (removeActiveForPod_spec _ _).2.2]⟩

/-- Forgetting the sandboxes of claims with no record loses nothing. -/
theorem Relocation.filter {w : World} (reloc : Relocation d s w) :
    Relocation d (s.filter fun c => (w.allocations.lookup c).isSome) w :=
  { reloc with
    pending := fun c alloc found ib unsandboxed => reloc.pending c alloc found ib fun mem =>
      unsandboxed (List.mem_filter.mpr ⟨mem, by simp [found]⟩) }

/-! ### Each outcome of a claim's step keeps the invariant -/

/-- A claim with no record, whatever its prepare step does: a stored record comes with
the move its `Prepare` registered in exclusive mode, and its sidecar under its name. -/
theorem Relocation.prepared {w w' : World} (reloc : Relocation d s w) {c : String}
    (recorded : w.allocations.lookup c = none) (effect : d.PrepareOneEffect c w w')
    (agree : Agreement d ∅ w') (oracle : w'.oracle = w.oracle)
    (mode : w'.detectedMode = none ∨ w'.detectedMode = some .exclusive) : Relocation d s w' := by
  have kept : ∀ {c'}, c' ≠ c → w'.tracker.pending.lookup c' = w.tracker.pending.lookup c' :=
    fun ne => congrArg Prod.fst (effect.others _ ne)
  have other : ∀ {c' alloc}, w.allocations.lookup c' = some alloc → c' ≠ c := by
    rintro c' alloc found rfl
    simp [recorded] at found
  rcases effect with ⟨-, ⟨-, allocations, files⟩ | ⟨result, keyed, allocations, claim, detected, files⟩⟩
  · refine ⟨agree, oracle ▸ reloc.relocating, mode, fun name alloc matched restores => ?_,
      fun c' alloc found ib unsandboxed => ?_⟩
    · rw [allocations]
      exact reloc.filed name alloc matched (files _ _ restores)
    · rw [allocations] at found
      rw [kept (other found)]
      exact reloc.pending c' alloc found ib unsandboxed
  have lookup_eq : w'.allocations.lookup c = some result.allocation := by
    rw [allocations, AList.lookup_insert]
  refine ⟨agree, oracle ▸ reloc.relocating, mode, fun name alloc matched restores => ?_,
    fun c' alloc found ib unsandboxed => ?_⟩
  · rcases files name alloc restores with ⟨rfl, rfl⟩ | old
    · rw [keyed]
      exact ⟨rfl, lookup_eq⟩
    · obtain ⟨named, found⟩ := reloc.filed name alloc matched old
      rw [allocations, AList.lookup_insert_ne (other found)]
      exact ⟨named, found⟩
  · by_cases same : c' = c
    · subst same
      rw [lookup_eq, Option.some.injEq] at found
      subst found
      have exclusive : w'.detectedMode = some .exclusive := mode.resolve_left (detected ib)
      rw [show w'.tracker.pending.lookup c' = (w'.tracker.moves c').1 from rfl, claim, exclusive]
      simp [registeredMove, ib]
    · rw [allocations, AList.lookup_insert_ne same] at found
      rw [kept same]
      exact reloc.pending c' alloc found ib unsandboxed

/-- A claim with a record, whatever its unprepare step does on this kernel: the release
cannot fail, and a released record goes with its sidecar. -/
theorem Relocation.unprepared {w w' : World} (reloc : Relocation d s w) {claimUID : String}
    {alloc : AllocationInfo} (outcome : d.UnprepareOneOutcome claimUID alloc w w') (keyed : alloc.claimUID = claimUID)
    (agree : Agreement d ∅ w') (oracle : w'.oracle = w.oracle)
    (mode : w'.detectedMode = none ∨ w'.detectedMode = some .exclusive) : Relocation d s w' := by
  rcases outcome with rfl | ⟨-, -, -, h, tracked, err, failure⟩ | ⟨released, allocations, n, m, files⟩
  · exact reloc
  · rw [Handler.unprepare_ok tracked _ w reloc.relocating.dels] at failure
    cases failure
  simp only [reloc.relocating.removals, removeOutcome_ok] at files
  have kept : ∀ {c}, c ≠ claimUID → w'.allocations.lookup c = w.allocations.lookup c :=
    fun ne => by rw [allocations, AList.lookup_erase_ne ne]
  refine ⟨agree, oracle ▸ reloc.relocating, mode, fun name alloc' matched restores => ?_,
    fun c alloc' found ib unsandboxed => ?_⟩
  · rw [files] at restores
    obtain ⟨away, restores⟩ := restores_erase restores
    obtain ⟨named, found⟩ := reloc.filed name alloc' matched (restores_erase restores).2
    have other : alloc'.claimUID ≠ claimUID := fun same => away (named.trans (by rw [same]))
    exact ⟨named, (kept other).trans found⟩
  · have other : c ≠ claimUID := by
      rintro rfl
      simp [allocations] at found
    rw [kept other] at found
    exact (congrArg Prod.fst (released.others c (keyed ▸ other))).trans
      (reloc.pending c alloc' found ib unsandboxed)

/-! ### Each step of a run keeps the invariant -/

variable (registry : d.registry = buildHandlerRegistry)
include registry

section Steps

variable {w : World}

theorem Relocation.prepareOne (reloc : Relocation d s w) (rc : ResourceClaim) :
    Relocation d s ((d.prepareOne rc).run w).2 := by
  have agree := (reloc.agree.prepareOne registry reloc.rehydrated rc).1
  cases recorded : w.allocations.lookup rc.uid with
  | some alloc =>
    rw [run_prepareOne_replay d rc w recorded]
    exact reloc
  | none =>
    exact reloc.prepared recorded (prepareOne_effect registry rc w recorded (reloc.agree.unmoved recorded))
      agree (Prog.run_oracle _ w) (reloc.mode_run _)

theorem Relocation.unprepareOne (reloc : Relocation d s w) (claimUID : String) :
    Relocation d s ((d.unprepareOne claimUID).run w).2 := by
  have agree := reloc.agree.unprepareOne registry claimUID id
  cases recorded : w.allocations.lookup claimUID with
  | none =>
    rw [run_unprepareOne, recorded]
    exact reloc
  | some alloc =>
    exact reloc.unprepared (unprepareOne_cases registry claimUID w recorded)
      (reloc.agree.keyed claimUID alloc recorded) agree (Prog.run_oracle _ w) (reloc.mode_run _)

theorem Relocation.prepareClaimsLoop (claims : List ResourceClaim) (results : GoMap KubeletPrepareResult)
    (reloc : Relocation d s w) : Relocation d s ((d.prepareClaimsLoop claims results).run w).2 := by
  induction claims generalizing results w with
  | nil => exact reloc
  | cons rc rest ih =>
    simp only [Driver.prepareClaimsLoop, Prog.run_bind]
    exact Prog.runThen_world (reloc.prepareOne registry rc) fun _ _ reloc' => ih _ reloc'

theorem Relocation.unprepareClaimsLoop (claimUIDs : List String) (results : GoMap (Option String))
    (reloc : Relocation d s w) : Relocation d s ((d.unprepareClaimsLoop claimUIDs results).run w).2 := by
  induction claimUIDs generalizing results w with
  | nil => exact reloc
  | cons claimUID rest ih =>
    simp only [Driver.unprepareClaimsLoop, Prog.run_bind]
    exact Prog.runThen_world (reloc.unprepareOne registry claimUID) fun _ _ reloc' => ih _ reloc'

theorem Relocation.serve (reloc : Relocation d s w) (b : Batch) : Relocation d s (d.serve w b) := by
  cases b with
  | prepare claims =>
    simp only [Driver.serve, prepareResourceClaims, Prog.run_bind]
    exact Prog.runThen_world reloc.restoreAllocations fun _ _ reloc' =>
      reloc'.prepareClaimsLoop registry claims ∅
  | unprepare claimUIDs =>
    simp only [Driver.serve, unprepareResourceClaims, Prog.run_bind]
    exact Prog.runThen_world reloc.restoreAllocations fun _ _ reloc' =>
      reloc'.unprepareClaimsLoop registry claimUIDs ∅

theorem Relocation.handle (reloc : Relocation d s w) : ∀ e, Relocation d (s ++ e.sandboxClaims) (d.handle w e)
  | .batch b => (List.append_nil s).symm ▸ reloc.serve registry b
  | .runPodSandbox pod => reloc.runPodSandbox pod
  | .stopPodSandbox pod => (List.append_nil s).symm ▸ reloc.stopPodSandbox pod

end Steps

theorem Relocation.handleAll (events : List NodeEvent) {s : World × List String}
    (reloc : Relocation d s.2 s.1) :
    Relocation d (events.foldl d.handleSandboxed s).2 (events.foldl d.handleSandboxed s).1 := by
  induction events generalizing s with
  | nil => exact reloc
  | cons e rest ih => exact ih (reloc.handle registry e).filter

/-- **A claim keeps its pending move until its pod's sandbox is created.** On a kernel
in exclusive mode that deletes every link and removes every file, start a fresh process
whose directory restores no record, and serve any sequence of batches and sandbox
events one after another, with no restart. Then every claim with an allocation naming an
IB device, and no `RunPodSandbox` naming it since the allocation was stored, has the
pending move of that device. -/
theorem relocation_pending_until_sandbox (w : World) (tracker : w.tracker = RDMANetnsTracker.new)
    (fresh : w.allocations = ∅) (undetected : w.detectedMode = none) (relocating : w.oracle.Relocating)
    (noSidecars : ∀ name alloc, d.allocPattern.matches name = true → ¬Restores w.cdiFiles name alloc)
    (events : List NodeEvent) :
    (let run := events.foldl d.handleSandboxed (w, [])
     ∀ c alloc, run.1.allocations.lookup c = some alloc → alloc.ibdev ≠ "" → c ∉ run.2 →
       run.1.tracker.pending.lookup c = some ⟨alloc.ibdev, c⟩) :=
  (Relocation.handleAll registry events (Relocation.fresh d tracker fresh undetected relocating noSidecars)).pending

end Driver

/-! ### Runs that lose the move -/

/-- The claim prepared, its pod set up, and the claim released, one after another. -/
def relocationEvents : List NodeEvent :=
  [.batch (.prepare [relocatedClaim]), .runPodSandbox relocatedPod,
    .batch (.unprepare [relocatedClaim.uid]), .stopPodSandbox relocatedPod]

theorem relocation_events_keep_pending :
    exampleDriver.registry = buildHandlerRegistry ∧ roceNode.tracker = RDMANetnsTracker.new ∧
      roceNode.allocations = ∅ ∧ roceNode.detectedMode = none ∧ roceNode.oracle.Relocating ∧
      (∀ name alloc, exampleDriver.allocPattern.matches name = true → ¬Driver.Restores roceNode.cdiFiles name alloc) ∧
      (let run := relocationEvents.foldl exampleDriver.handleSandboxed (roceNode, [])
       ∀ c alloc, run.1.allocations.lookup c = some alloc → alloc.ibdev ≠ "" → c ∉ run.2 →
         run.1.tracker.pending.lookup c = some ⟨alloc.ibdev, c⟩) :=
  have relocating : roceNode.oracle.Relocating := ⟨fun _ => rfl, fun _ _ => rfl, fun _ _ => rfl⟩
  have noSidecars : ∀ name alloc, exampleDriver.allocPattern.matches name = true →
      ¬Driver.Restores roceNode.cdiFiles name alloc := fun _ _ _ restores => by
    simp [Driver.Restores, roceNode, World.start] at restores
  ⟨rfl, rfl, rfl, rfl, relocating, noSidecars,
    Driver.relocation_pending_until_sandbox rfl roceNode rfl rfl rfl relocating noSidecars relocationEvents⟩

/-- A node in exclusive mode whose uverbs device sits on `mlx5_0`, where deleting an
interface always fails. -/
def busyRdmaNode : World := World.start fun n call => match call with
  | .readFile _ => .ok "mlx5_0\n"
  | .linkDel _ => .error "device or resource busy"
  | call => Oracle.healthy n call

/-- A node in exclusive mode whose uverbs device sits on `mlx5_0`, where removing a file
always fails. -/
def readOnlyNode : World := World.start fun n call => match call with
  | .readFile _ => .ok "mlx5_0\n"
  | .remove _ => .error "read-only file system"
  | call => Oracle.healthy n call

set_option maxRecDepth 8000 in
/-- Three runs with no sandbox created, each leaving a claim with an allocation naming
`mlx5_0` and no pending move: a uverbs claim prepared, then prepared again by a
restarted driver, which rehydrates it from its sidecar and replays it; a RoCE claim
whose release fails on its netdev side after its RDMA side dropped the move; and a
uverbs claim released while its sidecar cannot be removed, rehydrated by the next
batch. -/
theorem restart_loses_pending_move :
    (let prepared := exampleDriver.serve roceNode (.prepare [relocatedClaim])
     let restarted := exampleDriver.serve prepared.restart (.prepare [relocatedClaim])
     let roce := exampleDriver.serve busyRdmaNode (.prepare [roceClaim])
     let failed := exampleDriver.serve roce (.unprepare [roceClaim.uid])
     let kept := exampleDriver.serve readOnlyNode (.prepare [relocatedClaim])
     let rehydrated := exampleDriver.serve (exampleDriver.serve kept (.unprepare [relocatedClaim.uid]))
       (.prepare [])
     prepared.tracker.pending.lookup relocatedClaim.uid ≠ none ∧
     (restarted.allocations.lookup relocatedClaim.uid).map AllocationInfo.ibdev = some "mlx5_0" ∧
       restarted.tracker.pending.lookup relocatedClaim.uid = none ∧
     (failed.allocations.lookup roceClaim.uid).map AllocationInfo.ibdev = some "mlx5_0" ∧
       failed.tracker.pending.lookup roceClaim.uid = none ∧
     (rehydrated.allocations.lookup relocatedClaim.uid).map AllocationInfo.ibdev = some "mlx5_0" ∧
       rehydrated.tracker.pending.lookup relocatedClaim.uid = none) := by
  decide

end DraMultiDevice
