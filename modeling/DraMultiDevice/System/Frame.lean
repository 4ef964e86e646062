import DraMultiDevice.System.Interleaving

/-!
# The files a run touches

`/etc/cdi` is shared: other drivers keep their CDI specs there, and a rolling update
runs two instances of this driver over it. This module shows that, in every
interleaving of the node, the only files that change are the CDI specs and the
sidecars of the claims the batches started so far name: every other file keeps its
content at every point of the run. Neither a handler nor a sandbox event can reach a
file, and a batch writes and removes only the two files of each of its claims.

## Main result

`Driver.claim_files_frame`: along every schedule from an idle node, a file that is not
the CDI spec or the sidecar of a claim some started batch names keeps its content.

## Proof strategy

`Driver.TouchesOnly` says which files one step may change. Every batch program takes
only steps that touch its own claims' files (`Driver.batchProgram_touches`, from the
steps each driver function can take, `Driver.prepareOne_allOps` and the like), and the
rest of a program after a step still does. The node's invariant `Driver.FilesKept` then holds after every choice of the
scheduler.
-/

namespace DraMultiDevice

/-! ### The steps and the files -/

theorem WriteOutcome.lookup_apply_of_ne (outcome : WriteOutcome) (files : GoMap FileContent) {name file : String}
    (content : FileContent) (other : name ≠ file) : (outcome.apply files file content).lookup name = files.lookup name := by
  cases outcome <;> simp [AList.lookup_insert_ne other]

theorem lookup_removeOutcome_of_ne (outcome : Except String Unit) (files : GoMap FileContent) {name file : String}
    (other : name ≠ file) : (removeOutcome outcome files file).lookup name = files.lookup name := by
  rcases outcome with _ | ⟨⟨⟩⟩ <;> simp [AList.lookup_erase_ne other]

/-- A step of the node, a handler's or a sandbox event's, reaches no file. -/
theorem NodeOp.exec_cdiFiles (o : NodeOp) (w : World) : (AtomicOp.exec o w).2.cdiFiles = w.cdiFiles :=
  Prog.run_cdiFiles (.op o .pure) w

namespace Driver

variable (d : Driver)

/-- `name` is the CDI spec or the sidecar of one of `claimUIDs`. -/
def ClaimFile (claimUIDs : List String) (name : String) : Prop :=
  ∃ c ∈ claimUIDs, name = d.cdiFileName c ∨ name = d.allocFileName c

instance (claimUIDs : List String) : DecidablePred (d.ClaimFile claimUIDs) :=
  fun _ => inferInstanceAs (Decidable (∃ c ∈ claimUIDs, _))

/-- The steps that write or remove only files of `claimUIDs`. -/
def TouchesOnly (claimUIDs : List String) : DriverOp → Prop
  | .writeFile name _ | .removeFile name => d.ClaimFile claimUIDs name
  | _ => True

variable {d} {U : List String}

theorem TouchesOnly.mono {claimUIDs : List String} (sub : claimUIDs ⊆ U) {o : DriverOp}
    (touches : d.TouchesOnly claimUIDs o) : d.TouchesOnly U o := by
  cases o
  case writeFile | removeFile =>
    obtain ⟨c, member, named⟩ := touches
    exact ⟨c, sub member, named⟩
  all_goals trivial

/-- A step that touches only files of `U` leaves every other file as it was. -/
theorem lookup_exec_of_touchesOnly {o : DriverOp} (touches : d.TouchesOnly U o) {name : String}
    (foreign : ¬d.ClaimFile U name) (w : World) :
    (AtomicOp.exec o w).2.cdiFiles.lookup name = w.cdiFiles.lookup name := by
  cases o
  case node o => rw [← NodeOp.exec_cdiFiles o w]; rfl
  case writeFile file content =>
    have other : name ≠ file := fun same => foreign (same ▸ touches)
    exact WriteOutcome.lookup_apply_of_ne _ _ content other
  case removeFile file =>
    have other : name ≠ file := fun same => foreign (same ▸ touches)
    exact lookup_removeOutcome_of_ne _ _ other
  all_goals rfl

variable (d U)

theorem allOps_node_touchesOnly {α : Type} (p : NodeProg α) : p.AllOps fun o => d.TouchesOnly U (.node o) :=
  ((Prog.allOps_const_true p).mpr trivial).mono fun _ _ => trivial

/-! ### The files of a batch -/

/-- **A batch writes and removes only its own claims' files.** Rehydration only reads. -/
theorem batchProgram_touches (b : Batch) : (d.batchProgram b).AllOps (d.TouchesOnly b.claimUIDs) := by
  have restores : d.restoreAllocations.AllOps (d.TouchesOnly b.claimUIDs) :=
    d.restoreAllocations_allOps trivial (fun _ => trivial) fun _ => trivial
  have own : ∀ c ∈ b.claimUIDs, d.ClaimFile b.claimUIDs (d.cdiFileName c) ∧ d.ClaimFile b.claimUIDs (d.allocFileName c) :=
    fun c member => ⟨⟨c, member, .inl rfl⟩, ⟨c, member, .inr rfl⟩⟩
  cases b with
  | prepare claims =>
    refine (Prog.allOps_discard _ _).mpr (d.prepareResourceClaims_allOps claims restores fun rc member => ?_)
    have named := own rc.uid (List.mem_map_of_mem _ member)
    exact d.prepareOne_allOps rc trivial (allOps_node_touchesOnly ..) (Prog.returns_true _)
      (fun _ => d.createCDISpec_allOps _ _ trivial named.1 named.2) (fun _ _ => allOps_node_touchesOnly ..)
      fun _ _ => trivial
  | unprepare claimUIDs =>
    refine (Prog.allOps_discard _ _).mpr (d.unprepareResourceClaims_allOps claimUIDs restores fun c member => ?_)
    have named := own c member
    exact d.unprepareOne_allOps c trivial (fun _ => allOps_node_touchesOnly ..)
      (d.deleteCDISpec_allOps _ named.1 named.2) trivial

end Driver

/-! ### The node -/

namespace Driver

variable (d : Driver)

/-- The node keeps every file that is not a file of `U` as `files` holds it, and the
batch in progress touches only files of `U`. -/
structure FilesKept (files : GoMap FileContent) (U : List String) (n : Node) : Prop where
  batch : ∀ p, n.batch = some p → p.AllOps (d.TouchesOnly U)
  kept : ∀ name, ¬d.ClaimFile U name → n.world.cdiFiles.lookup name = files.lookup name

variable {d} {files : GoMap FileContent} {U : List String}

/-- Every choice of the scheduler that starts no batch outside `U` keeps the files
outside `U`: a batch's step touches only files of `U`, and a sandbox event's step no
file at all. -/
theorem FilesKept.advance {n : Node} (keeps : d.FilesKept files U n) :
    ∀ c, (∀ b ∈ n.started c, b.claimUIDs ⊆ U) → d.FilesKept files U (n.advance d c)
  | .start (.batch b), named => by
    simp only [Node.advance]
    split_ifs with idle
    · refine ⟨fun p started => ?_, keeps.kept⟩
      cases Option.some_injective _ started
      exact (d.batchProgram_touches b).mono fun _ => TouchesOnly.mono (named b (by simp [Node.started, idle]))
    · exact keeps
  | .start (.runPodSandbox _), _ | .start (.stopPodSandbox _), _ => ⟨keeps.batch, keeps.kept⟩
  | .stepBatch, _ => by
    rcases running : n.batch with _ | p
    · simp only [Node.advance, running]
      exact ⟨fun p absent => (nomatch running.symm.trans absent), keeps.kept⟩
    have touches := keeps.batch p running
    cases p with
    | pure a =>
      simp only [Node.advance, running, Prog.step]
      exact ⟨fun _ absent => (nomatch absent), keeps.kept⟩
    | fail e =>
      simp only [Node.advance, running, Prog.step]
      exact ⟨fun _ absent => (nomatch absent), keeps.kept⟩
    | op o next =>
      simp only [Node.advance, running, Prog.step]
      refine ⟨fun p stepped => Option.some_injective _ stepped ▸ touches.2 _, fun name foreign => ?_⟩
      rw [lookup_exec_of_touchesOnly touches.1 foreign]
      exact keeps.kept name foreign
  | .stepSandbox i, _ => by
    rcases thread : n.sandbox[i]? with _ | p
    · simp only [Node.advance, thread]
      exact keeps
    cases p with
    | pure a =>
      simp only [Node.advance, thread, Prog.step]
      exact ⟨keeps.batch, keeps.kept⟩
    | fail e =>
      simp only [Node.advance, thread, Prog.step]
      exact ⟨keeps.batch, keeps.kept⟩
    | op o next =>
      simp only [Node.advance, thread, Prog.step]
      exact ⟨keeps.batch, fun name foreign => (NodeOp.exec_cdiFiles o n.world).symm ▸ keeps.kept name foreign⟩

theorem FilesKept.runSchedule {n : Node} (keeps : d.FilesKept files U n) (schedule : List Choice)
    (named : ∀ b ∈ n.startedAlong d schedule, b.claimUIDs ⊆ U) : d.FilesKept files U (n.runSchedule d schedule) := by
  induction schedule generalizing n with
  | nil => exact keeps
  | cons c rest ih =>
    exact ih (keeps.advance c fun b now => named b (List.mem_append_left _ now)) fun b later =>
      named b (List.mem_append_right _ later)

/-- **Only the claims' own files change.** Along every schedule from an idle node, any
interleaving of batches and sandbox events, a file of `/etc/cdi` that is neither the
CDI spec nor the sidecar of a claim some started batch names keeps its content:
another driver's files, foreign files and the files of claims the kubelet never asked
about are never written or removed. -/
theorem claim_files_frame (w : World) (schedule : List Choice) {name : String}
    (foreign : ¬d.ClaimFile (((Node.idle w).startedAlong d schedule).flatMap Batch.claimUIDs) name) :
    ((Node.idle w).runSchedule d schedule).world.cdiFiles.lookup name = w.cdiFiles.lookup name := by
  have start : d.FilesKept w.cdiFiles (((Node.idle w).startedAlong d schedule).flatMap Batch.claimUIDs)
      (Node.idle w) :=
    ⟨fun _ absent => (nomatch absent), fun _ _ => rfl⟩
  exact (start.runSchedule schedule fun b member _ named =>
    List.mem_flatMap.mpr ⟨b, member, named⟩).kept name foreign

end Driver

/-- Another driver's CDI spec, already under `/etc/cdi`. -/
def otherDriverSpec : String := "other.example.com-0badc0de.json"

theorem other_driver_spec_untouched :
    ¬exampleDriver.ClaimFile (((Node.idle { World.start Oracle.healthy with
        cdiFiles := (∅ : GoMap FileContent).insert otherDriverSpec (.foreign none) }).startedAlong exampleDriver
        dummyInterleaving).flatMap Driver.Batch.claimUIDs) otherDriverSpec ∧
      ((Node.idle { World.start Oracle.healthy with
          cdiFiles := (∅ : GoMap FileContent).insert otherDriverSpec (.foreign none) }).runSchedule exampleDriver
        dummyInterleaving).world.cdiFiles.lookup otherDriverSpec = some (.foreign none) :=
  ⟨by decide, Driver.claim_files_frame _ dummyInterleaving (by decide)⟩

end DraMultiDevice
