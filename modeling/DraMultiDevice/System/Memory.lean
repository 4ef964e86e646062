import DraMultiDevice.Handler.Links

/-!
# A driver program read over its memory

A step of the driver reads the kernel only through the oracle at the world's clock, and
the rest of what it reads is the driver's memory: the tracker, the allocation map, the
files and the cached RDMA netns mode. So what holds of every run of a program, from
every world with the same memory, holds of every sequence of replies the memory allows
its steps: the memory's own answers where it has them, and anything the kernel may
answer.

## Main result

`Prog.leaves_of_runs`: a property of the memory that every run of a program ends in, from
every world with the memory `g`, is one the program leaves of `g` under `Memory.step`,
whatever replies `Memory.Allowed` gives its steps.

## Proof strategy

`World.Resumes w w'` says that `w'` has `w`'s memory and that, from its clock on, the
kernel answers it as it answers `w`. A step and then a whole run keep it
(`DriverOp.exec_resumes`, `Prog.run_resumes`). Each reply the memory allows is the reply a
step gets from a world with that memory and a kernel that answers it now, and then as
any other world's kernel (`Memory.realize`), so the runs from `g` cover every allowed
reply, one step at a time.
-/

namespace DraMultiDevice

namespace World

/-- The same memory: the tracker, the allocation map, the files and the cached mode. -/
structure SameMemory (w w' : World) : Prop where
  tracker : w'.tracker = w.tracker
  allocations : w'.allocations = w.allocations
  cdiFiles : w'.cdiFiles = w.cdiFiles
  detectedMode : w'.detectedMode = w.detectedMode

theorem SameMemory.refl (w : World) : w.SameMemory w := ⟨rfl, rfl, rfl, rfl⟩

/-- `w'` resumes `w`: the same memory, and a kernel that answers `w'` from its clock on
as it answers `w` from its own. -/
structure Resumes (w w' : World) extends SameMemory w w' : Prop where
  oracle : ∀ n, w'.oracle (w'.clock + n) = w.oracle (w.clock + n)

theorem Resumes.now {w w' : World} (resumes : w.Resumes w') : w'.oracle w'.clock = w.oracle w.clock :=
  resumes.oracle 0

theorem Resumes.tick {w w' : World} (resumes : w.Resumes w') (call call' : KernelCall) :
    (w.tick call).Resumes (w'.tick call') :=
  ⟨⟨resumes.tracker, resumes.allocations, resumes.cdiFiles, resumes.detectedMode⟩, fun n => by
    show w'.oracle (w'.clock + 1 + n) = w.oracle (w.clock + 1 + n)
    rw [Nat.add_assoc, Nat.add_assoc]
    exact resumes.oracle (1 + n)⟩

end World

/-- A step gets the same reply from worlds one of which resumes the other, and leaves
worlds one of which resumes the other. -/
theorem DriverOp.exec_resumes {w w' : World} (resumes : w.Resumes w') (o : DriverOp) :
    (AtomicOp.exec o w').1 = (AtomicOp.exec o w).1 ∧
      (AtomicOp.exec o w).2.Resumes (AtomicOp.exec o w').2 := by
  have ⟨⟨tracker, allocations, files, mode⟩, _⟩ := resumes
  have now := resumes.now
  have ticked := resumes.tick
  cases o with
  | node o =>
    cases o with
    | kernel call => exact ⟨congrFun now call, ticked call call⟩
    | detectNetnsMode =>
      show w'.detectNetnsMode.1 = w.detectNetnsMode.1 ∧ w.detectNetnsMode.2.Resumes w'.detectNetnsMode.2
      unfold World.detectNetnsMode
      rw [mode]
      split
      · exact ⟨rfl, resumes⟩
      · rw [now]
        exact ⟨rfl, ⟨tracker, allocations, files, rfl⟩, (ticked .rdmaSystemGetNetnsMode .rdmaSystemGetNetnsMode).oracle⟩
    | _ =>
      refine ⟨?_, ⟨?_, allocations, files, mode⟩, resumes.oracle⟩ <;>
        simp only [AtomicOp.exec, DriverOp.exec, NodeOp.exec, tracker]
  | writeFile name content =>
    show w'.oracle w'.clock _ = w.oracle w.clock _ ∧ _
    rw [now]
    exact ⟨rfl, ⟨tracker, allocations, by simp only [AtomicOp.exec, DriverOp.exec, now, files], mode⟩,
      (ticked (.writeFile (cdiPath name)) (.writeFile (cdiPath name))).oracle⟩
  | removeFile name =>
    show w'.oracle w'.clock _ = w.oracle w.clock _ ∧ _
    rw [now]
    exact ⟨rfl, ⟨tracker, allocations, by simp only [AtomicOp.exec, DriverOp.exec, now, files], mode⟩,
      (ticked (.remove (cdiPath name)) (.remove (cdiPath name))).oracle⟩
  | _ =>
    refine ⟨?_, ⟨tracker, ?_, ?_, mode⟩, resumes.oracle⟩ <;>
      simp only [AtomicOp.exec, DriverOp.exec, allocations, files]

/-- Runs from worlds one of which resumes the other end alike. -/
theorem Prog.run_resumes {α : Type} (p : DriverProg α) {w w' : World} (resumes : w.Resumes w') :
    (p.run w').1 = (p.run w).1 ∧ (p.run w).2.Resumes (p.run w').2 := by
  induction p generalizing w w' with
  | pure a => exact ⟨rfl, resumes⟩
  | fail e => exact ⟨rfl, resumes⟩
  | op o next ih =>
    obtain ⟨reply, resumes'⟩ := DriverOp.exec_resumes resumes o
    simp only [Prog.run_op, reply]
    exact ih _ resumes'

/-! ### The replies the memory allows -/

namespace Memory

/-- What a step of the driver does to the memory, given its reply. -/
def step (g : World) : (o : DriverOp) → o.Resp → World
  | .node (.addPending c i), _ => { g with tracker := g.tracker.addPending c i }
  | .node (.removePending c), _ => { g with tracker := g.tracker.removePending c }
  | .node (.consumePendingForClaims cs), _ => { g with tracker := (g.tracker.consumePendingForClaims cs).2 }
  | .node (.markActive c p i n), _ => { g with tracker := g.tracker.markActive c p i n }
  | .node (.removeActive c), _ => { g with tracker := (g.tracker.removeActive c).2 }
  | .node (.removeActiveForPod p), _ => { g with tracker := (g.tracker.removeActiveForPod p).2 }
  | .node .detectNetnsMode, mode => { g with detectedMode := some mode }
  | .storeAllocation c alloc, _ => { g with allocations := g.allocations.insert c alloc }
  | .deleteAllocation c, _ => { g with allocations := g.allocations.erase c }
  | .writeFile name content, outcome => { g with cdiFiles := outcome.apply g.cdiFiles name content }
  | .removeFile name, outcome => { g with cdiFiles := removeOutcome outcome g.cdiFiles name }
  | _, _ => g

/-- The replies the memory allows a step: its own answers to the steps it answers, the
cached mode once one is cached, and anything the kernel may answer. -/
def Allowed (g : World) : (o : DriverOp) → o.Resp → Prop
  | .node (.consumePendingForClaims cs), r => r = (g.tracker.consumePendingForClaims cs).1
  | .node (.removeActive c), r => r = (g.tracker.removeActive c).1
  | .node (.removeActiveForPod p), r => r = (g.tracker.removeActiveForPod p).1
  | .node .detectNetnsMode, r => ∀ mode, g.detectedMode = some mode → r = mode
  | .lookupAllocation c, r => r = g.allocations.lookup c
  | .glob pattern, r => r = (g.cdiFiles.keys.filter pattern.matches).insertionSort (· ≤ ·)
  | .readFile name, r => r = g.cdiFiles.lookup name
  | _, _ => True

end Memory

/-- A kernel that answers `reply` to `call` first, and then as `rest` from its clock `t`
on. -/
def Oracle.answering (call : KernelCall) (reply : call.Reply) (rest : Oracle) (t : Nat) : Oracle
  | 0, c => if same : c = call then same ▸ reply else rest t c
  | n + 1, c => rest (t + n) c

/-- A world with the memory of `g` whose kernel answers `reply` to `call` first, and
then as `w`'s from its clock on. -/
def World.answering (g w : World) (call : KernelCall) (reply : call.Reply) : World :=
  { g with oracle := Oracle.answering call reply w.oracle w.clock, clock := 0, trace := [] }

theorem World.answering_resumes (g w : World) (call : KernelCall) (reply : call.Reply) :
    ∀ n, w.oracle (w.clock + n) = ((g.answering w call reply).tick call).oracle
      (((g.answering w call reply).tick call).clock + n) := fun n => by
  show _ = Oracle.answering call reply w.oracle w.clock (0 + 1 + n)
  rw [show 0 + 1 + n = n + 1 by omega]
  rfl

@[simp] theorem World.answering_now (g w : World) (call : KernelCall) (reply : call.Reply) :
    (g.answering w call reply).oracle (g.answering w call reply).clock call = reply := by
  simp [World.answering, Oracle.answering]

/-- The world `w` with the memory of `g`. -/
def World.withMemory (w g : World) : World :=
  ⟨g.tracker, g.allocations, g.cdiFiles, g.detectedMode, w.oracle, w.clock, w.trace⟩

/-- Every reply the memory allows a step is the reply the step gets from a world with that
memory, which it leaves resumed by any world with the memory it leaves. -/
theorem Memory.realize {g : World} {o : DriverOp} {r : o.Resp} (allowed : Memory.Allowed g o r) (w : World)
    (same : (Memory.step g o r).SameMemory w) :
    ∃ w₀, g.SameMemory w₀ ∧ (AtomicOp.exec o w₀).1 = r ∧ (AtomicOp.exec o w₀).2.Resumes w := by
  have ⟨tracker, allocations, files, mode⟩ := same
  have kept : ∀ x : World, x.oracle = w.oracle → x.clock = w.clock → x.SameMemory w → x.Resumes w :=
    fun x oracle clock same => ⟨same, fun n => by rw [oracle, clock]⟩
  cases o with
  | node o =>
    cases o with
    | kernel call => exact ⟨g.answering w call r, ⟨rfl, rfl, rfl, rfl⟩, by simp [AtomicOp.exec, DriverOp.exec,
        NodeOp.exec], ⟨⟨tracker, allocations, files, mode⟩, g.answering_resumes w call r⟩⟩
    | detectNetnsMode =>
      cases cached : g.detectedMode with
      | some m =>
        obtain rfl := allowed m cached
        have exec : AtomicOp.exec (DriverOp.node .detectNetnsMode) (w.withMemory g) = (r, w.withMemory g) :=
          World.detectNetnsMode_of_cached cached
        refine ⟨w.withMemory g, ⟨rfl, rfl, rfl, rfl⟩, by rw [exec], ?_⟩
        rw [exec]
        exact kept _ rfl rfl ⟨tracker, allocations, files, mode.trans cached.symm⟩
      | none =>
        let answer : KernelCall.Reply .rdmaSystemGetNetnsMode := if r = .exclusive then .ok "exclusive" else .error ""
        have read : netnsModeOf answer = r := by cases r <;> rfl
        let w₀ := g.answering w .rdmaSystemGetNetnsMode answer
        have exec : AtomicOp.exec (DriverOp.node .detectNetnsMode) w₀ =
            (r, { w₀.tick .rdmaSystemGetNetnsMode with detectedMode := some r }) := by
          show w₀.detectNetnsMode = _
          unfold World.detectNetnsMode
          rw [show w₀.detectedMode = none from cached, World.answering_now, read]
        refine ⟨w₀, ⟨rfl, rfl, rfl, rfl⟩, by rw [exec], ?_⟩
        rw [exec]
        exact ⟨⟨tracker, allocations, files, mode⟩, g.answering_resumes w .rdmaSystemGetNetnsMode answer⟩
    | _ =>
      cases allowed
      exact ⟨w.withMemory g, ⟨rfl, rfl, rfl, rfl⟩, rfl, kept _ rfl rfl ⟨tracker, allocations, files, mode⟩⟩
  | writeFile name content =>
    have now := g.answering_now w (.writeFile (cdiPath name)) r
    refine ⟨g.answering w (.writeFile (cdiPath name)) r, ⟨rfl, rfl, rfl, rfl⟩, now, ⟨tracker, allocations, ?_, mode⟩,
      g.answering_resumes w (.writeFile (cdiPath name)) r⟩
    show w.cdiFiles = WriteOutcome.apply _ g.cdiFiles name content
    rw [now]
    exact files
  | removeFile name =>
    have now := g.answering_now w (.remove (cdiPath name)) r
    refine ⟨g.answering w (.remove (cdiPath name)) r, ⟨rfl, rfl, rfl, rfl⟩, now, ⟨tracker, allocations, ?_, mode⟩,
      g.answering_resumes w (.remove (cdiPath name)) r⟩
    show w.cdiFiles = removeOutcome _ g.cdiFiles name
    rw [now]
    exact files
  | _ =>
    cases allowed
    exact ⟨w.withMemory g, ⟨rfl, rfl, rfl, rfl⟩, rfl, kept _ rfl rfl ⟨tracker, allocations, files, mode⟩⟩

/-- **A property of every run from a memory is one the program leaves of that memory.**
If every run of `p` from a world with the memory of `g` ends in `Q`, a property of the
outcome and of the memory alone, then `p` leaves `Q` of `g` whatever replies the memory
allows its steps. -/
theorem Prog.leaves_of_runs {α : Type} {Q : Except String α → World → Prop}
    (memory : ∀ r {w w' : World}, w.SameMemory w' → Q r w → Q r w') (p : DriverProg α) (g : World)
    (runs : ∀ w, g.SameMemory w → Q (p.run w).1 (p.run w).2) :
    p.Leaves Memory.step Memory.Allowed (fun a => Q (.ok a)) (fun e => Q (.error e)) g := by
  induction p generalizing g with
  | pure a => exact runs g (.refl g)
  | fail e => exact runs g (.refl g)
  | op o next ih =>
    refine fun r allowed => ih r _ fun w same => ?_
    obtain ⟨w₀, start, replied, resumes⟩ := Memory.realize allowed w same
    have ran := runs w₀ start
    simp only [Prog.run_op, replied] at ran
    obtain ⟨reply, final⟩ := Prog.run_resumes (next r) resumes
    rw [reply]
    exact memory _ final.toSameMemory ran

end DraMultiDevice
