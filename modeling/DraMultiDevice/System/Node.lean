import DraMultiDevice.Driver.Durable
import DraMultiDevice.Handler.Tracking

/-!
# The node: events, serialized runs and interleavings

The driver's batches and the NRI plugin's sandbox events act on one node, and they
share the tracker. `NodeEvent` is one event and `Driver.handle` serves it to
completion; a run of events one after another is a fold of it.

In the node the handlers run concurrently. Each event in progress is a thread, the
program of its remaining steps, and the scheduler may take the next atomic step of any
thread at any time: a system call, a tracker method (one step under the tracker's
mutex), a step of the allocation map or of the files. The kubelet plugin helper
serializes the driver's batches (`PrepareResourceClaims` says so), so at most one batch
is in progress, while sandbox events run alongside it and each other. A schedule is a
list of scheduler choices, and `Node.runSchedule` runs one.

## Main result

`runSchedule_serial`: serving events one after another is the interleaving that runs
each event alone to completion before the next starts.
-/

namespace DraMultiDevice

/-- An event of the node: a batch of the kubelet plugin's DRA service, or an NRI
sandbox event. -/
inductive NodeEvent where
  | batch (b : Driver.Batch)
  | runPodSandbox (pod : PodSandbox)
  | stopPodSandbox (pod : PodSandbox)

namespace Driver

variable (d : Driver)

/-- The world after the node serves an event to completion. -/
def handle (w : World) : NodeEvent → World
  | .batch b => d.serve w b
  | .runPodSandbox pod => ((Plugin.runPodSandbox pod).run w).2
  | .stopPodSandbox pod => ((Plugin.stopPodSandbox pod).run w).2

/-- A batch as a thread of the driver; its reply goes back to the kubelet. -/
def batchProgram : Batch → DriverProg Unit
  | .prepare claims => discard (d.prepareResourceClaims claims)
  | .unprepare claimUIDs => discard (d.unprepareResourceClaims claimUIDs)

theorem run_batchProgram (b : Batch) (w : World) : ((d.batchProgram b).run w).2 = d.serve w b := by
  cases b <;> exact Prog.run_discard_world _ w

end Driver

/-- The node with its events in progress: the batch being served, if any, and the
sandbox events being handled, each as the program of its remaining steps. -/
structure Node where
  batch : Option (DriverProg Unit)
  sandbox : List (NodeProg Unit)
  world : World

/-- A node with no event in progress. -/
def Node.idle (w : World) : Node := ⟨none, [], w⟩

/-- A choice of the scheduler: start an event, or take the next step of the batch or
of a sandbox event; a thread with no step left leaves the node. A batch starts only
when no batch is in progress. -/
inductive Choice where
  | start (e : NodeEvent)
  | stepBatch
  | stepSandbox (i : Nat)

namespace Node

variable (d : Driver)

/-- The node after one choice of the scheduler. -/
def advance (n : Node) : Choice → Node
  | .start (.batch b) => if n.batch.isNone then { n with batch := some (d.batchProgram b) } else n
  | .start (.runPodSandbox pod) => { n with sandbox := n.sandbox ++ [Plugin.runPodSandbox pod] }
  | .start (.stopPodSandbox pod) => { n with sandbox := n.sandbox ++ [Plugin.stopPodSandbox pod] }
  | .stepBatch =>
    match n.batch with
    | none => n
    | some p =>
      match p.step n.world with
      | none => { n with batch := none }
      | some (p', w') => { n with batch := some p', world := w' }
  | .stepSandbox i =>
    match n.sandbox[i]? with
    | none => n
    | some p =>
      match p.step n.world with
      | none => { n with sandbox := n.sandbox.eraseIdx i }
      | some (p', w') => { n with sandbox := n.sandbox.set i p', world := w' }

def runSchedule (n : Node) (schedule : List Choice) : Node := schedule.foldl (advance d) n

/-- The batch a choice starts: a batch's start counts only on a node with no batch in
progress. -/
def started (n : Node) : Choice → List Driver.Batch
  | .start (.batch b) => if n.batch.isNone then [b] else []
  | _ => []

/-- The batches a schedule starts. -/
def startedAlong (n : Node) : List Choice → List Driver.Batch
  | [] => []
  | c :: rest => n.started c ++ (n.advance d c).startedAlong rest

theorem runSchedule_append (n : Node) (first second : List Choice) :
    n.runSchedule d (first ++ second) = (n.runSchedule d first).runSchedule d second :=
  List.foldl_append _ _ _ _

theorem advance_oracle (n : Node) : ∀ c, (n.advance d c).world.oracle = n.world.oracle
  | .start (.batch _) => by
    dsimp only [advance]
    split <;> rfl
  | .start (.runPodSandbox _) | .start (.stopPodSandbox _) => rfl
  | .stepBatch | .stepSandbox _ => by
    dsimp only [advance]
    split
    · rfl
    · split
      · rfl
      · exact Prog.step_oracle ‹_›

theorem runSchedule_oracle (n : Node) (schedule : List Choice) :
    (n.runSchedule d schedule).world.oracle = n.world.oracle := by
  induction schedule generalizing n with
  | nil => rfl
  | cons c rest ih => exact (ih _).trans (advance_oracle d n c)

/-- No event is in progress. -/
def Idle (n : Node) : Prop := n.batch = none ∧ n.sandbox = []

/-! ### Serialized runs are interleavings -/

/-- A batch alone on the node runs to completion in one step more than it takes. -/
theorem runSchedule_batch_alone (p : DriverProg Unit) (w : World) :
    (⟨some p, [], w⟩ : Node).runSchedule d (List.replicate (p.stepCount w + 1) .stepBatch) =
      idle (p.run w).2 := by
  induction p generalizing w with
  | pure a => rfl
  | fail err => rfl
  | op o next ih => exact ih _ _

/-- A sandbox event alone on the node runs to completion in one step more than it
takes. -/
theorem runSchedule_sandbox_alone (p : NodeProg Unit) (w : World) :
    (⟨none, [p], w⟩ : Node).runSchedule d (List.replicate (p.stepCount w + 1) (.stepSandbox 0)) =
      idle (p.run w).2 := by
  induction p generalizing w with
  | pure a => rfl
  | fail err => rfl
  | op o next ih => exact ih _ _

end Node

/-- The choices that run an event alone to completion on an idle node. -/
def NodeEvent.serialChoices (d : Driver) (w : World) : NodeEvent → List Choice
  | .batch b => .start (.batch b) :: List.replicate ((d.batchProgram b).stepCount w + 1) .stepBatch
  | .runPodSandbox pod => .start (.runPodSandbox pod) ::
    List.replicate ((Plugin.runPodSandbox pod).stepCount w + 1) (.stepSandbox 0)
  | .stopPodSandbox pod => .start (.stopPodSandbox pod) ::
    List.replicate ((Plugin.stopPodSandbox pod).stepCount w + 1) (.stepSandbox 0)

/-- The schedule that serves events one after another. -/
def Driver.serialSchedule (d : Driver) : World → List NodeEvent → List Choice
  | _, [] => []
  | w, e :: rest => e.serialChoices d w ++ d.serialSchedule (d.handle w e) rest

theorem Node.runSchedule_serialChoices (d : Driver) (w : World) (e : NodeEvent) :
    (Node.idle w).runSchedule d (e.serialChoices d w) = Node.idle (d.handle w e) := by
  cases e with
  | batch b =>
    show _ = Node.idle (d.serve w b)
    rw [← d.run_batchProgram b w]
    exact runSchedule_batch_alone d _ w
  | runPodSandbox pod => exact runSchedule_sandbox_alone d _ w
  | stopPodSandbox pod => exact runSchedule_sandbox_alone d _ w

/-- **Serialized runs are interleavings.** Serving events one after another, each to
completion, is what the node does under the schedule that starts each event on an idle
node and runs it alone until it leaves. -/
theorem Node.runSchedule_serial (d : Driver) (w : World) (events : List NodeEvent) :
    (Node.idle w).runSchedule d (d.serialSchedule w events) = Node.idle (events.foldl d.handle w) := by
  induction events generalizing w with
  | nil => rfl
  | cons e rest ih =>
    rw [Driver.serialSchedule, runSchedule_append, runSchedule_serialChoices, ih]
    rfl

end DraMultiDevice
