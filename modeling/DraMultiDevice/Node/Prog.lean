import DraMultiDevice.Nri.Tracker
import Mathlib.Data.List.Sort
import Mathlib.Data.String.Basic

/-!
# The node program

The Go code runs against the kernel, the files under `/etc/cdi`, the tracker and the
driver's allocation map. Its model is a program as data: `Prog` is a tree of atomic
operations (`NodeOp`, `DriverOp`), each continuing with the reply it gets. Running a
program alone (`Prog.run`) threads a `World` through the operations; `Node.runSchedule`
runs several programs with their operations interleaved, one `Prog.step` at a time. The
same text of each Go function thus has both meanings.

The kernel is an oracle: the reply to the `n`-th kernel call is `oracle n call`, any
function at all, so a statement over every oracle covers every outcome of every
call in every order. Writes and removals under `/etc/cdi` ask the oracle for their
outcome and then change the files accordingly.
-/

namespace DraMultiDevice

/-- `rdma.NetnsMode`. -/
inductive NetnsMode where
  | shared
  | exclusive
  deriving DecidableEq, Repr

/-- A network namespace handle, `netns.NsHandle`. -/
abbrev NsHandle := Int

/-- `netlink.MACVLAN_MODE_*`. -/
inductive MacvlanMode where
  | bridge
  | vepa
  | «private»
  deriving DecidableEq, Repr

/-- `netlink.IPVLAN_MODE_*`. -/
inductive IPVlanMode where
  | l2
  | l3
  deriving DecidableEq, Repr

/-- `netlink.IPOIB_MODE_*`. -/
inductive IPoIBMode where
  | datagram
  | connected
  deriving DecidableEq, Repr

/-- A link as handed to `netlink.LinkAdd`; `mtu` is `0` when left unset. -/
inductive LinkSpec where
  | dummy (name : String) (mtu : Int)
  | veth (name peerName : String) (mtu : Int)
  | macvlan (name : String) (parentIndex : Int) (mode : MacvlanMode) (mtu : Int)
  | ipvlan (name : String) (parentIndex : Int) (mode : IPVlanMode) (mtu : Int)
  | ipoib (name : String) (parentIndex : Int) (pkey : UInt16) (mode : IPoIBMode) (mtu : Int)
  deriving DecidableEq, Repr

/-- What `os.WriteFile` does: write the file, fail before touching it, or fail after
creating or truncating it. -/
inductive WriteOutcome where
  | ok
  | failed (err : String)
  | failedAfterCreate (err : String)
  deriving DecidableEq, Repr

/-- The system calls the code makes, named after the Go functions that make them. -/
inductive KernelCall where
  | linkAdd (link : LinkSpec)
  | linkByName (name : String)
  | linkSetUp (name : String)
  | linkSetDown (name : String)
  | linkSetMTU (name : String) (mtu : Int)
  | linkDel (name : String)
  | stat (path : String)
  | readDir (path : String)
  | readFile (path : String)
  | rdmaSystemGetNetnsMode
  | rdmaLinkByName (name : String)
  | rdmaLinkSetNsFd (name : String) (ns : NsHandle)
  | netnsGetFromPath (path : String)
  | netnsSet (ns : NsHandle)
  | mkdirAll (path : String)
  | writeFile (path : String)
  | remove (path : String)
  | lockOSThread
  | unlockOSThread
  deriving DecidableEq, Repr

/-- The reply each call gets: a link's index, a directory listing, a file's contents,
the RDMA netns mode's name, a namespace handle, a write's outcome, or just success or
an error. -/
@[reducible] def KernelCall.Reply : KernelCall → Type
  | .linkByName _ => Except String Int
  | .readDir _ => Except String (List String)
  | .readFile _ => Except String String
  | .rdmaSystemGetNetnsMode => Except String String
  | .netnsGetFromPath _ => Except String NsHandle
  | .writeFile _ => WriteOutcome
  | _ => Except String Unit

/-- The kernel: the reply to the `n`-th call. -/
abbrev Oracle := (n : Nat) → (call : KernelCall) → call.Reply

/-- The reply of a call that succeeds: handle and index `0`, empty contents, and an
RDMA subsystem in exclusive mode. -/
def KernelCall.okReply : (call : KernelCall) → call.Reply
  | .linkByName _ => .ok 0
  | .readDir _ => .ok []
  | .readFile _ => .ok ""
  | .rdmaSystemGetNetnsMode => .ok "exclusive"
  | .netnsGetFromPath _ => .ok 0
  | .writeFile _ => .ok
  | .linkAdd _ | .linkSetUp _ | .linkSetDown _ | .linkSetMTU _ _ | .linkDel _ | .stat _
  | .rdmaLinkByName _ | .rdmaLinkSetNsFd _ _ | .netnsSet _ | .mkdirAll _ | .remove _
  | .lockOSThread | .unlockOSThread => .ok ()

/-- A kernel in which every call succeeds. -/
def Oracle.healthy : Oracle := fun _ call => call.okReply

/-! ### Files under `/etc/cdi` -/

/-- A device of a CDI spec: its name and container edits. -/
structure CdiDevice where
  name : String
  containerEdits : ContainerEdits
  deriving DecidableEq, Repr

/-- `cdispec.Spec`. -/
structure CdiSpec where
  version : String
  kind : String
  devices : List CdiDevice
  deriving DecidableEq, Repr

/-- A file under `/etc/cdi`, as far as the driver's readers can tell: a CDI spec, an
allocation sidecar, what a failed write leaves, or another program's file, given by
what `json.Unmarshal` into an `AllocationInfo` makes of it. -/
inductive FileContent where
  | cdiSpec (spec : CdiSpec)
  | allocationState (alloc : AllocationInfo)
  | truncated
  | foreign (parsed : Option AllocationInfo)
  deriving DecidableEq, Repr

/-- `json.Unmarshal` of a file into an `AllocationInfo`. A sidecar reads back as the
record written; of a CDI spec only its `kind` field matches; a truncated document
does not parse. -/
def FileContent.parseAllocation : FileContent → Option AllocationInfo
  | .allocationState alloc => some alloc
  | .cdiSpec spec => some ⟨⟨""⟩, spec.kind, "", "", []⟩
  | .truncated => none
  | .foreign parsed => parsed

/-- A `filepath.Glob` pattern `front*back` whose fixed parts hold no metacharacter. -/
structure GlobPattern where
  front : String
  back : String
  deriving DecidableEq, Repr

/-- `filepath.Match` for such a pattern: the star matches any run without `/`. -/
def GlobPattern.matches (pattern : GlobPattern) (name : String) : Bool :=
  pattern.front.data.isPrefixOf name.data && pattern.back.data.isSuffixOf name.data &&
    pattern.front.length + pattern.back.length ≤ name.length &&
    !((name.data.drop pattern.front.length).take
      (name.length - pattern.front.length - pattern.back.length)).contains '/'

/-- The star matches any run without `/`. -/
theorem GlobPattern.matches_of_plain (front mid back : String) (plain : '/' ∉ mid.data) :
    (GlobPattern.mk front back).matches (front ++ mid ++ back) = true := by
  obtain ⟨f⟩ := front
  obtain ⟨m⟩ := mid
  obtain ⟨b⟩ := back
  show (f.isPrefixOf (f ++ m ++ b) && b.isSuffixOf (f ++ m ++ b) &&
    decide (f.length + b.length ≤ (f ++ m ++ b).length) &&
    !(((f ++ m ++ b).drop f.length).take ((f ++ m ++ b).length - f.length - b.length)).contains
      '/') = true
  rw [List.append_assoc, List.drop_left, List.length_append, List.length_append,
    show f.length + (m.length + b.length) - f.length - b.length = m.length by omega, List.take_left]
  have front : f.isPrefixOf (f ++ (m ++ b)) = true :=
    List.isPrefixOf_iff_prefix.mpr (List.prefix_append _ _)
  have back : b.isSuffixOf (f ++ (m ++ b)) = true :=
    List.isSuffixOf_iff_suffix.mpr ⟨f ++ m, List.append_assoc _ _ _⟩
  simpa [front, back] using plain

/-! ### Handler calls, the trace and the world -/

/-- A call through the `DeviceHandler` interface. -/
inductive HandlerCall where
  | validate (config : DeviceConfig)
  | prepare (req : PrepareRequest)
  | unprepare (req : UnprepareRequest)
  deriving DecidableEq, Repr

/-- What the trace records: every kernel call, and every handler-interface call with
the handler it went to. -/
inductive Event where
  | kernel (call : KernelCall)
  | invoke (h : Handler) (call : HandlerCall)
  deriving DecidableEq, Repr

/-- The state the node program runs against. `detectedMode` is `rdma.cachedMode`
once `detectOnce` has run; `clock` counts the kernel calls made so far. -/
structure World where
  tracker : RDMANetnsTracker
  allocations : GoMap AllocationInfo
  cdiFiles : GoMap FileContent
  detectedMode : Option NetnsMode
  oracle : Oracle
  clock : Nat
  trace : List Event

/-- Advance the kernel clock over one call, recording it. -/
def World.tick (w : World) (call : KernelCall) : World :=
  { w with clock := w.clock + 1, trace := w.trace ++ [.kernel call] }

@[simp] theorem World.tick_tracker (w : World) (call : KernelCall) :
    (w.tick call).tracker = w.tracker := rfl

@[simp] theorem World.tick_allocations (w : World) (call : KernelCall) :
    (w.tick call).allocations = w.allocations := rfl

@[simp] theorem World.tick_cdiFiles (w : World) (call : KernelCall) :
    (w.tick call).cdiFiles = w.cdiFiles := rfl

@[simp] theorem World.tick_oracle (w : World) (call : KernelCall) :
    (w.tick call).oracle = w.oracle := rfl

/-- The mode `DetectNetnsMode` settles on for the kernel's answer: a failed read counts
as shared. -/
def netnsModeOf : Except String String → NetnsMode
  | .ok "exclusive" => .exclusive
  | _ => .shared

/-- `DetectNetnsMode`: the cached mode, or the mode read from the kernel, then cached. -/
def World.detectNetnsMode (w : World) : NetnsMode × World :=
  match w.detectedMode with
  | some mode => (mode, w)
  | none =>
    let mode := netnsModeOf (w.oracle w.clock .rdmaSystemGetNetnsMode)
    (mode, { w.tick .rdmaSystemGetNetnsMode with detectedMode := some mode })

/-- After the detection, the mode it answers is cached. -/
theorem World.detectNetnsMode_cached (w : World) :
    w.detectNetnsMode.2.detectedMode = some w.detectNetnsMode.1 := by
  unfold World.detectNetnsMode
  split <;> simp_all

theorem World.detectNetnsMode_of_cached {w : World} {mode : NetnsMode}
    (cached : w.detectedMode = some mode) : w.detectNetnsMode = (mode, w) := by
  simp [World.detectNetnsMode, cached]

theorem World.detectNetnsMode_frame (w : World) :
    w.detectNetnsMode.2.tracker = w.tracker ∧ w.detectNetnsMode.2.allocations = w.allocations ∧
      w.detectNetnsMode.2.cdiFiles = w.cdiFiles ∧ w.detectNetnsMode.2.oracle = w.oracle := by
  unfold World.detectNetnsMode
  split <;> exact ⟨rfl, rfl, rfl, rfl⟩

/-- A node as the driver first finds it: no moves, no allocations, no files, and the
RDMA mode not yet detected. -/
def World.start (oracle : Oracle) : World :=
  ⟨RDMANetnsTracker.new, ∅, ∅, none, oracle, 0, []⟩

/-- The driver process restarts: its memory (the allocation map, the tracker and the
cached RDMA mode) starts empty, while the files and the kernel stay. -/
def World.restart (w : World) : World :=
  { w with tracker := RDMANetnsTracker.new, allocations := ∅, detectedMode := none }

/-- `cdiDir`. -/
def cdiDir : String := "/etc/cdi"

/-- The path of a file of `cdiDir`. -/
def cdiPath (name : String) : String := cdiDir ++ "/" ++ name

/-- A property of every reply is one of every error and of every value. -/
@[simp] theorem forall_except_iff {ε β : Type} {p : Except ε β → Prop} :
    (∀ r, p r) ↔ (∀ err, p (.error err)) ∧ ∀ b, p (.ok b) :=
  ⟨fun all => ⟨fun _ => all _, fun _ => all _⟩, fun ⟨errors, values⟩ r => by
    cases r
    exacts [errors _, values _]⟩

/-! ### Operations and programs -/

/-- The atomic steps every component of the node takes: system calls, calls through
the handler interface, the tracker's methods (each holds the tracker's mutex for its
whole body, so each is one step) and `DetectNetnsMode`, whose `sync.Once` makes the
detection and its caching one step. -/
inductive NodeOp where
  | kernel (call : KernelCall)
  | invoke (h : Handler) (call : HandlerCall)
  | addPending (claimUID ibDev : String)
  | removePending (claimUID : String)
  | consumePendingForClaims (claimUIDs : List String)
  | markActive (claimUID podUID ibDev netnsPath : String)
  | removeActive (claimUID : String)
  | removeActiveForPod (podUID : String)
  | detectNetnsMode

/-- The atomic steps of the driver's own code: the node's steps, and the allocation map
and the files under `/etc/cdi`, which only the driver reaches. -/
inductive DriverOp where
  | node (o : NodeOp)
  | lookupAllocation (claimUID : String)
  | storeAllocation (claimUID : String) (alloc : AllocationInfo)
  | deleteAllocation (claimUID : String)
  | writeFile (name : String) (content : FileContent)
  | removeFile (name : String)
  | glob (pattern : GlobPattern)
  | readFile (name : String)

/-- A kind of atomic step: the reply each step gets and what it does to the world. No
step changes the kernel, which is what makes the oracle a kernel, and a step either
leaves the cached RDMA netns mode alone or, when none is cached, caches the mode the
kernel reports. -/
class AtomicOp (O : Type) where
  Resp : O → Type
  exec : (o : O) → World → Resp o × World
  exec_oracle : ∀ o w, (exec o w).2.oracle = w.oracle
  exec_mode : ∀ o w, (exec o w).2.detectedMode = w.detectedMode ∨ w.detectedMode = none ∧
    (exec o w).2.detectedMode = some (netnsModeOf (w.oracle w.clock .rdmaSystemGetNetnsMode))

@[reducible] def NodeOp.Resp : NodeOp → Type
  | .kernel call => call.Reply
  | .consumePendingForClaims _ => List PendingMove
  | .removeActive _ => Option ActiveMove
  | .removeActiveForPod _ => List ActiveMove
  | .detectNetnsMode => NetnsMode
  | _ => Unit

def NodeOp.exec : (o : NodeOp) → World → o.Resp × World
  | .kernel call, w => (w.oracle w.clock call, w.tick call)
  | .invoke h call, w => ((), { w with trace := w.trace ++ [.invoke h call] })
  | .addPending c i, w => ((), { w with tracker := w.tracker.addPending c i })
  | .removePending c, w => ((), { w with tracker := w.tracker.removePending c })
  | .consumePendingForClaims cs, w =>
    let r := w.tracker.consumePendingForClaims cs
    (r.1, { w with tracker := r.2 })
  | .markActive c p i n, w => ((), { w with tracker := w.tracker.markActive c p i n })
  | .removeActive c, w =>
    let r := w.tracker.removeActive c
    (r.1, { w with tracker := r.2 })
  | .removeActiveForPod p, w =>
    let r := w.tracker.removeActiveForPod p
    (r.1, { w with tracker := r.2 })
  | .detectNetnsMode, w => w.detectNetnsMode

instance : AtomicOp NodeOp where
  Resp := NodeOp.Resp
  exec := NodeOp.exec
  exec_oracle o w := by
    cases o
    case detectNetnsMode => exact w.detectNetnsMode_frame.2.2.2
    all_goals rfl
  exec_mode o w := by
    cases o
    case detectNetnsMode =>
      show w.detectNetnsMode.2.detectedMode = _ ∨ _ ∧ w.detectNetnsMode.2.detectedMode = _
      unfold World.detectNetnsMode
      split
      next => exact .inl rfl
      next unset => exact .inr ⟨unset, rfl⟩
    all_goals exact .inl rfl

/-- The files a write with this outcome leaves: the new content, the old files, or
what a write that failed after creating or truncating the file leaves. -/
def WriteOutcome.apply (outcome : WriteOutcome) (files : GoMap FileContent) (name : String)
    (content : FileContent) : GoMap FileContent :=
  match outcome with
  | .ok => files.insert name content
  | .failed _ => files
  | .failedAfterCreate _ => files.insert name .truncated

@[simp] theorem WriteOutcome.apply_ok (files : GoMap FileContent) (name : String)
    (content : FileContent) : WriteOutcome.ok.apply files name content = files.insert name content :=
  rfl

@[simp] theorem WriteOutcome.apply_failed (err : String) (files : GoMap FileContent)
    (name : String) (content : FileContent) : (WriteOutcome.failed err).apply files name content = files :=
  rfl

@[simp] theorem WriteOutcome.apply_failedAfterCreate (err : String) (files : GoMap FileContent)
    (name : String) (content : FileContent) :
    (WriteOutcome.failedAfterCreate err).apply files name content = files.insert name .truncated :=
  rfl

/-- The files a removal with this outcome leaves. -/
def removeOutcome (outcome : Except String Unit) (files : GoMap FileContent) (name : String) :
    GoMap FileContent :=
  match outcome with
  | .ok () => files.erase name
  | .error _ => files

@[simp] theorem removeOutcome_ok (files : GoMap FileContent) (name : String) :
    removeOutcome (.ok ()) files name = files.erase name := rfl

@[simp] theorem removeOutcome_error (err : String) (files : GoMap FileContent) (name : String) :
    removeOutcome (.error err) files name = files := rfl

@[reducible] def DriverOp.Resp : DriverOp → Type
  | .node o => o.Resp
  | .lookupAllocation _ => Option AllocationInfo
  | .writeFile _ _ => WriteOutcome
  | .removeFile _ => Except String Unit
  | .glob _ => List String
  | .readFile _ => Option FileContent
  | _ => Unit

/-- Writes and removals under `/etc/cdi` take their outcome from the kernel; `Glob`
answers the matching names in lexical order. -/
def DriverOp.exec : (o : DriverOp) → World → o.Resp × World
  | .node o, w => o.exec w
  | .lookupAllocation c, w => (w.allocations.lookup c, w)
  | .storeAllocation c a, w => ((), { w with allocations := w.allocations.insert c a })
  | .deleteAllocation c, w => ((), { w with allocations := w.allocations.erase c })
  | .writeFile name content, w =>
    let outcome := w.oracle w.clock (.writeFile (cdiPath name))
    (outcome, { w.tick (.writeFile (cdiPath name)) with
      cdiFiles := outcome.apply w.cdiFiles name content })
  | .removeFile name, w =>
    let outcome := w.oracle w.clock (.remove (cdiPath name))
    (outcome, { w.tick (.remove (cdiPath name)) with
      cdiFiles := removeOutcome outcome w.cdiFiles name })
  | .glob pattern, w => ((w.cdiFiles.keys.filter pattern.matches).insertionSort (· ≤ ·), w)
  | .readFile name, w => (w.cdiFiles.lookup name, w)

instance : AtomicOp DriverOp where
  Resp := DriverOp.Resp
  exec := DriverOp.exec
  exec_oracle o w := by
    cases o
    case node o => exact @AtomicOp.exec_oracle NodeOp _ o w
    all_goals rfl
  exec_mode o w := by
    cases o
    case node o => exact @AtomicOp.exec_mode NodeOp _ o w
    all_goals exact .inl rfl

/-- A program: done with a value, failed with a Go error, or one atomic step away from
the rest, which depends on the step's reply. -/
inductive Prog (O : Type) [AtomicOp O] (α : Type) where
  | pure (a : α)
  | fail (err : String)
  | op (o : O) (next : AtomicOp.Resp o → Prog O α)

/-- The programs of the handlers and the NRI plugin. -/
abbrev NodeProg := Prog NodeOp

/-- The programs of the driver. -/
abbrev DriverProg := Prog DriverOp

namespace Prog

variable {O : Type} [AtomicOp O] {α β : Type}

def bind : Prog O α → (α → Prog O β) → Prog O β
  | .pure a, f => f a
  | .fail err, _ => .fail err
  | .op o next, f => .op o fun r => (next r).bind f

instance : Monad (Prog O) where
  pure := .pure
  bind := Prog.bind

/-- Handle a Go error: `result, err := f(); if err != nil { ... }`. -/
def tryCatch : Prog O α → (String → Prog O α) → Prog O α
  | .pure a, _ => .pure a
  | .fail err, handler => handler err
  | .op o next, handler => .op o fun r => (next r).tryCatch handler

instance : MonadExceptOf String (Prog O) where
  throw := .fail
  tryCatch := Prog.tryCatch

/-- A call's result paired with its error, as Go returns them. -/
def attempt (x : Prog O α) : Prog O (Except String α) :=
  tryCatch (x.bind fun a => .pure (.ok a)) fun err => .pure (.error err)

/-- What follows a call in Go's `if err != nil` idiom, given its result. -/
def checkResult (undo : Prog O Unit) (wrap : String → String) : Except String α → Prog O α
  | .ok a => .pure a
  | .error err => undo.bind fun _ => .fail (wrap err)

/-- Go's `v, err := f(); if err != nil { undo(); return fmt.Errorf(..., err) }`: the
call's value, or, on its error, `undo` and then that error wrapped by `wrap`. -/
def checkUndo (x : Prog O (Except String α)) (undo : Prog O Unit) (wrap : String → String) :
    Prog O α :=
  x.bind (checkResult undo wrap)

/-- Go's `v, err := f(); if err != nil { return fmt.Errorf(..., err) }`. -/
def check (x : Prog O (Except String α)) (wrap : String → String) : Prog O α :=
  checkUndo x (.pure ()) wrap

/-- A value the Go code tests for presence: the value, or fail with `err`. -/
def ofOption (o : Option α) (err : String) : Prog O α :=
  match o with
  | some a => .pure a
  | none => .fail err

/-- Run a program alone against a world. -/
def run : Prog O α → World → Except String α × World
  | .pure a, w => (.ok a, w)
  | .fail err, w => (.error err, w)
  | .op o next, w => (next (AtomicOp.exec o w).1).run (AtomicOp.exec o w).2

/-- A node program as a driver program, step for step. -/
def lift : NodeProg α → DriverProg α
  | .pure a => .pure a
  | .fail err => .fail err
  | .op o next => .op (.node o) fun r => (next r).lift

end Prog

instance : MonadLift NodeProg DriverProg := ⟨Prog.lift⟩

namespace Prog

variable {O : Type} [AtomicOp O] {α β : Type}

/-! ### Running a program -/

@[simp] theorem run_pure (a : α) (w : World) : (Prog.pure a : Prog O α).run w = (.ok a, w) := rfl

@[simp] theorem run_pure' (a : α) (w : World) : (Pure.pure a : Prog O α).run w = (.ok a, w) := rfl

@[simp] theorem run_fail (err : String) (w : World) :
    (Prog.fail err : Prog O α).run w = (.error err, w) := rfl

@[simp] theorem run_throw (err : String) (w : World) :
    (throw err : Prog O α).run w = (.error err, w) := rfl

@[simp] theorem run_op (o : O) (next : AtomicOp.Resp o → Prog O α) (w : World) :
    (Prog.op o next).run w = (next (AtomicOp.exec o w).1).run (AtomicOp.exec o w).2 := rfl

/-- The result of a run, with its failures. -/
def runThen (r : Except String α × World) (f : α → Prog O β) : Except String β × World :=
  match r with
  | (.ok a, w) => (f a).run w
  | (.error err, w) => (.error err, w)

@[simp] theorem runThen_ok (a : α) (w : World) (f : α → Prog O β) :
    runThen (.ok a, w) f = (f a).run w := rfl

@[simp] theorem runThen_error (err : String) (w : World) (f : α → Prog O β) :
    runThen (.error err, w) f = (.error err, w) := rfl

theorem runThen_of_ok {r : Except String α × World} {a : α} (ok : r.1 = .ok a)
    (f : α → Prog O β) : runThen r f = (f a).run r.2 := by
  obtain ⟨_, w⟩ := r
  cases ok
  rfl

/-- A property of worlds that holds after the first step and that the rest keeps holds
after both. -/
theorem runThen_world {P : World → Prop} {r : Except String α × World} {f : α → Prog O β}
    (first : P r.2) (rest : ∀ a w, P w → P ((f a).run w).2) : P (runThen r f).2 := by
  obtain ⟨_ | a, w⟩ := r
  · exact first
  · exact rest a w first

@[simp] theorem run_bind (x : Prog O α) (f : α → Prog O β) (w : World) :
    (x >>= f).run w = runThen (x.run w) f := by
  show (x.bind f).run w = _
  induction x generalizing w with
  | pure a => rfl
  | fail err => rfl
  | op o next ih => exact ih _ _

/-- The result of a run, with its failures handled. -/
def runElse (r : Except String α × World) (handler : String → Prog O α) :
    Except String α × World :=
  match r with
  | (.ok a, w) => (.ok a, w)
  | (.error err, w) => (handler err).run w

@[simp] theorem runElse_ok (a : α) (w : World) (handler : String → Prog O α) :
    runElse (.ok a, w) handler = (.ok a, w) := rfl

@[simp] theorem runElse_error (err : String) (w : World) (handler : String → Prog O α) :
    runElse (.error err, w) handler = (handler err).run w := rfl

@[simp] theorem run_tryCatch (x : Prog O α) (handler : String → Prog O α) (w : World) :
    (MonadExcept.tryCatch x handler : Prog O α).run w = runElse (x.run w) handler := by
  show (x.tryCatch handler).run w = _
  induction x generalizing w with
  | pure a => rfl
  | fail err => rfl
  | op o next ih => exact ih _ _

@[simp] theorem run_attempt (x : Prog O α) (w : World) :
    (attempt x).run w = (.ok (x.run w).1, (x.run w).2) := by
  induction x generalizing w with
  | pure a => rfl
  | fail err => rfl
  | op o next ih => exact ih _ _

@[simp] theorem run_ofOption_some (a : α) (err : String) (w : World) :
    (ofOption (some a) err : Prog O α).run w = (.ok a, w) := rfl

@[simp] theorem run_ofOption_none (err : String) (w : World) :
    (ofOption none err : Prog O α).run w = (.error err, w) := rfl

@[simp] theorem run_checkResult_ok (undo : Prog O Unit) (wrap : String → String) (a : α)
    (w : World) : (checkResult undo wrap (.ok a)).run w = (.ok a, w) := rfl

@[simp] theorem run_checkResult_error (undo : Prog O Unit) (wrap : String → String)
    (err : String) (w : World) :
    (checkResult undo wrap (.error err) : Prog O α).run w =
      runThen (undo.run w) fun _ => (Prog.fail (wrap err) : Prog O α) :=
  run_bind undo _ w

@[simp] theorem run_discard (x : Prog O α) (w : World) :
    (discard x : Prog O PUnit).run w = runThen (x.run w) fun _ => (Prog.pure () : Prog O PUnit) :=
  run_bind x _ w

@[simp] theorem run_checkUndo (x : Prog O (Except String α)) (undo : Prog O Unit)
    (wrap : String → String) (w : World) :
    (checkUndo x undo wrap).run w = runThen (x.run w) (checkResult undo wrap) :=
  run_bind x _ w

@[simp] theorem run_check (x : Prog O (Except String α)) (wrap : String → String) (w : World) :
    (check x wrap).run w = runThen (x.run w) (checkResult (Prog.pure () : Prog O Unit) wrap) :=
  run_bind x _ w

@[simp] theorem run_forM_nil (f : β → Prog O Unit) (w : World) :
    (([] : List β).forM f).run w = (.ok (), w) := rfl

@[simp] theorem run_forM_cons (f : β → Prog O Unit) (b : β) (rest : List β) (w : World) :
    ((b :: rest).forM f).run w = runThen ((f b).run w) fun _ => rest.forM f :=
  run_bind (f b) (fun _ => rest.forM f) w

@[simp] theorem run_lift (p : NodeProg α) (w : World) : p.lift.run w = p.run w := by
  induction p generalizing w with
  | pure a => rfl
  | fail err => rfl
  | op o next ih => exact ih _ _

@[simp] theorem run_monadLift (p : NodeProg α) (w : World) :
    (monadLift p : DriverProg α).run w = p.run w :=
  run_lift p w

/-! ### One step at a time

A thread of the node is a program run one atomic step at a time, interleaved with the
steps of other threads. -/

/-- The next atomic step of a thread: the thread that remains and the world after the
step, or `none` once it has returned or failed. -/
def step : Prog O α → World → Option (Prog O α × World)
  | .op o next, w => some (next (AtomicOp.exec o w).1, (AtomicOp.exec o w).2)
  | _, _ => none

theorem step_oracle {p p' : Prog O α} {w w' : World} (stepped : p.step w = some (p', w')) :
    w'.oracle = w.oracle := by
  cases p with
  | op o next =>
    cases stepped
    exact AtomicOp.exec_oracle o w
  | _ => cases stepped

/-- The number of steps a thread takes when it runs alone from `w`. -/
def stepCount : Prog O α → World → Nat
  | .op o next, w => (next (AtomicOp.exec o w).1).stepCount (AtomicOp.exec o w).2 + 1
  | _, _ => 0

/-- Only the last step of a batch's reply is thrown away. -/
@[simp] theorem run_discard_world (x : Prog O α) (w : World) :
    ((discard x : Prog O PUnit).run w).2 = (x.run w).2 := by
  rw [run_discard]
  rcases x.run w with ⟨_ | _, w'⟩ <;> rfl

/-! ### Frame facts

No step changes the kernel, so every statement about the replies a run gets can be
made about the oracle of the world it starts from; and no node step reaches the
driver's allocation map or files, so no handler does. -/

theorem run_oracle (p : Prog O α) (w : World) : (p.run w).2.oracle = w.oracle := by
  induction p generalizing w with
  | pure a => rfl
  | fail err => rfl
  | op o next ih => rw [run_op, ih, AtomicOp.exec_oracle]

/-- No run forgets the cached RDMA netns mode. -/
theorem run_detectedMode (p : Prog O α) (w : World) {mode : NetnsMode}
    (cached : w.detectedMode = some mode) : (p.run w).2.detectedMode = some mode := by
  induction p generalizing w with
  | pure a => exact cached
  | fail err => exact cached
  | op o next ih =>
    refine ih _ _ ?_
    rcases AtomicOp.exec_mode o w with same | ⟨unset, -⟩
    exacts [same.trans cached, absurd (unset.symm.trans cached) (by simp)]

/-- While the kernel reports exclusive mode, no run caches another mode. -/
theorem run_detectedMode_exclusive (p : Prog O α) (w : World)
    (exclusive : ∀ n, w.oracle n .rdmaSystemGetNetnsMode = .ok "exclusive")
    (cached : w.detectedMode = none ∨ w.detectedMode = some .exclusive) :
    (p.run w).2.detectedMode = none ∨ (p.run w).2.detectedMode = some .exclusive := by
  induction p generalizing w with
  | pure a => exact cached
  | fail err => exact cached
  | op o next ih =>
    refine ih _ _ (AtomicOp.exec_oracle o w ▸ exclusive) ?_
    rcases AtomicOp.exec_mode o w with same | ⟨-, detected⟩
    · exact same ▸ cached
    · exact .inr (by rw [detected, exclusive]; rfl)

theorem run_allocations (p : NodeProg α) (w : World) :
    (p.run w).2.allocations = w.allocations := by
  induction p generalizing w with
  | pure a => rfl
  | fail err => rfl
  | op o next ih =>
    rw [run_op, ih]
    cases o
    case detectNetnsMode => exact w.detectNetnsMode_frame.2.1
    all_goals rfl

theorem run_cdiFiles (p : NodeProg α) (w : World) : (p.run w).2.cdiFiles = w.cdiFiles := by
  induction p generalizing w with
  | pure a => rfl
  | fail err => rfl
  | op o next ih =>
    rw [run_op, ih]
    cases o
    case detectNetnsMode => exact w.detectNetnsMode_frame.2.2.1
    all_goals rfl

end Prog

/-! ### What a program can return

`p.Returns P`: every value `p` can return satisfies `P`, whatever replies its steps
get. It is read off the program text, one step at a time, and holds of every run. -/

namespace Prog

variable {O : Type} [AtomicOp O] {α β : Type}

def Returns (P : α → Prop) : Prog O α → Prop
  | .pure a => P a
  | .fail _ => True
  | .op _ next => ∀ r, (next r).Returns P

@[simp] theorem returns_pure (P : α → Prop) (a : α) : (Pure.pure a : Prog O α).Returns P ↔ P a :=
  Iff.rfl

@[simp] theorem returns_throw (P : α → Prop) (err : String) :
    (throw err : Prog O α).Returns P ↔ True := Iff.rfl

@[simp] theorem returns_op (P : α → Prop) (o : O) (next : AtomicOp.Resp o → Prog O α) :
    (Prog.op o next).Returns P ↔ ∀ r, (next r).Returns P := Iff.rfl

/-- The end of a step wrapper such as `kernel`, once unfolded. -/
@[simp] theorem returns_pure_ctor (P : α → Prop) (a : α) : (Prog.pure a : Prog O α).Returns P ↔ P a :=
  Iff.rfl

@[simp] theorem returns_bind (P : β → Prop) (x : Prog O α) (f : α → Prog O β) :
    (x >>= f).Returns P ↔ x.Returns fun a => (f a).Returns P := by
  show (x.bind f).Returns P ↔ _
  induction x with
  | pure a => rfl
  | fail err => exact ⟨fun _ => trivial, fun _ => trivial⟩
  | op o next ih => exact forall_congr' ih

/-- Wrapping a callee's error into another changes no value it returns. -/
@[simp] theorem returns_tryCatch_throw (P : α → Prop) (x : Prog O α) (wrap : String → String) :
    (MonadExcept.tryCatch x fun err => throw (wrap err) : Prog O α).Returns P ↔ x.Returns P := by
  show (x.tryCatch _).Returns P ↔ _
  induction x with
  | pure a => rfl
  | fail err => exact ⟨fun _ => trivial, fun _ => trivial⟩
  | op o next ih => exact forall_congr' ih

/-- What a call's result paired with its error can be: an error, or a value the call
returns. -/
@[simp] theorem returns_attempt_ok (Q : α → Prop) (x : Prog O α) :
    (attempt x).Returns (fun r => ∀ a, r = .ok a → Q a) ↔ x.Returns Q := by
  show ((x.bind _).tryCatch _).Returns _ ↔ _
  induction x with
  | pure a => simp [Prog.bind, Prog.tryCatch, Returns]
  | fail err => simp [Prog.bind, Prog.tryCatch, Returns]
  | op o next ih => exact forall_congr' ih

theorem Returns.attempt {P : Except String α → Prop} {x : Prog O α}
    (ok : x.Returns fun a => P (.ok a)) (error : ∀ err, P (.error err)) : x.attempt.Returns P := by
  show (x.bind _).tryCatch _ |>.Returns P
  induction x with
  | pure a => exact ok
  | fail err => exact error err
  | op o next ih => exact fun r => ih r (ok r)

theorem returns_true (x : Prog O α) : x.Returns fun _ => True := by
  induction x with
  | pure a => trivial
  | fail err => trivial
  | op o next ih => exact ih

@[simp] theorem returns_const_true (x : Prog O α) : (x.Returns fun _ => True) ↔ True :=
  iff_true_intro (returns_true x)

@[simp] theorem returns_checkResult (P : α → Prop) (undo : Prog O Unit) (wrap : String → String)
    (r : Except String α) : (checkResult undo wrap r).Returns P ↔ ∀ a, r = .ok a → P a := by
  cases r with
  | ok a => simp [checkResult, Returns]
  | error err =>
    simp only [checkResult, reduceCtorEq, false_implies, implies_true, iff_true]
    exact (returns_bind P undo fun _ => .fail (wrap err)).mpr (returns_true undo)

@[simp] theorem returns_checkUndo (P : α → Prop) (x : Prog O (Except String α))
    (undo : Prog O Unit) (wrap : String → String) :
    (checkUndo x undo wrap).Returns P ↔ x.Returns fun r => ∀ a, r = .ok a → P a :=
  (returns_bind P x _).trans (by simp only [returns_checkResult])

@[simp] theorem returns_check (P : α → Prop) (x : Prog O (Except String α)) (wrap : String → String) :
    (check x wrap).Returns P ↔ x.Returns fun r => ∀ a, r = .ok a → P a :=
  returns_checkUndo P x _ wrap

@[simp] theorem returns_ofOption (P : α → Prop) (o : Option α) (err : String) :
    (ofOption o err : Prog O α).Returns P ↔ ∀ a, o = some a → P a := by
  cases o <;> simp [ofOption, Returns]

@[simp] theorem returns_ite (P : α → Prop) (c : Prop) [Decidable c] (x y : Prog O α) :
    (if c then x else y).Returns P ↔ (c → x.Returns P) ∧ (¬ c → y.Returns P) := by
  by_cases h : c <;> simp [h]

theorem Returns.mono {P Q : α → Prop} {x : Prog O α} (h : x.Returns P) (imp : ∀ a, P a → Q a) :
    x.Returns Q := by
  induction x with
  | pure a => exact imp a h
  | fail err => trivial
  | op o next ih => exact fun r => ih r (h r)

/-- What `Returns` says of a run. -/
theorem Returns.run {P : α → Prop} {x : Prog O α} (h : x.Returns P) (w : World) {a : α}
    (ran : (x.run w).1 = .ok a) : P a := by
  induction x generalizing w with
  | pure a' => cases ran; exact h
  | fail err => cases ran
  | op o next ih => exact ih _ (h _) _ ran

/-! ### Programs that cannot fail

`p.NeverFails`: whatever replies its steps get, `p` does not fail. -/

def NeverFails : Prog O α → Prop
  | .pure _ => True
  | .fail _ => False
  | .op _ next => ∀ r, (next r).NeverFails

@[simp] theorem neverFails_pure (a : α) : (Pure.pure a : Prog O α).NeverFails ↔ True := Iff.rfl

@[simp] theorem neverFails_pure_ctor (a : α) : (Prog.pure a : Prog O α).NeverFails ↔ True := Iff.rfl

@[simp] theorem neverFails_throw (err : String) : (throw err : Prog O α).NeverFails ↔ False :=
  Iff.rfl

@[simp] theorem neverFails_op (o : O) (next : AtomicOp.Resp o → Prog O α) :
    (Prog.op o next).NeverFails ↔ ∀ r, (next r).NeverFails := Iff.rfl

@[simp] theorem neverFails_bind (x : Prog O α) (f : α → Prog O β) :
    (x >>= f).NeverFails ↔ x.NeverFails ∧ x.Returns fun a => (f a).NeverFails := by
  show (x.bind f).NeverFails ↔ _
  induction x with
  | pure a => exact (true_and _).symm.to_iff
  | fail err => exact (false_and _).symm.to_iff
  | op o next ih => exact (forall_congr' ih).trans forall_and

@[simp] theorem neverFails_ite (c : Prop) [Decidable c] (x y : Prog O α) :
    (if c then x else y).NeverFails ↔ (c → x.NeverFails) ∧ (¬ c → y.NeverFails) := by
  by_cases h : c <;> simp [h]

/-- A call whose error is paired with its result cannot fail. -/
@[simp] theorem neverFails_attempt (x : Prog O α) : (attempt x).NeverFails ↔ True := by
  refine iff_true_intro ?_
  show ((x.bind _).tryCatch _).NeverFails
  induction x with
  | pure a => trivial
  | fail err => trivial
  | op o next ih => exact ih

/-- A program that cannot fail returns a value on every run. -/
theorem NeverFails.run {x : Prog O α} (h : x.NeverFails) (w : World) : ∃ a, (x.run w).1 = .ok a := by
  induction x generalizing w with
  | pure a => exact ⟨a, rfl⟩
  | fail err => cases h
  | op o next ih => exact ih _ (h _) _

/-! ### Which steps a program can take

`p.AllOps P`: every step `p` can take, whatever replies it gets, satisfies `P`. Like
`Returns`, it is read off the program text. -/

def AllOps (P : O → Prop) : Prog O α → Prop
  | .pure _ => True
  | .fail _ => True
  | .op o next => P o ∧ ∀ r, (next r).AllOps P

@[simp] theorem allOps_pure (P : O → Prop) (a : α) : (Pure.pure a : Prog O α).AllOps P ↔ True :=
  Iff.rfl

@[simp] theorem allOps_throw (P : O → Prop) (err : String) :
    (throw err : Prog O α).AllOps P ↔ True := Iff.rfl

@[simp] theorem allOps_op (P : O → Prop) (o : O) (next : AtomicOp.Resp o → Prog O α) :
    (Prog.op o next).AllOps P ↔ P o ∧ ∀ r, (next r).AllOps P := Iff.rfl

/-- The end of a step wrapper such as `kernel`, once unfolded. -/
@[simp] theorem allOps_pure_ctor (P : O → Prop) (a : α) : (Prog.pure a : Prog O α).AllOps P ↔ True :=
  Iff.rfl

@[simp] theorem allOps_bind (P : O → Prop) (x : Prog O α) (f : α → Prog O β) :
    (x >>= f).AllOps P ↔ x.AllOps P ∧ x.Returns fun a => (f a).AllOps P := by
  show (x.bind f).AllOps P ↔ _
  induction x with
  | pure a => exact ⟨fun h => ⟨trivial, h⟩, fun h => h.2⟩
  | fail err => exact ⟨fun _ => ⟨trivial, trivial⟩, fun _ => trivial⟩
  | op o next ih =>
    simp only [Prog.bind, AllOps, Returns, ih]
    exact ⟨fun ⟨here, rest⟩ => ⟨⟨here, fun r => (rest r).1⟩, fun r => (rest r).2⟩,
      fun ⟨⟨here, rest⟩, later⟩ => ⟨here, fun r => ⟨rest r, later r⟩⟩⟩

@[simp] theorem allOps_tryCatch_throw (P : O → Prop) (x : Prog O α) (wrap : String → String) :
    (MonadExcept.tryCatch x fun err => throw (wrap err) : Prog O α).AllOps P ↔ x.AllOps P := by
  show (x.tryCatch _).AllOps P ↔ _
  induction x with
  | pure a => rfl
  | fail err => exact ⟨fun _ => trivial, fun _ => trivial⟩
  | op o next ih => exact and_congr_right' (forall_congr' ih)

@[simp] theorem allOps_attempt (P : O → Prop) (x : Prog O α) : (attempt x).AllOps P ↔ x.AllOps P := by
  show ((x.bind _).tryCatch _).AllOps P ↔ _
  induction x with
  | pure a => exact iff_of_true trivial trivial
  | fail err => exact iff_of_true trivial trivial
  | op o next ih => exact and_congr_right' (forall_congr' ih)

@[simp] theorem allOps_checkResult (P : O → Prop) (undo : Prog O Unit) (wrap : String → String)
    (r : Except String α) : (checkResult undo wrap r).AllOps P ↔ ∀ err, r = .error err → undo.AllOps P := by
  cases r with
  | ok a => simp [checkResult, AllOps]
  | error err =>
    simp only [checkResult, Except.error.injEq, forall_eq']
    exact (allOps_bind P undo fun _ => .fail (wrap err)).trans (and_iff_left (returns_true undo))

@[simp] theorem allOps_checkUndo (P : O → Prop) (x : Prog O (Except String α)) (undo : Prog O Unit)
    (wrap : String → String) :
    (checkUndo x undo wrap).AllOps P ↔
      x.AllOps P ∧ x.Returns fun r => ∀ err, r = .error err → undo.AllOps P :=
  (allOps_bind P x _).trans (by simp only [allOps_checkResult])

@[simp] theorem allOps_check (P : O → Prop) (x : Prog O (Except String α)) (wrap : String → String) :
    (check x wrap).AllOps P ↔ x.AllOps P := by
  simp [check, AllOps]

@[simp] theorem allOps_ofOption (P : O → Prop) (o : Option α) (err : String) :
    (ofOption o err : Prog O α).AllOps P ↔ True := by
  cases o <;> simp [ofOption, AllOps]

@[simp] theorem allOps_ite (P : O → Prop) (c : Prop) [Decidable c] (x y : Prog O α) :
    (if c then x else y).AllOps P ↔ (c → x.AllOps P) ∧ (¬ c → y.AllOps P) := by
  by_cases h : c <;> simp [h]

@[simp] theorem allOps_discard (P : O → Prop) (x : Prog O α) :
    (discard x : Prog O PUnit).AllOps P ↔ x.AllOps P :=
  (allOps_bind P x _).trans (and_iff_left ((returns_true x).mono fun _ _ => trivial))

@[simp] theorem neverFails_discard (x : Prog O α) : (discard x : Prog O PUnit).NeverFails ↔ x.NeverFails :=
  (neverFails_bind x _).trans (and_iff_left ((returns_true x).mono fun _ _ => trivial))

@[simp] theorem allOps_const_true (x : Prog O α) : (x.AllOps fun _ => True) ↔ True := by
  refine iff_true_intro ?_
  induction x with
  | pure a => trivial
  | fail err => trivial
  | op o next ih => exact ⟨trivial, ih⟩

theorem AllOps.mono {P Q : O → Prop} {x : Prog O α} (h : x.AllOps P) (imp : ∀ o, P o → Q o) :
    x.AllOps Q := by
  induction x with
  | pure a => trivial
  | fail err => trivial
  | op o next ih => exact ⟨imp o h.1, fun r => ih r (h.2 r)⟩

theorem allOps_forM (P : O → Prop) (l : List β) (f : β → Prog O Unit)
    (each : ∀ b ∈ l, (f b).AllOps P) : (l.forM f).AllOps P := by
  induction l with
  | nil => trivial
  | cons b rest ih =>
    show (f b >>= fun _ => rest.forM f).AllOps P
    rw [allOps_bind]
    exact ⟨each b (List.mem_cons_self _ _), (returns_true (f b)).mono fun _ _ =>
      ih fun b' member => each b' (List.mem_cons_of_mem _ member)⟩

theorem neverFails_forM (l : List β) (f : β → Prog O Unit) (each : ∀ b ∈ l, (f b).NeverFails) :
    (l.forM f).NeverFails := by
  induction l with
  | nil => trivial
  | cons b rest ih =>
    show (f b >>= fun _ => rest.forM f).NeverFails
    rw [neverFails_bind]
    exact ⟨each b (List.mem_cons_self _ _), (returns_true (f b)).mono fun _ _ =>
      ih fun b' member => each b' (List.mem_cons_of_mem _ member)⟩

/-- A node program the driver runs takes the node's steps, and returns what it returns. -/
@[simp] theorem allOps_lift {α : Type} (p : NodeProg α) (P : DriverOp → Prop) :
    p.lift.AllOps P ↔ p.AllOps fun o => P (.node o) := by
  induction p with
  | pure a => rfl
  | fail err => rfl
  | op o next ih => exact and_congr_right' (forall_congr' ih)

@[simp] theorem allOps_monadLift {α : Type} (p : NodeProg α) (P : DriverOp → Prop) :
    (monadLift p : DriverProg α).AllOps P ↔ p.AllOps fun o => P (.node o) :=
  allOps_lift p P

@[simp] theorem returns_lift {α : Type} (p : NodeProg α) (P : α → Prop) : p.lift.Returns P ↔ p.Returns P := by
  induction p with
  | pure a => rfl
  | fail err => rfl
  | op o next ih => exact forall_congr' ih

@[simp] theorem returns_monadLift {α : Type} (p : NodeProg α) (P : α → Prop) :
    (monadLift p : DriverProg α).Returns P ↔ p.Returns P :=
  returns_lift p P

end Prog

/-- The node's steps that leave the tracker and the netns-mode cache alone: system calls
and calls through the handler interface. -/
def NodeOp.IsCall : NodeOp → Prop
  | .kernel _ | .invoke _ _ => True
  | _ => False

/-- A program of system calls and handler-interface calls leaves the tracker and the
netns-mode cache alone. -/
theorem Prog.run_tracker_of_calls {α : Type} {p : NodeProg α} (calls : p.AllOps NodeOp.IsCall)
    (w : World) : (p.run w).2.tracker = w.tracker ∧ (p.run w).2.detectedMode = w.detectedMode := by
  induction p generalizing w with
  | pure a => exact ⟨rfl, rfl⟩
  | fail err => exact ⟨rfl, rfl⟩
  | op o next ih =>
    obtain ⟨call, rest⟩ := calls
    obtain ⟨tracker, mode⟩ := ih (AtomicOp.exec o w).1 (rest _) (AtomicOp.exec o w).2
    rw [run_op, tracker, mode]
    cases o
    all_goals first | exact ⟨rfl, rfl⟩ | cases call

/-! ### The operations as programs -/

/-- A system call. -/
def kernel (call : KernelCall) : NodeProg call.Reply := .op (.kernel call) .pure

/-- Record a call through the handler interface. -/
def invoke (h : Handler) (call : HandlerCall) : NodeProg Unit := .op (.invoke h call) .pure

@[simp] theorem run_kernel (call : KernelCall) (w : World) :
    (kernel call).run w = (.ok (w.oracle w.clock call), w.tick call) := rfl

/-- `run_kernel` where the call's reply type has been unfolded, as under `check`. -/
@[simp] theorem exec_kernel (call : KernelCall) (w : World) :
    AtomicOp.exec (NodeOp.kernel call) w = (w.oracle w.clock call, w.tick call) := rfl

@[simp] theorem returns_kernel (call : KernelCall) (P : call.Reply → Prop) :
    (kernel call).Returns P ↔ ∀ r, P r := Iff.rfl

@[simp] theorem run_invoke (h : Handler) (call : HandlerCall) (w : World) :
    (invoke h call).run w = (.ok (), { w with trace := w.trace ++ [.invoke h call] }) := rfl

@[simp] theorem returns_invoke (h : Handler) (call : HandlerCall) (P : Unit → Prop) :
    (invoke h call).Returns P ↔ P () := ⟨fun h => h (), fun h _ => h⟩

@[simp] theorem allOps_kernel (call : KernelCall) (P : NodeOp → Prop) :
    (kernel call).AllOps P ↔ P (.kernel call) := by
  simp [kernel, Prog.AllOps]

@[simp] theorem allOps_invoke (h : Handler) (call : HandlerCall) (P : NodeOp → Prop) :
    (invoke h call).AllOps P ↔ P (.invoke h call) := by
  simp [invoke, Prog.AllOps]

/-- A system call's step, its reply typed as the call's reply so that it can be split. -/
@[simp high] theorem allOps_op_kernel {α : Type} (P : NodeOp → Prop) (call : KernelCall)
    (next : AtomicOp.Resp (NodeOp.kernel call) → NodeProg α) :
    (Prog.op (NodeOp.kernel call) next).AllOps P ↔ P (.kernel call) ∧ ∀ r : call.Reply, (next r).AllOps P :=
  Iff.rfl

@[simp high] theorem neverFails_op_kernel {α : Type} (call : KernelCall)
    (next : AtomicOp.Resp (NodeOp.kernel call) → NodeProg α) :
    (Prog.op (NodeOp.kernel call) next).NeverFails ↔ ∀ r : call.Reply, (next r).NeverFails :=
  Iff.rfl

@[simp high] theorem returns_op_kernel {α : Type} (P : α → Prop) (call : KernelCall)
    (next : AtomicOp.Resp (NodeOp.kernel call) → NodeProg α) :
    (Prog.op (NodeOp.kernel call) next).Returns P ↔ ∀ r : call.Reply, (next r).Returns P :=
  Iff.rfl

@[simp] theorem NodeOp.isCall_kernel (call : KernelCall) : NodeOp.IsCall (.kernel call) := trivial

@[simp] theorem NodeOp.isCall_invoke (h : Handler) (call : HandlerCall) :
    NodeOp.IsCall (.invoke h call) := trivial

namespace RDMANetnsTracker

/-- The tracker methods as steps of the node program. -/
def addPendingOp (claimUID ibDev : String) : NodeProg Unit := .op (.addPending claimUID ibDev) .pure
def removePendingOp (claimUID : String) : NodeProg Unit := .op (.removePending claimUID) .pure
def consumePendingForClaimsOp (claimUIDs : List String) : NodeProg (List PendingMove) :=
  .op (.consumePendingForClaims claimUIDs) .pure
def markActiveOp (claimUID podUID ibDev netnsPath : String) : NodeProg Unit :=
  .op (.markActive claimUID podUID ibDev netnsPath) .pure
def removeActiveOp (claimUID : String) : NodeProg (Option ActiveMove) :=
  .op (.removeActive claimUID) .pure
def removeActiveForPodOp (podUID : String) : NodeProg (List ActiveMove) :=
  .op (.removeActiveForPod podUID) .pure

@[simp] theorem run_addPendingOp (c i : String) (w : World) :
    (addPendingOp c i).run w = (.ok (), { w with tracker := w.tracker.addPending c i }) := rfl

@[simp] theorem run_consumePendingForClaimsOp (uids : List String) (w : World) :
    (consumePendingForClaimsOp uids).run w =
      (.ok (w.tracker.consumePendingForClaims uids).1,
        { w with tracker := (w.tracker.consumePendingForClaims uids).2 }) := rfl

@[simp] theorem run_markActiveOp (c p i n : String) (w : World) :
    (markActiveOp c p i n).run w =
      (.ok (), { w with tracker := w.tracker.markActive c p i n }) := rfl

@[simp] theorem run_removeActiveForPodOp (podUID : String) (w : World) :
    (removeActiveForPodOp podUID).run w =
      (.ok (w.tracker.removeActiveForPod podUID).1,
        { w with tracker := (w.tracker.removeActiveForPod podUID).2 }) := rfl

end RDMANetnsTracker

end DraMultiDevice
