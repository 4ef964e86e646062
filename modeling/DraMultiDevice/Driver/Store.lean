import DraMultiDevice.Handler.Combo
import DraMultiDevice.Handler.Registry

/-!
# Durable state of the driver

`pkg/driver/driver.go`, the CDI spec and allocation-state files. Each claim has two
files in `/etc/cdi`, named from the driver's name and the first eight characters of
the claim UID; `restoreAllocations` loads every sidecar matching the driver's name
back into the in-memory allocation map, adding to it and overwriting, never removing.
-/

namespace DraMultiDevice

/-- A character of a `filepath.Match` pattern other than a plain one. -/
def IsGlobMeta (c : Char) : Prop := c = '*' ∨ c = '?' ∨ c = '[' ∨ c = '\\'

instance : DecidablePred IsGlobMeta := fun c =>
  inferInstanceAs (Decidable (c = '*' ∨ c = '?' ∨ c = '[' ∨ c = '\\'))

/-- `driver.Driver`, less its allocation map, which lives in the `World`. A DRA driver
name is a DNS subdomain, so it holds no `filepath.Match` metacharacter. -/
structure Driver where
  driverName : String
  registry : HandlerRegistry Handler
  name_plain : ∀ c ∈ driverName.data, ¬ IsGlobMeta c

def WriteOutcome.failure : WriteOutcome → Option String
  | .ok => none
  | .failed err => some err
  | .failedAfterCreate err => some err

namespace Driver

/-- The registry's lookups, at the repository's handlers. -/
def get (d : Driver) := d.registry.get
def mustGet (d : Driver) := d.registry.mustGet

def cdiVersion : String := "1.1.0"

/-- `strings.ReplaceAll(d.driverName, "/", "-")`. -/
def sanitizedName (d : Driver) : String :=
  ⟨d.driverName.data.map fun c => if c = '/' then '-' else c⟩

def cdiFilePrefix (d : Driver) (claimUID : String) : String :=
  d.sanitizedName ++ "-" ++ uidPrefix claimUID

/-- The CDI spec file of a claim. -/
def cdiFileName (d : Driver) (claimUID : String) : String := d.cdiFilePrefix claimUID ++ ".json"

/-- The allocation-state sidecar of a claim. -/
def allocFileName (d : Driver) (claimUID : String) : String :=
  d.cdiFilePrefix claimUID ++ ".alloc.json"

/-- The pattern `restoreAllocations` globs: the prefix up to and including the dash,
then `*.alloc.json`. -/
def allocPattern (d : Driver) : GlobPattern := ⟨d.sanitizedName ++ "-", ".alloc.json"⟩

/-- The CDI device ID of a device: `<driverName>/<type>=<deviceName>`. -/
def cdiDeviceID (d : Driver) (type : DeviceType) (deviceName : String) : String :=
  d.driverName ++ "/" ++ type.name ++ "=" ++ deviceName

/-- The CDI spec `createCDISpec` writes for a prepared claim. -/
def cdiSpecOf (d : Driver) (result : PrepareResult) : CdiSpec :=
  ⟨cdiVersion, d.driverName ++ "/" ++ result.allocation.type.name,
    [⟨result.deviceName, result.cdiEdits⟩]⟩

/-! ### The allocation map and the files as steps -/

def lookupAllocation (claimUID : String) : DriverProg (Option AllocationInfo) :=
  .op (.lookupAllocation claimUID) .pure
def storeAllocation (claimUID : String) (alloc : AllocationInfo) : DriverProg Unit :=
  .op (.storeAllocation claimUID alloc) .pure
def deleteAllocation (claimUID : String) : DriverProg Unit :=
  .op (.deleteAllocation claimUID) .pure
def writeFile (name : String) (content : FileContent) : DriverProg WriteOutcome :=
  .op (.writeFile name content) .pure
def readFile (name : String) : DriverProg (Option FileContent) := .op (.readFile name) .pure
def glob (pattern : GlobPattern) : DriverProg (List String) := .op (.glob pattern) .pure

/-- Remove a file of `cdiDir`, ignoring the outcome as the code does. -/
def removeFile (name : String) : DriverProg Unit := discard (Prog.op (.removeFile name) .pure)

/-! ### The CDI spec and the sidecar -/

/-- `saveAllocation`. Marshalling an `AllocationInfo` cannot fail. -/
def saveAllocation (d : Driver) (claimUID : String) (alloc : AllocationInfo) : DriverProg Unit := do
  if let some err := (← writeFile (d.allocFileName claimUID) (.allocationState alloc)).failure then
    throw s!"write allocation state: {err}"

/-- `createCDISpec`: create the directory, write the CDI spec, then the sidecar, whose
failure is only logged; answer the CDI device ID. -/
def createCDISpec (d : Driver) (claimUID : String) (result : PrepareResult) : DriverProg String := do
  Prog.check (kernel (.mkdirAll cdiDir)).lift fun err => s!"failed to create CDI directory: {err}"
  if let some err := (← writeFile (d.cdiFileName claimUID) (.cdiSpec (d.cdiSpecOf result))).failure
  then throw s!"failed to write CDI spec: {err}"
  let _ ← Prog.attempt (d.saveAllocation claimUID result.allocation)
  return d.cdiDeviceID result.allocation.type result.deviceName

/-- `deleteCDISpec`, with `removeAllocationState`. -/
def deleteCDISpec (d : Driver) (claimUID : String) : DriverProg Unit := do
  removeFile (d.cdiFileName claimUID)
  removeFile (d.allocFileName claimUID)

/-! ### Rehydration -/

/-- One file of `restoreAllocations`' loop: read it, parse it, and store the record
under its claim UID unless that is empty. -/
def restoreFile (name : String) : DriverProg Unit := do
  match ← readFile name with
  | none => pure ()
  | some content =>
    match content.parseAllocation with
    | none => pure ()
    | some alloc => if alloc.claimUID ≠ "" then storeAllocation alloc.claimUID alloc

/-- `restoreAllocations`: every sidecar matching the driver's pattern, in glob order. -/
def restoreAllocations (d : Driver) : DriverProg Unit := do
  (← glob d.allocPattern).forM restoreFile

/-- The names `restoreAllocations` globs among `files`, in the order it visits them. -/
def sidecarNames (d : Driver) (files : GoMap FileContent) : List String :=
  (files.keys.filter d.allocPattern.matches).insertionSort (· ≤ ·)

/-! ### One lemma per step -/

@[simp] theorem run_lookupAllocation (claimUID : String) (w : World) :
    (lookupAllocation claimUID).run w = (.ok (w.allocations.lookup claimUID), w) := rfl

@[simp] theorem run_storeAllocation (claimUID : String) (alloc : AllocationInfo) (w : World) :
    (storeAllocation claimUID alloc).run w =
      (.ok (), { w with allocations := w.allocations.insert claimUID alloc }) := rfl

@[simp] theorem run_deleteAllocation (claimUID : String) (w : World) :
    (deleteAllocation claimUID).run w =
      (.ok (), { w with allocations := w.allocations.erase claimUID }) := rfl

@[simp] theorem run_writeFile (name : String) (content : FileContent) (w : World) :
    (writeFile name content).run w =
      (.ok (w.oracle w.clock (.writeFile (cdiPath name))), { w.tick (.writeFile (cdiPath name)) with
        cdiFiles := (w.oracle w.clock (.writeFile (cdiPath name))).apply w.cdiFiles name content }) :=
  rfl

@[simp] theorem run_readFile (name : String) (w : World) :
    (readFile name).run w = (.ok (w.cdiFiles.lookup name), w) := rfl

@[simp] theorem run_glob (pattern : GlobPattern) (w : World) :
    (glob pattern).run w =
      (.ok ((w.cdiFiles.keys.filter pattern.matches).insertionSort (· ≤ ·)), w) := rfl

@[simp] theorem run_removeFile (name : String) (w : World) :
    (removeFile name).run w = (.ok (), { w.tick (.remove (cdiPath name)) with
      cdiFiles := removeOutcome (w.oracle w.clock (.remove (cdiPath name))) w.cdiFiles name }) :=
  rfl

/-- The map `restoreFile` leaves after reading `name` among `files`. -/
def restoreRecord (files : GoMap FileContent) (allocs : GoMap AllocationInfo) (name : String) :
    GoMap AllocationInfo :=
  match (files.lookup name).bind FileContent.parseAllocation with
  | some alloc => if alloc.claimUID ≠ "" then allocs.insert alloc.claimUID alloc else allocs
  | none => allocs

/-- The map `restoreAllocations` leaves, loading the sidecars among `files` into
`allocs`. -/
def restored (d : Driver) (files : GoMap FileContent) (allocs : GoMap AllocationInfo) :
    GoMap AllocationInfo :=
  (d.sidecarNames files).foldl (restoreRecord files) allocs

@[simp] theorem run_restoreFile (name : String) (w : World) :
    (restoreFile name).run w =
      (.ok (), { w with allocations := restoreRecord w.cdiFiles w.allocations name }) := by
  simp only [restoreFile, restoreRecord, Prog.run_bind, run_readFile, Prog.runThen_ok]
  rcases w.cdiFiles.lookup name with _ | content
  · rfl
  · cases parsed : content.parseAllocation with
    | none => simp [parsed]
    | some alloc => by_cases keyed : alloc.claimUID = "" <;> simp [parsed, keyed]

theorem run_forM_restoreFile (names : List String) (w : World) :
    (names.forM restoreFile).run w =
      (.ok (), { w with allocations := names.foldl (restoreRecord w.cdiFiles) w.allocations }) := by
  induction names generalizing w with
  | nil => rfl
  | cons name rest ih => simp [ih]

variable (d : Driver)

/-! ### The steps each function can take -/

theorem createCDISpec_allOps {P : DriverOp → Prop} (claimUID : String) (result : PrepareResult)
    (mkdir : P (.node (.kernel (.mkdirAll cdiDir))))
    (spec : P (.writeFile (d.cdiFileName claimUID) (.cdiSpec (d.cdiSpecOf result))))
    (sidecar : P (.writeFile (d.allocFileName claimUID) (.allocationState result.allocation))) :
    (d.createCDISpec claimUID result).AllOps P := by
  simp only [createCDISpec, saveAllocation, writeFile, kernel, Prog.allOps_bind, Prog.allOps_check,
    Prog.returns_check, Prog.allOps_lift, Prog.returns_lift, Prog.allOps_op, Prog.returns_op,
    Prog.returns_pure_ctor, Prog.allOps_pure_ctor, mkdir, spec, implies_true, true_and]
  intro _ _ _ outcome
  cases outcome <;> simp [WriteOutcome.failure, sidecar]
  rintro (_ | _ | _) <;> trivial

theorem deleteCDISpec_allOps {P : DriverOp → Prop} (claimUID : String)
    (spec : P (.removeFile (d.cdiFileName claimUID))) (sidecar : P (.removeFile (d.allocFileName claimUID))) :
    (d.deleteCDISpec claimUID).AllOps P := by
  simp [deleteCDISpec, removeFile, spec, sidecar]

theorem restoreAllocations_allOps {P : DriverOp → Prop} (globbed : P (.glob d.allocPattern))
    (reads : ∀ name, P (.readFile name)) (stores : ∀ alloc, P (.storeAllocation alloc.claimUID alloc)) :
    d.restoreAllocations.AllOps P := by
  refine ⟨globbed, fun names => Prog.allOps_forM _ names _ fun name _ => ?_⟩
  simp only [restoreFile, readFile, Prog.allOps_bind, Prog.allOps_op, Prog.allOps_pure_ctor, Prog.returns_op,
    Prog.returns_pure_ctor, reads, implies_true, and_true, true_and]
  rintro (_ | content)
  · trivial
  · dsimp only
    split
    · trivial
    · simp [storeAllocation, stores]

/-- `restoreAllocations` stores the record of every matching sidecar, in glob order. -/
theorem run_restoreAllocations (w : World) :
    d.restoreAllocations.run w =
      (.ok (), { w with allocations := d.restored w.cdiFiles w.allocations }) := by
  simp [restoreAllocations, restored, sidecarNames, run_forM_restoreFile]

theorem run_saveAllocation_world (claimUID : String) (alloc : AllocationInfo) (w : World) :
    ((d.saveAllocation claimUID alloc).run w).2 =
      { w.tick (.writeFile (cdiPath (d.allocFileName claimUID))) with
        cdiFiles := (w.oracle w.clock (.writeFile (cdiPath (d.allocFileName claimUID)))).apply
          w.cdiFiles (d.allocFileName claimUID) (.allocationState alloc) } := by
  simp only [saveAllocation, Prog.run_bind, run_writeFile, Prog.runThen_ok]
  split <;> rfl

/-- What `createCDISpec` can do: fail leaving the files alone (the directory could not
be made, or the spec write failed before touching its file), fail leaving a truncated
spec (the write failed after creating it), or write the spec and then the sidecar,
with whatever outcome the sidecar's write has. It touches no memory of the driver. -/
theorem createCDISpec_cases (claimUID : String) (result : PrepareResult) (w : World) :
    let r := (d.createCDISpec claimUID result).run w
    let spec := w.cdiFiles.insert (d.cdiFileName claimUID) (.cdiSpec (d.cdiSpecOf result))
    (r.2.allocations = w.allocations ∧ r.2.tracker = w.tracker) ∧
    ((∃ err, r.1 = .error err) ∧ r.2.cdiFiles = w.cdiFiles ∨
     (∃ n err, w.oracle n (.writeFile (cdiPath (d.cdiFileName claimUID))) =
         .failedAfterCreate err) ∧ (∃ err, r.1 = .error err) ∧
       r.2.cdiFiles = w.cdiFiles.insert (d.cdiFileName claimUID) .truncated ∨
     r.1 = .ok (d.cdiDeviceID result.allocation.type result.deviceName) ∧
       ∃ n, r.2.cdiFiles = (w.oracle n (.writeFile (cdiPath (d.allocFileName claimUID)))).apply
         spec (d.allocFileName claimUID) (.allocationState result.allocation)) := by
  intro r spec
  simp only [r, createCDISpec, Prog.run_bind, Prog.run_check, Prog.run_lift, kernel, Prog.run_op,
    exec_kernel, Prog.run_pure]
  rcases w.oracle w.clock (.mkdirAll cdiDir) with err | ⟨⟩
  case error => simp
  simp only [Prog.runThen_ok, Prog.run_checkResult_ok, Prog.run_bind, run_writeFile,
    World.tick_oracle]
  generalize replied : (w.oracle (w.tick (.mkdirAll cdiDir)).clock
    (.writeFile (cdiPath (d.cdiFileName claimUID))) : WriteOutcome) = written
  rcases written with _ | err | err
  case ok =>
    simp [WriteOutcome.failure, run_saveAllocation_world, spec]
    exact ⟨_, rfl⟩
  case failed => simp [WriteOutcome.failure]
  case failedAfterCreate =>
    simp [WriteOutcome.failure]
    exact .inr ⟨_, _, replied⟩

/-- `deleteCDISpec` removes the spec, then the sidecar, each removal taking its outcome
from the kernel; it always succeeds and touches no memory of the driver. -/
theorem run_deleteCDISpec (claimUID : String) (w : World) :
    let removed := (d.deleteCDISpec claimUID).run w
    removed.1 = .ok () ∧ removed.2.allocations = w.allocations ∧
      removed.2.tracker = w.tracker ∧ removed.2.detectedMode = w.detectedMode ∧ ∃ n m, removed.2.cdiFiles =
        removeOutcome (w.oracle m (.remove (cdiPath (d.allocFileName claimUID))))
          (removeOutcome (w.oracle n (.remove (cdiPath (d.cdiFileName claimUID)))) w.cdiFiles
            (d.cdiFileName claimUID)) (d.allocFileName claimUID) := by
  exact ⟨rfl, rfl, rfl, rfl, _, _, rfl⟩

end Driver

end DraMultiDevice
