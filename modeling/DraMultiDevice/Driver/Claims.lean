import DraMultiDevice.Driver.Store

/-!
# The allocate/release orchestrator

`Driver.PrepareResourceClaims` and `Driver.UnprepareResourceClaims` of
`pkg/driver/driver.go`, with the claim records they read. Each batch first rehydrates
the allocation map from the sidecars, then handles its claims one at a time: a claim
with a record is answered from it (the replay path); otherwise its configuration
selects a handler that validates and prepares, and the CDI spec and sidecar are
written, the handler's work being undone if the spec cannot be written.
-/

namespace DraMultiDevice

/-- `resourceapi.OpaqueDeviceConfiguration`: the driver it is for and its parameters,
as `json.Unmarshal` into a `DeviceConfig` reads them (`none` when they do not parse). -/
structure OpaqueDeviceConfiguration where
  driver : String
  parameters : Option DeviceConfig
  deriving DecidableEq, Repr

/-- `resourceapi.DeviceRequestAllocationResult`, the fields the driver reads. -/
structure DeviceRequestAllocationResult where
  driver : String
  device : String
  deriving DecidableEq, Repr

/-- `resourceapi.ResourceClaim`, the fields the driver reads: its UID, the opaque
device configurations of its spec, and the device results of its allocation. -/
structure ResourceClaim where
  uid : String
  config : List (Option OpaqueDeviceConfiguration)
  allocation : Option (List DeviceRequestAllocationResult)
  deriving DecidableEq, Repr

/-- `kubeletplugin.Device`. -/
structure KubeletDevice where
  poolName : String
  deviceName : String
  cdiDeviceIDs : List String
  deriving DecidableEq, Repr

/-- `kubeletplugin.PrepareResult`: the devices, or the error. -/
structure KubeletPrepareResult where
  devices : List KubeletDevice := []
  err : Option String := none
  deriving DecidableEq, Repr

/-- An answer the kubelet can use: one device and no error, or an error and no device. -/
def KubeletPrepareResult.WellFormed (r : KubeletPrepareResult) : Prop :=
  r.err = none ∧ r.devices.length = 1 ∨ r.err.isSome ∧ r.devices = []

instance : DecidablePred KubeletPrepareResult.WellFormed :=
  fun _ => inferInstanceAs (Decidable (_ ∨ _))

namespace Driver

/-- The configuration `parseConfig` falls back to. -/
def defaultConfig : DeviceConfig :=
  { type := deviceTypeNetdev, netdev := some { kind := "dummy", interfaceName := "eth1" } }

/-- `parseConfig`: the first opaque configuration for this driver that parses. -/
def parseConfig (d : Driver) (rc : ResourceClaim) : DeviceConfig :=
  (rc.config.findSome? fun cfg => cfg.bind fun given =>
    if given.driver = d.driverName then given.parameters else none).getD defaultConfig

/-- `getAllocatedDevice`: the device of the first allocation result for this driver. -/
def getAllocatedDevice (d : Driver) (rc : ResourceClaim) : String :=
  match rc.allocation with
  | none => ""
  | some results =>
    ((results.find? fun result => result.driver = d.driverName).map (·.device)).getD ""

/-- `prepareClaim`: look the handler up, validate, prepare. -/
def prepareClaim (d : Driver) (rc : ResourceClaim) : NodeProg PrepareResult := do
  let config := d.parseConfig rc
  let h ← match d.mustGet config.type config.getKind with
    | .ok h => pure h
    | .error err => throw err
  tryCatch (h.validate config) fun err => throw s!"config validation failed: {err}"
  h.prepare ⟨rc.uid, d.getAllocatedDevice rc, config⟩

/-- `unprepareAllocation`: release through the handler registered for the record's
type and kind. -/
def unprepareAllocation (d : Driver) (alloc : AllocationInfo) : NodeProg Unit :=
  match d.get alloc.type alloc.kind with
  | some h => h.unprepare ⟨alloc.claimUID, alloc⟩
  | none => throw s!"no handler for type={alloc.type.name} kind={alloc.kind} during unprepare"

/-- `prepareResultFromAlloc`: the answer rebuilt from a record. -/
def prepareResultFromAlloc (alloc : AllocationInfo) (cdiDeviceID : String) :
    KubeletPrepareResult :=
  { devices := [⟨(alloc.metadata.lookup "poolName").getD "default", alloc.deviceName,
      [cdiDeviceID]⟩] }

/-- One claim of `PrepareResourceClaims`. -/
def prepareOne (d : Driver) (rc : ResourceClaim) : DriverProg KubeletPrepareResult := do
  match ← lookupAllocation rc.uid with
  | some existing =>
    return prepareResultFromAlloc existing (d.cdiDeviceID existing.type existing.deviceName)
  | none =>
    match ← Prog.attempt (d.prepareClaim rc) with
    | .error err => return { err := some err }
    | .ok result =>
      match ← Prog.attempt (d.createCDISpec rc.uid result) with
      | .error err =>
        let _ ← Prog.attempt (d.unprepareAllocation result.allocation)
        return { err := some err }
      | .ok cdiDeviceID =>
        storeAllocation rc.uid result.allocation
        return { devices := [⟨result.poolName, result.deviceName, [cdiDeviceID]⟩] }

/-- The loop of `PrepareResourceClaims`, filling the result map. -/
def prepareClaimsLoop (d : Driver) :
    List ResourceClaim → GoMap KubeletPrepareResult → DriverProg (GoMap KubeletPrepareResult)
  | [], results => pure results
  | rc :: rest, results => do
    let result ← d.prepareOne rc
    d.prepareClaimsLoop rest (results.insert rc.uid result)

def prepareResourceClaims (d : Driver) (claims : List ResourceClaim) :
    DriverProg (GoMap KubeletPrepareResult) := do
  d.restoreAllocations
  d.prepareClaimsLoop claims ∅

/-- One claim of `UnprepareResourceClaims`: the error reported for it, if any. -/
def unprepareOne (d : Driver) (claimUID : String) : DriverProg (Option String) := do
  match ← lookupAllocation claimUID with
  | none => return none
  | some alloc =>
    match ← Prog.attempt (d.unprepareAllocation alloc) with
    | .error err => return some err
    | .ok () =>
      d.deleteCDISpec claimUID
      deleteAllocation claimUID
      return none

/-- The loop of `UnprepareResourceClaims`. -/
def unprepareClaimsLoop (d : Driver) :
    List String → GoMap (Option String) → DriverProg (GoMap (Option String))
  | [], results => pure results
  | uid :: rest, results => do
    let result ← d.unprepareOne uid
    d.unprepareClaimsLoop rest (results.insert uid result)

/-- `UnprepareResourceClaims`; the helper passes each claim's UID, namespace and name,
of which only the UID is read. -/
def unprepareResourceClaims (d : Driver) (claimUIDs : List String) :
    DriverProg (GoMap (Option String)) := do
  d.restoreAllocations
  d.unprepareClaimsLoop claimUIDs ∅

/-- A call of the kubelet plugin's DRA service: a batch of claims to prepare, or of
claim UIDs to release. -/
inductive Batch where
  | prepare (claims : List ResourceClaim)
  | unprepare (claimUIDs : List String)

def Batch.claimUIDs : Batch → List String
  | .prepare claims => claims.map ResourceClaim.uid
  | .unprepare claimUIDs => claimUIDs

/-- The world after the driver serves a batch; the answers go back to the kubelet. -/
def serve (d : Driver) (w : World) : Batch → World
  | .prepare claims => ((d.prepareResourceClaims claims).run w).2
  | .unprepare claimUIDs => ((d.unprepareResourceClaims claimUIDs).run w).2

end Driver

/-- The handlers `buildHandlerRegistry` registers, in order: every handler, the uverbs
handler with the tracker, and RoCE over that uverbs handler and a dummy handler. -/
def registeredHandlers : List Handler :=
  [.macvlan, .ipvlan, .veth, .sriovVf, .dummy, .hostDevice, .ipoib, .uverbs true,
    .roce (.uverbs true) .dummy]

/-- `buildHandlerRegistry` of `cmd/dra-driver/main.go`. -/
def buildHandlerRegistry : HandlerRegistry Handler :=
  registeredHandlers.foldl (HandlerRegistry.register Handler.type Handler.kinds)
    HandlerRegistry.empty

/-- In the repository's registry, every handler `Get` finds is found again under its
type and each of its kinds: no two handlers share a type and a kind. -/
theorem buildHandlerRegistry_get_kinds {typ : DeviceType} {kind : String} {h : Handler}
    (found : buildHandlerRegistry.get typ kind = some h) {kind' : String} (mem : kind' ∈ h.kinds) :
    buildHandlerRegistry.get h.type kind' = some h := by
  have every : ∀ h ∈ registeredHandlers, ∀ kind' ∈ h.kinds,
      buildHandlerRegistry.get h.type kind' = some h := by decide
  rcases HandlerRegistry.get_foldl_register _ _ _ _ found with ⟨registered, -, -⟩ | before
  · exact every h registered kind' mem
  · simp [HandlerRegistry.empty, HandlerRegistry.get] at before

namespace Driver

variable (d : Driver)

/-! ### One claim at a time -/

/-- The configuration `parseConfig` falls back to selects the dummy handler of the
repository's registry, whose `Validate` accepts it without a step. -/
theorem defaultConfig_accepted (registry : d.registry = buildHandlerRegistry) (w : World) :
    d.mustGet defaultConfig.type defaultConfig.getKind = .ok .dummy ∧
      (Handler.dummy.validate defaultConfig).run w =
        (.ok (), { w with trace := w.trace ++ [.invoke .dummy (.validate defaultConfig)] }) := by
  refine ⟨by rw [mustGet, registry]; rfl, ?_⟩
  simp [Handler.validate, dummyValidate, run_validateNetdev, defaultConfig]

/-- What `prepareClaim` returns: a result the handler its configuration selects answers
for the claim. -/
theorem prepareClaim_returns (rc : ResourceClaim) :
    (d.prepareClaim rc).Returns fun result => ∃ h,
      d.mustGet (d.parseConfig rc).type (d.parseConfig rc).getKind = .ok h ∧
      h.Answers ⟨rc.uid, d.getAllocatedDevice rc, d.parseConfig rc⟩ result := by
  unfold prepareClaim
  cases found : d.mustGet (d.parseConfig rc).type (d.parseConfig rc).getKind with
  | error err => simp [found]
  | ok h =>
    simpa [found] using (Prog.returns_true _).mono fun _ _ => Handler.prepare_returns h _

/-- Released through `unprepareAllocation`, a result a handler of the repository's
registry prepared goes back to the same handler, with the claim's UID. -/
theorem unprepareAllocation_of_answers (registry : d.registry = buildHandlerRegistry)
    {typ : DeviceType} {kind : String} {h : Handler} (found : d.mustGet typ kind = .ok h)
    {req : PrepareRequest} {result : PrepareResult} (answers : h.Answers req result) :
    d.unprepareAllocation result.allocation = h.unprepare ⟨req.claimUID, result.allocation⟩ := by
  obtain ⟨keyed, typed, kinded⟩ := answers
  have got : buildHandlerRegistry.get typ kind = some h := by
    simp only [mustGet, registry, HandlerRegistry.mustGet] at found
    split at found <;> simp_all
  simp only [unprepareAllocation, get, registry, typed, buildHandlerRegistry_get_kinds got kinded,
    keyed]

/-- A claim with a record is answered from it, with no other step. -/
theorem run_prepareOne_replay (rc : ResourceClaim) (w : World) {alloc : AllocationInfo}
    (recorded : w.allocations.lookup rc.uid = some alloc) :
    (d.prepareOne rc).run w =
      (.ok (prepareResultFromAlloc alloc (d.cdiDeviceID alloc.type alloc.deviceName)), w) := by
  simp [prepareOne, recorded]

/-- A claim with no record is prepared by its handler; if its CDI spec cannot be written,
the handler's work is released once; otherwise the record is stored. -/
theorem run_prepareOne_fresh (rc : ResourceClaim) (w : World)
    (fresh : w.allocations.lookup rc.uid = none) :
    (d.prepareOne rc).run w =
      match (d.prepareClaim rc).run w with
      | (.error err, w₁) => (.ok { err := some err }, w₁)
      | (.ok result, w₁) =>
        match (d.createCDISpec rc.uid result).run w₁ with
        | (.error err, w₂) =>
          (.ok { err := some err }, ((d.unprepareAllocation result.allocation).run w₂).2)
        | (.ok cdiDeviceID, w₂) =>
          (.ok { devices := [⟨result.poolName, result.deviceName, [cdiDeviceID]⟩] },
            { w₂ with allocations := w₂.allocations.insert rc.uid result.allocation }) := by
  simp only [prepareOne, Prog.run_bind, run_lookupAllocation, fresh, Prog.runThen_ok,
    Prog.run_attempt, Prog.run_monadLift]
  rcases (d.prepareClaim rc).run w with ⟨_ | result, w₁⟩
  · rfl
  · simp only [Prog.runThen_ok, Prog.run_bind, Prog.run_attempt]
    rcases (d.createCDISpec rc.uid result).run w₁ with ⟨_ | cdiDeviceID, w₂⟩ <;> simp

/-- One claim of `UnprepareResourceClaims`: nothing without a record; otherwise the
release, and only when it succeeds the removal of both files and of the record. -/
theorem run_unprepareOne (claimUID : String) (w : World) :
    (d.unprepareOne claimUID).run w =
      match w.allocations.lookup claimUID with
      | none => (.ok none, w)
      | some alloc =>
        match (d.unprepareAllocation alloc).run w with
        | (.error err, w₁) => (.ok (some err), w₁)
        | (.ok (), w₁) =>
          let w₂ := ((d.deleteCDISpec claimUID).run w₁).2
          (.ok none, { w₂ with allocations := w₂.allocations.erase claimUID }) := by
  rcases recorded : w.allocations.lookup claimUID with _ | alloc
  · simp [unprepareOne, recorded]
  · simp only [unprepareOne, Prog.run_bind, run_lookupAllocation, recorded, Prog.runThen_ok,
      Prog.run_attempt, Prog.run_monadLift]
    rcases (d.unprepareAllocation alloc).run w with ⟨_ | ⟨⟩, w₁⟩
    · rfl
    · simp [Prog.runThen_of_ok (run_deleteCDISpec d claimUID w₁).1]

/-- The steps of a claim's step of `PrepareResourceClaims`: the record's lookup, the
handler's, the CDI spec's, the release's and the record's store, the last two of the
result the handler returned. -/
theorem prepareOne_allOps {P : DriverOp → Prop} {R : PrepareResult → Prop} (rc : ResourceClaim)
    (lookup : P (.lookupAllocation rc.uid)) (prepared : (d.prepareClaim rc).AllOps fun o => P (.node o))
    (returns : (d.prepareClaim rc).Returns R) (created : ∀ result, (d.createCDISpec rc.uid result).AllOps P)
    (released : ∀ result, R result → (d.unprepareAllocation result.allocation).AllOps fun o => P (.node o))
    (stored : ∀ result, R result → P (.storeAllocation rc.uid result.allocation)) : (d.prepareOne rc).AllOps P := by
  simp only [prepareOne, lookupAllocation, Prog.allOps_bind, Prog.allOps_op, Prog.allOps_pure_ctor,
    Prog.returns_op, Prog.returns_pure_ctor, lookup, implies_true, true_and]
  rintro (_ | _)
  · simp only [Prog.allOps_bind, Prog.allOps_attempt, Prog.allOps_monadLift, prepared, true_and]
    have attempted : (Prog.attempt (d.prepareClaim rc).lift).Returns fun attempted =>
        ∀ result, attempted = .ok result → R result :=
      Prog.Returns.attempt ((Prog.returns_lift _ _).mpr (returns.mono fun _ held _ same => Except.ok.inj same ▸ held))
        fun _ _ absurd => nomatch absurd
    refine attempted.mono fun attempted returned => ?_
    rcases attempted with _ | result
    · trivial
    · simp only [Prog.allOps_bind, Prog.allOps_attempt, created, true_and]
      refine (Prog.returns_true _).mono fun written _ => ?_
      rcases written with _ | _
      · simp [released result (returned result rfl)]
      · simp [storeAllocation, stored result (returned result rfl)]
  · trivial

theorem unprepareOne_allOps {P : DriverOp → Prop} (claimUID : String) (lookup : P (.lookupAllocation claimUID))
    (released : ∀ alloc, (d.unprepareAllocation alloc).AllOps fun o => P (.node o))
    (deleted : (d.deleteCDISpec claimUID).AllOps P) (erased : P (.deleteAllocation claimUID)) :
    (d.unprepareOne claimUID).AllOps P := by
  simp only [unprepareOne, lookupAllocation, Prog.allOps_bind, Prog.allOps_op, Prog.allOps_pure_ctor,
    Prog.returns_op, Prog.returns_pure_ctor, lookup, implies_true, true_and]
  rintro (_ | _)
  · trivial
  · simp only [Prog.allOps_bind, Prog.allOps_attempt, Prog.allOps_monadLift, released, true_and]
    refine (Prog.returns_true _).mono fun attempted _ => ?_
    rcases attempted with _ | ⟨⟩
    · trivial
    · simp [deleted, deleteAllocation, erased]

theorem prepareResourceClaims_allOps {P : DriverOp → Prop} (claims : List ResourceClaim)
    (restores : d.restoreAllocations.AllOps P) (each : ∀ rc ∈ claims, (d.prepareOne rc).AllOps P) :
    (d.prepareResourceClaims claims).AllOps P := by
  have loop : ∀ results, (d.prepareClaimsLoop claims results).AllOps P := by
    induction claims with
    | nil => exact fun _ => trivial
    | cons rc rest ih =>
      exact fun _ => (Prog.allOps_bind _ _ _).mpr ⟨each rc (.head _), (Prog.returns_true _).mono fun _ _ =>
        ih (fun rc' member => each rc' (.tail _ member)) _⟩
  exact (Prog.allOps_bind _ _ _).mpr ⟨restores, (Prog.returns_true _).mono fun _ _ => loop ∅⟩

theorem unprepareResourceClaims_allOps {P : DriverOp → Prop} (claimUIDs : List String)
    (restores : d.restoreAllocations.AllOps P) (each : ∀ c ∈ claimUIDs, (d.unprepareOne c).AllOps P) :
    (d.unprepareResourceClaims claimUIDs).AllOps P := by
  have loop : ∀ results, (d.unprepareClaimsLoop claimUIDs results).AllOps P := by
    induction claimUIDs with
    | nil => exact fun _ => trivial
    | cons c rest ih =>
      exact fun _ => (Prog.allOps_bind _ _ _).mpr ⟨each c (.head _), (Prog.returns_true _).mono fun _ _ =>
        ih (fun c' member => each c' (.tail _ member)) _⟩
  exact (Prog.allOps_bind _ _ _).mpr ⟨restores, (Prog.returns_true _).mono fun _ _ => loop ∅⟩

/-! ### The answers of a batch

Read off the program text, so they hold whatever replies the steps get, and so in every
interleaving of a batch's steps with other events. -/

theorem restoreAllocations_neverFails : d.restoreAllocations.NeverFails := by
  refine fun names => Prog.neverFails_forM names _ fun name _ => ?_
  simp only [restoreFile, readFile, Prog.neverFails_bind, Prog.neverFails_op, Prog.returns_op,
    Prog.neverFails_pure_ctor, Prog.returns_pure_ctor, implies_true, true_and]
  rintro (_ | content)
  · trivial
  · dsimp only
    split
    · trivial
    · simp [storeAllocation]

theorem prepareOne_neverFails (rc : ResourceClaim) : (d.prepareOne rc).NeverFails := by
  simp only [prepareOne, lookupAllocation, Prog.neverFails_bind, Prog.neverFails_op, Prog.returns_op,
    Prog.neverFails_pure_ctor, Prog.returns_pure_ctor, implies_true, true_and]
  rintro (_ | _)
  · simp only [Prog.neverFails_bind, Prog.neverFails_attempt, true_and]
    refine (Prog.returns_true _).mono fun prepared _ => ?_
    rcases prepared with _ | result
    · trivial
    · simp only [Prog.neverFails_bind, Prog.neverFails_attempt, true_and]
      refine (Prog.returns_true _).mono fun written _ => ?_
      rcases written with _ | _
      · simp
      · simp [storeAllocation]
  · trivial

theorem prepareOne_wellFormed (rc : ResourceClaim) : (d.prepareOne rc).Returns KubeletPrepareResult.WellFormed := by
  simp only [prepareOne, lookupAllocation, Prog.returns_bind, Prog.returns_op, Prog.returns_pure_ctor]
  rintro (_ | _)
  · simp only [Prog.returns_bind]
    refine (Prog.returns_true _).mono fun prepared _ => ?_
    rcases prepared with _ | result
    · exact .inr ⟨rfl, rfl⟩
    · refine (Prog.returns_bind _ _ _).mpr ((Prog.returns_true _).mono fun written _ => ?_)
      rcases written with _ | _
      · exact (Prog.returns_bind _ _ _).mpr ((Prog.returns_true _).mono fun _ _ => .inr ⟨rfl, rfl⟩)
      · exact (Prog.returns_bind _ _ _).mpr fun _ => .inl ⟨rfl, rfl⟩
  · exact .inl ⟨rfl, rfl⟩

theorem unprepareOne_neverFails (claimUID : String) : (d.unprepareOne claimUID).NeverFails := by
  simp only [unprepareOne, lookupAllocation, Prog.neverFails_bind, Prog.neverFails_op, Prog.returns_op,
    Prog.neverFails_pure_ctor, Prog.returns_pure_ctor, implies_true, true_and]
  rintro (_ | _)
  · trivial
  · simp only [Prog.neverFails_bind, Prog.neverFails_attempt, true_and]
    refine (Prog.returns_true _).mono fun released _ => ?_
    rcases released with _ | ⟨⟩
    · trivial
    · simp [deleteCDISpec, removeFile, deleteAllocation]

theorem wellFormed_insert {results : GoMap KubeletPrepareResult}
    (answered : ∀ uid answer, results.lookup uid = some answer → answer.WellFormed) (claimUID : String)
    {answer : KubeletPrepareResult} (wellFormed : answer.WellFormed) :
    ∀ uid a, (results.insert claimUID answer).lookup uid = some a → a.WellFormed := by
  intro uid a found
  by_cases same : uid = claimUID
  · rw [same, AList.lookup_insert] at found
    exact Option.some_injective _ found ▸ wellFormed
  · exact answered uid a (by rwa [AList.lookup_insert_ne same] at found)

/-- The loop of `PrepareResourceClaims` does not fail, and answers each of its claims on
top of the answers it starts from, each answer well formed. -/
theorem prepareClaimsLoop_answers (claims : List ResourceClaim) (results : GoMap KubeletPrepareResult)
    (answered : ∀ uid answer, results.lookup uid = some answer → answer.WellFormed) :
    (d.prepareClaimsLoop claims results).NeverFails ∧ (d.prepareClaimsLoop claims results).Returns fun final =>
      (∀ uid, uid ∈ final ↔ uid ∈ results ∨ uid ∈ claims.map ResourceClaim.uid) ∧
      ∀ uid answer, final.lookup uid = some answer → answer.WellFormed := by
  induction claims generalizing results with
  | nil => exact ⟨trivial, fun _ => (or_iff_left (List.not_mem_nil _)).symm, answered⟩
  | cons rc rest ih =>
    have next := fun (answer : KubeletPrepareResult) (wellFormed : answer.WellFormed) => ih _ (wellFormed_insert answered rc.uid wellFormed)
    refine ⟨(Prog.neverFails_bind _ _).mpr ⟨d.prepareOne_neverFails rc,
      (d.prepareOne_wellFormed rc).mono fun answer wellFormed => (next answer wellFormed).1⟩,
      (Prog.returns_bind _ _ _).mpr ((d.prepareOne_wellFormed rc).mono fun answer wellFormed =>
        (next answer wellFormed).2.mono fun final ⟨keys, answers⟩ => ⟨fun uid => ?_, answers⟩)⟩
    rw [keys, AList.mem_insert, List.map_cons, List.mem_cons, or_assoc, or_left_comm]

/-- The loop of `UnprepareResourceClaims` does not fail, and answers each of its claim
UIDs on top of the answers it starts from. -/
theorem unprepareClaimsLoop_answers (claimUIDs : List String) (results : GoMap (Option String)) :
    (d.unprepareClaimsLoop claimUIDs results).NeverFails ∧ (d.unprepareClaimsLoop claimUIDs results).Returns
      fun final => ∀ uid, uid ∈ final ↔ uid ∈ results ∨ uid ∈ claimUIDs := by
  induction claimUIDs generalizing results with
  | nil => exact ⟨trivial, fun _ => (or_iff_left (List.not_mem_nil _)).symm⟩
  | cons claimUID rest ih =>
    refine ⟨(Prog.neverFails_bind _ _).mpr ⟨d.unprepareOne_neverFails claimUID,
      (Prog.returns_true _).mono fun _ _ => (ih _).1⟩,
      (Prog.returns_bind _ _ _).mpr ((Prog.returns_true _).mono fun _ _ =>
        (ih _).2.mono fun final keys uid => ?_)⟩
    rw [keys, AList.mem_insert, List.mem_cons, or_assoc, or_left_comm]

/-- A claim's step of `PrepareResourceClaims` changes the map only at the claim's UID,
and answers with a device exactly when it leaves the claim a record. -/
theorem prepareOne_agrees (rc : ResourceClaim) (w : World) :
    (∀ uid, uid ≠ rc.uid → ((d.prepareOne rc).run w).2.allocations.lookup uid = w.allocations.lookup uid) ∧
      ∀ answer, ((d.prepareOne rc).run w).1 = .ok answer →
        (answer.err = none ↔ (((d.prepareOne rc).run w).2.allocations.lookup rc.uid).isSome) := by
  cases recorded : w.allocations.lookup rc.uid with
  | some alloc =>
    rw [run_prepareOne_replay d rc w recorded]
    exact ⟨fun _ _ => rfl, fun _ answered => by cases answered; simp [recorded, prepareResultFromAlloc]⟩
  | none =>
    rw [run_prepareOne_fresh d rc w recorded]
    have untouched := Prog.run_allocations (d.prepareClaim rc) w
    rcases ran : (d.prepareClaim rc).run w with ⟨_ | result, w₁⟩
    · simp only [ran] at untouched
      exact ⟨fun _ _ => by rw [untouched], fun _ answered => by cases answered; simp [untouched, recorded]⟩
    · simp only [ran] at untouched
      obtain ⟨⟨kept, -⟩, -⟩ := createCDISpec_cases d rc.uid result w₁
      dsimp only
      rcases created : (d.createCDISpec rc.uid result).run w₁ with ⟨_ | cdiDeviceID, w₂⟩
      · simp only [created] at kept
        have released := Prog.run_allocations (d.unprepareAllocation result.allocation) w₂
        exact ⟨fun _ _ => by rw [released, kept, untouched],
          fun _ answered => by cases answered; simp [released, kept, untouched, recorded]⟩
      · simp only [created] at kept
        exact ⟨fun uid other => by rw [AList.lookup_insert_ne other, kept, untouched],
          fun _ answered => by cases answered; simp⟩

/-- A claim's step of `UnprepareResourceClaims` changes the map only at the claim's
UID, and answers with no error exactly when it leaves the claim no record. -/
theorem unprepareOne_agrees (claimUID : String) (w : World) :
    (∀ uid, uid ≠ claimUID →
      ((d.unprepareOne claimUID).run w).2.allocations.lookup uid = w.allocations.lookup uid) ∧
      ∀ answer, ((d.unprepareOne claimUID).run w).1 = .ok answer →
        (answer = none ↔ ((d.unprepareOne claimUID).run w).2.allocations.lookup claimUID = none) := by
  rw [run_unprepareOne]
  cases recorded : w.allocations.lookup claimUID with
  | none => exact ⟨fun _ _ => rfl, fun _ answered => by cases answered; simp [recorded]⟩
  | some alloc =>
    dsimp only
    have kept := Prog.run_allocations (d.unprepareAllocation alloc) w
    rcases ran : (d.unprepareAllocation alloc).run w with ⟨_ | ⟨⟩, w₁⟩
    · simp only [ran] at kept
      exact ⟨fun _ _ => by rw [kept], fun _ answered => by cases answered; simp [kept, recorded]⟩
    · simp only [ran] at kept
      obtain ⟨-, removed, -⟩ := run_deleteCDISpec d claimUID w₁
      exact ⟨fun uid other => by simp only [AList.lookup_erase_ne other, removed, kept],
        fun _ answered => by cases answered; simp⟩

theorem prepareClaimsLoop_agrees (claims : List ResourceClaim) (results : GoMap KubeletPrepareResult) (w : World)
    (agrees : ∀ uid answer, results.lookup uid = some answer → (answer.err = none ↔ (w.allocations.lookup uid).isSome))
    (final : GoMap KubeletPrepareResult) (ran : ((d.prepareClaimsLoop claims results).run w).1 = .ok final) :
    ∀ uid answer, final.lookup uid = some answer →
      (answer.err = none ↔ (((d.prepareClaimsLoop claims results).run w).2.allocations.lookup uid).isSome) := by
  induction claims generalizing results w with
  | nil => cases ran; exact agrees
  | cons rc rest ih =>
    obtain ⟨answer, step⟩ := (d.prepareOne_neverFails rc).run w
    obtain ⟨others, own⟩ := d.prepareOne_agrees rc w
    simp only [prepareClaimsLoop, Prog.run_bind, Prog.runThen_of_ok step] at ran ⊢
    refine ih _ _ (fun uid a found => ?_) ran
    by_cases same : uid = rc.uid
    · subst same
      rw [AList.lookup_insert] at found
      exact Option.some_injective _ found ▸ own answer step
    · rw [AList.lookup_insert_ne same] at found
      rw [others uid same]
      exact agrees uid a found

theorem unprepareClaimsLoop_agrees (claimUIDs : List String) (results : GoMap (Option String)) (w : World)
    (agrees : ∀ uid answer, results.lookup uid = some answer → (answer = none ↔ w.allocations.lookup uid = none))
    (final : GoMap (Option String)) (ran : ((d.unprepareClaimsLoop claimUIDs results).run w).1 = .ok final) :
    ∀ uid answer, final.lookup uid = some answer →
      (answer = none ↔ ((d.unprepareClaimsLoop claimUIDs results).run w).2.allocations.lookup uid = none) := by
  induction claimUIDs generalizing results w with
  | nil => cases ran; exact agrees
  | cons claimUID rest ih =>
    obtain ⟨answer, step⟩ := (d.unprepareOne_neverFails claimUID).run w
    obtain ⟨others, own⟩ := d.unprepareOne_agrees claimUID w
    simp only [unprepareClaimsLoop, Prog.run_bind, Prog.runThen_of_ok step] at ran ⊢
    refine ih _ _ (fun uid a found => ?_) ran
    by_cases same : uid = claimUID
    · subst same
      rw [AList.lookup_insert] at found
      exact Option.some_injective _ found ▸ own answer step
    · rw [AList.lookup_insert_ne same] at found
      rw [others uid same]
      exact agrees uid a found

/-- **The answers agree with the map.** After every batch, from every state and
whatever the kernel answers: a claim `PrepareResourceClaims` answers with a device has
a record in the driver's map, and one it answers with an error has none; a claim UID
`UnprepareResourceClaims` answers with no error has no record, and one it answers with
an error keeps its record. A claim named twice in a batch is answered by its last step. -/
theorem answers_agree_with_map (claims : List ResourceClaim) (claimUIDs : List String) (w : World) :
    (∀ results, ((d.prepareResourceClaims claims).run w).1 = .ok results → ∀ uid answer,
      results.lookup uid = some answer →
        (answer.err = none ↔ (((d.prepareResourceClaims claims).run w).2.allocations.lookup uid).isSome)) ∧
    ∀ results, ((d.unprepareResourceClaims claimUIDs).run w).1 = .ok results → ∀ uid answer,
      results.lookup uid = some answer →
        (answer = none ↔ ((d.unprepareResourceClaims claimUIDs).run w).2.allocations.lookup uid = none) := by
  simp only [prepareResourceClaims, unprepareResourceClaims, Prog.run_bind, d.run_restoreAllocations,
    Prog.runThen_ok]
  exact ⟨fun results ran => d.prepareClaimsLoop_agrees claims ∅ _ (fun _ _ absent => by simp at absent) results ran,
    fun results ran => d.unprepareClaimsLoop_agrees claimUIDs ∅ _ (fun _ _ absent => by simp at absent) results ran⟩

end Driver

end DraMultiDevice

namespace DraMultiDevice

/-- The driver as `cmd/dra-driver` starts it, under its default name. -/
def exampleDriver : Driver := ⟨"dra.example.com", buildHandlerRegistry, by decide⟩

/-- A RoCE configuration whose netdev side is a dummy interface. -/
def roceConfig : DeviceConfig := { type := deviceTypeCombo, combo := some ⟨{}, { kind := "dummy" }⟩ }

/-- A RoCE claim for this driver, allocated `uverbs0`. -/
def roceClaim : ResourceClaim where
  uid := "aabbccdd-1234-5678-abcd-1234567890ab"
  config := [some ⟨"dra.example.com", some roceConfig⟩]
  allocation := some [⟨"dra.example.com", "uverbs0"⟩]

/-- A node where every call succeeds and the uverbs device's IB device is `mlx5_0`. -/
def roceNode : World := World.start fun n call => match call with
  | .readFile _ => .ok "mlx5_0\n"
  | call => Oracle.healthy n call

set_option maxRecDepth 8000 in
/-- A RoCE claim prepared fresh answers device `uverbs0`, which its CDI spec file
declares; every later `PrepareResourceClaims` of it, in the same process or in a new
one over the files left behind, answers an empty device name and a CDI device ID that
names no device. -/
theorem roce_replay_loses_device_name :
    (let first := (exampleDriver.prepareResourceClaims [roceClaim]).run roceNode
     let again := (exampleDriver.prepareResourceClaims [roceClaim]).run first.2
     let restarted := (exampleDriver.prepareResourceClaims [roceClaim]).run first.2.restart
     (∃ r, first.1 = .ok r ∧ r.lookup roceClaim.uid =
       some { devices := [⟨"default", "uverbs0", ["dra.example.com/combo=uverbs0"]⟩] }) ∧
     (∃ spec, first.2.cdiFiles.lookup (exampleDriver.cdiFileName roceClaim.uid) =
       some (.cdiSpec spec) ∧ spec.devices.map CdiDevice.name = ["uverbs0"]) ∧
     (∃ r, again.1 = .ok r ∧ r.lookup roceClaim.uid =
       some { devices := [⟨"default", "", ["dra.example.com/combo="]⟩] }) ∧
     ∃ r, restarted.1 = .ok r ∧ r.lookup roceClaim.uid =
       some { devices := [⟨"default", "", ["dra.example.com/combo="]⟩] }) :=
  ⟨⟨_, rfl, by decide⟩, ⟨_, rfl, by decide⟩, ⟨_, rfl, by decide⟩, ⟨_, rfl, by decide⟩⟩

/-- A claim with no configuration for this driver: the default dummy interface. -/
def dummyClaim : ResourceClaim := ⟨"0badc0de-1234-5678-abcd-1234567890ab", [], none⟩

set_option maxRecDepth 8000 in
/-- Two instances over one node, their batches one after the other, as in a rolling
update. Instance A prepares a claim; instance B, starting with empty memory, rehydrates
it, releases it (deleting its interface) and removes both of its files; A's next
`PrepareResourceClaims` of the claim answers from its stale map, with no file left and
no handler or kernel call made. -/
theorem stale_replay_after_peer_unprepare :
    (let a₁ := (exampleDriver.prepareResourceClaims [dummyClaim]).run (World.start Oracle.healthy)
     let b := (exampleDriver.unprepareResourceClaims [dummyClaim.uid]).run a₁.2.restart
     let a₂ := (exampleDriver.prepareResourceClaims [dummyClaim]).run { b.2 with
       allocations := a₁.2.allocations
       tracker := a₁.2.tracker
       detectedMode := a₁.2.detectedMode }
     (∃ r, b.1 = .ok r ∧ r.lookup dummyClaim.uid = some none) ∧
     Event.kernel (.linkDel "dm0badc0de") ∈ b.2.trace ∧ b.2.cdiFiles.keys = [] ∧
     (∃ r, a₂.1 = .ok r ∧ r.lookup dummyClaim.uid =
       some { devices := [⟨"default", "dm0badc0de", ["dra.example.com/netdev=dm0badc0de"]⟩] }) ∧
     a₂.2.trace = b.2.trace) :=
  ⟨⟨_, rfl, by decide⟩, by decide, by decide, ⟨_, rfl, by decide⟩, by decide⟩

/-- A node where deleting an interface always fails; every other call succeeds. -/
def busyNode : World := World.start fun n call => match call with
  | .linkDel _ => .error "device or resource busy"
  | call => Oracle.healthy n call

/-- A node whose file writes fail after creating the file; every other call succeeds. -/
def fullDiskNode : World := World.start fun n call => match call with
  | .writeFile _ => .failedAfterCreate "no space left on device"
  | call => Oracle.healthy n call

end DraMultiDevice
