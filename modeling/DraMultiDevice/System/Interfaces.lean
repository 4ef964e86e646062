import DraMultiDevice.Handler.Links
import DraMultiDevice.System.Agreement

/-!
# The links a batch leaves

The driver creates a link for a claim through its handler's `Prepare`, and releases it
through the handler's `Unprepare` on the allocation it keeps for the claim. A link is
orphaned when the driver no longer holds an allocation that names it: no later batch
can delete it. This module shows that a batch started on links none of which is
orphaned leaves none orphaned: a claim that fails leaves no link behind (its handler's
own cleanup, or the driver's release when the CDI spec cannot be written), a prepared
claim records the link it created, and a release deletes it before the record goes.

A batch is read over a ghost: the allocation map and the files as the batch sees them,
and the links the driver created. `Ghost.Allowed` gives each step the replies it can
get: the map's and the files' own answers to a lookup, a read and a glob, success to a
link deletion, and a failed link lookup only for a name no link the driver holds
answers to, as from a kernel that deletes every link it is asked to and finds every
link it holds; anything at all to the rest of the kernel and to the tracker. These are the replies a step can get
however the steps of the node's other threads fall between the batch's, which is what
`System.Interleaving` needs.

## Main result

`Driver.Owned.batchProgram_leaves`: a batch keeps the links owned, whatever replies
the ghost allows its steps.

## Proof strategy

`Owned` is the invariant: every link is recorded by a claim whose record the
rehydration keeps. As in `Agreement`, one lemma per outcome of a claim's step keeps it
(`Owned.stored`, `Owned.erased`, `Owned.narrow`). Each function of the driver has one
lemma saying what it leaves of the ghost, the handlers' part comes from
`Handler.prepare_leaves` and `Handler.unprepare_leaves`, and the batch lemma follows the
batch's loops.
-/

namespace DraMultiDevice

/-- One step of the driver's effect on the links: only the node's system calls reach
them. -/
def Links.driverStep (links : List LinkSpec) : (o : DriverOp) → o.Resp → List LinkSpec
  | .node o, r => Links.step links o r
  | _, _ => links

/-! ### The ghost of a batch -/

namespace Ghost

/-- What a step of the driver does, given its reply, to the map and the files the batch
sees, and to the links. -/
def step : World × List LinkSpec → (o : DriverOp) → o.Resp → World × List LinkSpec
  | (g, links), .node o, r => (g, Links.step links o r)
  | (g, links), .storeAllocation c alloc, _ => ({ g with allocations := g.allocations.insert c alloc }, links)
  | (g, links), .deleteAllocation c, _ => ({ g with allocations := g.allocations.erase c }, links)
  | (g, links), .writeFile name content, r => ({ g with cdiFiles := r.apply g.cdiFiles name content }, links)
  | (g, links), .removeFile name, r => ({ g with cdiFiles := removeOutcome r g.cdiFiles name }, links)
  | s, _, _ => s

/-- The replies a step of the driver can get, whatever the sandbox events do between the
batch's steps: the map's and the files' own answers to a lookup, a read and a glob,
the replies `Links.Allowed` allows the links, and anything to the rest. -/
def Allowed : World × List LinkSpec → (o : DriverOp) → o.Resp → Prop
  | (_, links), .node o, r => Links.Allowed links o r
  | (g, _), .lookupAllocation c, r => r = g.allocations.lookup c
  | (g, _), .readFile name, r => r = g.cdiFiles.lookup name
  | (g, _), .glob pattern, r => r = (g.cdiFiles.keys.filter pattern.matches).insertionSort (· ≤ ·)
  | _, _, _ => True

/-- The steps that reach only the map and the files, with replies these determine. -/
def Determined : DriverOp → Prop
  | .lookupAllocation _ | .storeAllocation _ _ | .deleteAllocation _ | .readFile _ | .glob _ => True
  | _ => False

theorem determined_exec {o : DriverOp} (determined : Determined o) (g : World) (links : List LinkSpec) :
    (∀ r, Allowed (g, links) o r ↔ r = (AtomicOp.exec o g).1) ∧
      step (g, links) o (AtomicOp.exec o g).1 = ((AtomicOp.exec o g).2, links) := by
  cases o
  case lookupAllocation | readFile | glob => exact ⟨fun _ => Iff.rfl, rfl⟩
  case storeAllocation | deleteAllocation => exact ⟨fun _ => ⟨fun _ => rfl, fun _ => trivial⟩, rfl⟩
  all_goals exact determined.elim

variable {α : Type} {ok : α → World × List LinkSpec → Prop} {err : String → World × List LinkSpec → Prop}

/-- A program whose steps the map and the files determine is read over the ghost as it
runs on it. -/
theorem leaves_of_determined {p : DriverProg α} (determined : p.AllOps Determined) (g : World)
    (links : List LinkSpec) :
    p.Leaves step Allowed ok err (g, links) ↔
      match p.run g with
      | (.ok a, g') => ok a (g', links)
      | (.error e, g') => err e (g', links) := by
  induction p generalizing g with
  | pure a => rfl
  | fail e => rfl
  | op o next ih =>
    obtain ⟨allowed, stepped⟩ := determined_exec determined.1 g links
    show (∀ r, Allowed (g, links) o r → _) ↔ _
    simp only [allowed, forall_eq, stepped]
    exact ih _ (determined.2 _) _

end Ghost

/-- What a driver program leaves of the ghost, whatever replies the ghost allows its
steps. -/
abbrev Prog.LeavesGhost {α : Type} (p : DriverProg α) (ok : α → World × List LinkSpec → Prop)
    (err : String → World × List LinkSpec → Prop) (s : World × List LinkSpec) : Prop :=
  p.Leaves Ghost.step Ghost.Allowed ok err s

namespace Ghost

variable {α : Type} {ok : α → World × List LinkSpec → Prop} {err : String → World × List LinkSpec → Prop}
  (g : World) (links : List LinkSpec)

/-- A node program the driver runs leaves the ghost's map and files alone, and the links
as it leaves them. -/
theorem leaves_lift (p : NodeProg α) :
    p.lift.LeavesGhost ok err (g, links) ↔
      p.LeavesLinks (fun a links' => ok a (g, links')) (fun e links' => err e (g, links')) links := by
  induction p generalizing links with
  | pure a => rfl
  | fail e => rfl
  | op o next ih => exact forall_congr' fun r => imp_congr_right fun _ => ih r _

@[simp] theorem leaves_monadLift (p : NodeProg α) :
    (monadLift p : DriverProg α).LeavesGhost ok err (g, links) ↔
      p.LeavesLinks (fun a links' => ok a (g, links')) (fun e links' => err e (g, links')) links :=
  leaves_lift g links p

variable (s : World × List LinkSpec)

@[simp] theorem leaves_lookupAllocation (claimUID : String) {ok : Option AllocationInfo → _ → Prop} :
    (Driver.lookupAllocation claimUID).LeavesGhost ok err s ↔ ok (s.1.allocations.lookup claimUID) s :=
  ⟨fun h => h _ rfl, fun h _ replied => replied ▸ h⟩

@[simp] theorem leaves_storeAllocation (claimUID : String) (alloc : AllocationInfo) {ok : Unit → _ → Prop} :
    (Driver.storeAllocation claimUID alloc).LeavesGhost ok err s ↔
      ok () ({ s.1 with allocations := s.1.allocations.insert claimUID alloc }, s.2) :=
  ⟨fun h => h () trivial, fun h _ _ => h⟩

@[simp] theorem leaves_deleteAllocation (claimUID : String) {ok : Unit → _ → Prop} :
    (Driver.deleteAllocation claimUID).LeavesGhost ok err s ↔
      ok () ({ s.1 with allocations := s.1.allocations.erase claimUID }, s.2) :=
  ⟨fun h => h () trivial, fun h _ _ => h⟩

@[simp] theorem leaves_writeFile (name : String) (content : FileContent) {ok : WriteOutcome → _ → Prop} :
    (Driver.writeFile name content).LeavesGhost ok err s ↔
      ∀ outcome, ok outcome ({ s.1 with cdiFiles := outcome.apply s.1.cdiFiles name content }, s.2) :=
  ⟨fun h outcome => h outcome trivial, fun h outcome _ => h outcome⟩

@[simp] theorem leaves_removeFile (name : String) {ok : Unit → _ → Prop} :
    (Driver.removeFile name).LeavesGhost ok err s ↔
      ∀ outcome, ok () ({ s.1 with cdiFiles := removeOutcome outcome s.1.cdiFiles name }, s.2) :=
  ⟨fun h outcome => h outcome trivial, fun h outcome _ => h outcome⟩

end Ghost

/-! ### The driver's functions over the ghost -/

namespace Driver

variable (d : Driver) {α : Type} {ok : α → World × List LinkSpec → Prop}
  {err : String → World × List LinkSpec → Prop} (g : World) (links : List LinkSpec)

theorem restoreAllocations_determined : d.restoreAllocations.AllOps Ghost.Determined :=
  d.restoreAllocations_allOps trivial (fun _ => trivial) fun _ => trivial

/-- The rehydration runs on the ghost as on the world. -/
theorem leaves_restoreAllocations {ok : Unit → _ → Prop} :
    d.restoreAllocations.LeavesGhost ok err (g, links) ↔
      ok () ({ g with allocations := d.restored g.cdiFiles g.allocations }, links) := by
  refine (Ghost.leaves_of_determined d.restoreAllocations_determined g links).trans ?_
  rw [run_restoreAllocations]

/-- What `createCDISpec` leaves of the ghost: the links and the map as they were, and
files that restore what the files before did and, once it succeeded, the claim's record
from its sidecar. -/
theorem leaves_createCDISpec (claimUID : String) (result : PrepareResult) :
    (d.createCDISpec claimUID result).LeavesGhost
      (fun _ s => s.2 = links ∧ s.1.allocations = g.allocations ∧
        ∀ n alloc, Restores s.1.cdiFiles n alloc → alloc = result.allocation ∨ Restores g.cdiFiles n alloc)
      (fun _ s => s.2 = links ∧ s.1.allocations = g.allocations ∧ RestoresNoMore g.cdiFiles s.1.cdiFiles)
      (g, links) := by
  simp only [createCDISpec, saveAllocation, Prog.leaves_bind, Prog.leaves_check, Ghost.leaves_lift, kernel,
    Prog.leaves_op_kernel, Links.step_kernel, Links.call, Prog.leaves_pure_ctor, Ghost.leaves_writeFile]
  rintro (err | ⟨⟩) -
  · exact ⟨rfl, rfl, .of_eq rfl⟩
  rintro (_ | err | err)
  all_goals simp only [WriteOutcome.failure, Prog.leaves_attempt, Prog.leaves_bind, Ghost.leaves_writeFile,
    Prog.leaves_pure, Prog.leaves_throw, Prog.leaves_pure_ctor, true_and]
  · intro outcome
    have stored : ∀ n alloc, Restores (outcome.apply (g.cdiFiles.insert (d.cdiFileName claimUID)
        (.cdiSpec (d.cdiSpecOf result))) (d.allocFileName claimUID) (.allocationState result.allocation)) n alloc →
        alloc = result.allocation ∨ Restores g.cdiFiles n alloc := fun n alloc restores => by
      rcases restores_apply _ restores with ⟨-, parsed⟩ | before
      · exact .inl (Option.some_injective _ parsed).symm
      · rcases restores_insert before with ⟨rfl, -⟩ | before'
        · exact absurd before (not_restores_cdiSpec (AList.lookup_insert _))
        · exact .inr before'
    cases outcome <;> simpa only [Prog.leaves_pure, Prog.leaves_throw, Prog.leaves_pure_ctor, true_and] using stored
  · exact .of_eq rfl
  · intro n alloc restores
    rcases restores_insert restores with ⟨-, parsed⟩ | before
    · cases parsed
    · exact before

/-- `deleteCDISpec` leaves the links and the map as they were, and files that restore
no more than the files before. -/
theorem leaves_deleteCDISpec (claimUID : String) {ok : Unit → _ → Prop}
    (post : ∀ g', g'.allocations = g.allocations → RestoresNoMore g.cdiFiles g'.cdiFiles → ok () (g', links)) :
    (d.deleteCDISpec claimUID).LeavesGhost ok err (g, links) := by
  simp only [deleteCDISpec, Prog.leaves_bind, Ghost.leaves_removeFile]
  exact fun _ _ => post _ rfl fun _ _ restores => restores_removeOutcome _ (restores_removeOutcome _ restores)

end Driver

/-! ### The invariant -/

namespace Driver

variable (d : Driver)

/-- The claim `c`'s record names `link` for its release: the handler the registry finds
for the record deletes a non-empty name the link answers to. -/
def Records (w : World) (c : String) (link : LinkSpec) : Prop :=
  ∃ alloc h name, w.allocations.lookup c = some alloc ∧ d.get alloc.type alloc.kind = some h ∧
    h.releasedLink alloc = some name ∧ name ≠ "" ∧ name ∈ link.names

/-- Every sidecar that restores a record for `c` restores the record `c` has, so that a
rehydration keeps it. -/
def Kept (w : World) (c : String) : Prop :=
  ∀ file alloc, d.allocPattern.matches file = true → Restores w.cdiFiles file alloc →
    alloc.claimUID = c → w.allocations.lookup c = some alloc

/-- No link the driver created is orphaned: each is recorded by a claim whose record a
rehydration keeps. -/
def Owned (w : World) (links : List LinkSpec) : Prop :=
  ∀ link ∈ links, ∃ c, d.Records w c link ∧ d.Kept w c

variable {d}

theorem Records.congr {w w' : World} {c : String} {link : LinkSpec} (records : d.Records w c link)
    (same : w'.allocations.lookup c = w.allocations.lookup c) : d.Records w' c link := by
  obtain ⟨alloc, h, name, found, rest⟩ := records
  exact ⟨alloc, h, name, same.trans found, rest⟩

theorem Kept.congr {w w' : World} {c : String} (kept : d.Kept w c)
    (same : w'.allocations.lookup c = w.allocations.lookup c)
    (files : ∀ file alloc, Restores w'.cdiFiles file alloc → alloc.claimUID = c → Restores w.cdiFiles file alloc) :
    d.Kept w' c := fun file alloc matched restores keyed => by
  rw [same]
  exact kept file alloc matched (files file alloc restores keyed) keyed

/-- The links stay owned through a step that drops some of them, keeps the record of
every owner of a link left, and restores nothing new. -/
theorem Owned.of_kept {w w' : World} {links links' : List LinkSpec} (owned : d.Owned w links)
    (sub : links'.Sublist links)
    (lookups : ∀ c, ∀ link ∈ links', d.Records w c link → w'.allocations.lookup c = w.allocations.lookup c)
    (files : RestoresNoMore w.cdiFiles w'.cdiFiles) : d.Owned w' links' := fun link member => by
  obtain ⟨c, records, kept⟩ := owned link (sub.subset member)
  have same := lookups c link member records
  exact ⟨c, records.congr same, kept.congr same fun file alloc restores _ => files file alloc restores⟩

theorem Owned.narrow {w w' : World} {links links' : List LinkSpec} (owned : d.Owned w links)
    (sub : links'.Sublist links) (allocations : w'.allocations = w.allocations)
    (files : RestoresNoMore w.cdiFiles w'.cdiFiles) : d.Owned w' links' :=
  owned.of_kept sub (fun _ _ _ _ => by rw [allocations]) files

/-- A claim with no record stores the allocation of a successful `Prepare`: the links
that were owned stay owned, and the link the `Prepare` created is recorded by the
claim, whose only sidecar is the one holding that allocation. -/
theorem Owned.stored {w w' : World} {links links' : List LinkSpec} (owned : d.Owned w links)
    (rehydrated : Rehydrated d w) {c : String} (recorded : w.allocations.lookup c = none) {result : PrepareResult}
    (keyed : result.allocation.claimUID = c) (allocations : w'.allocations = w.allocations.insert c result.allocation)
    (files : ∀ n alloc, Restores w'.cdiFiles n alloc → alloc = result.allocation ∨ Restores w.cdiFiles n alloc)
    {h : Handler} (found : d.get result.allocation.type result.allocation.kind = some h)
    (created : h.Created links result links') : d.Owned w' links' ∧ Rehydrated d w' := by
  have lookup_ne : ∀ {c'}, c' ≠ c → w'.allocations.lookup c' = w.allocations.lookup c' := fun ne => by
    rw [allocations, AList.lookup_insert_ne ne]
  have lookup_eq : w'.allocations.lookup c = some result.allocation := by rw [allocations, AList.lookup_insert]
  have kept_new : d.Kept w' c := fun n alloc matched restores keyed' => by
    rcases files n alloc restores with rfl | old
    · exact lookup_eq
    · exact absurd (keyed' ▸ recorded) (rehydrated n alloc matched old)
  have old_owners : d.Owned w' links := fun link member => by
    obtain ⟨c', records, kept⟩ := owned link member
    have ne : c' ≠ c := by
      rintro rfl
      obtain ⟨_, _, _, found', -⟩ := records
      simp [recorded] at found'
    exact ⟨c', records.congr (lookup_ne ne), kept.congr (lookup_ne ne) fun n alloc restores keyed' =>
      (files n alloc restores).resolve_left fun same => ne (keyed' ▸ same ▸ keyed)⟩
  refine ⟨?_, fun n alloc matched restores => ?_⟩
  · unfold Handler.Created at created
    cases named : h.releasedLink result.allocation with
    | none =>
      rw [named] at created
      exact created ▸ old_owners
    | some name =>
      rw [named] at created
      obtain ⟨nonempty, link, answers, rfl⟩ := created
      intro l member
      rcases List.mem_append.mp member with old | new
      · exact old_owners l old
      · obtain rfl := List.mem_singleton.mp new
        exact ⟨c, ⟨result.allocation, h, name, lookup_eq, found, named, nonempty, answers⟩, kept_new⟩
  · by_cases same : alloc.claimUID = c
    · rw [same, lookup_eq]
      exact Option.some_ne_none _
    · rcases files n alloc restores with rfl | old
      · exact absurd keyed same
      · exact (lookup_ne same).symm ▸ rehydrated n alloc matched old

/-- A claim whose release succeeded is erased: a link left is not the one its record
names, so its owner is another claim. -/
theorem Owned.erased {w w' : World} {links links' : List LinkSpec} (owned : d.Owned w links) {c : String}
    {alloc : AllocationInfo} (recorded : w.allocations.lookup c = some alloc) {h : Handler}
    (found : d.get alloc.type alloc.kind = some h) (released : h.Released alloc links links')
    (allocations : w'.allocations = w.allocations.erase c) (files : RestoresNoMore w.cdiFiles w'.cdiFiles) :
    d.Owned w' links' := by
  refine owned.of_kept released.1 (fun c' link member records => ?_) files
  have ne : c' ≠ c := by
    rintro rfl
    obtain ⟨alloc', h', name, found', got, named, nonempty, answers⟩ := records
    obtain rfl : alloc' = alloc := Option.some_injective _ (found'.symm.trans recorded)
    obtain rfl : h' = h := Option.some_injective _ (got.symm.trans found)
    exact released.2 name named nonempty link member answers
  rw [allocations, AList.lookup_erase_ne ne]


/-- The rehydration keeps every owner's record, and after it every claim a sidecar
restores has a record. -/
theorem Owned.restoreAllocations {w : World} {links : List LinkSpec} (owned : d.Owned w links) :
    let w' := { w with allocations := d.restored w.cdiFiles w.allocations }
    d.Owned w' links ∧ Rehydrated d w' := by
  have cases := @lookup_foldl_restoreRecord_cases w.cdiFiles (d.sidecarNames w.cdiFiles) w.allocations
  have kept : ∀ c, d.Kept w c → (d.restored w.cdiFiles w.allocations).lookup c = w.allocations.lookup c :=
    fun c kept => by
      rcases cases c with same | ⟨name, member, alloc, restores, rfl, found⟩
      · exact same
      · rw [Driver.restored, found, kept name alloc ((mem_sidecarNames d).mp member).2 restores rfl]
  refine ⟨fun link member => ?_, fun name alloc matched restores => ?_⟩
  · obtain ⟨c, records, kept'⟩ := owned link member
    exact ⟨c, records.congr (kept c kept'), kept'.congr (kept c kept') fun _ _ restores _ => restores⟩
  · refine lookup_foldl_restoreRecord_ne_none _ _ (.inr ⟨name, (mem_sidecarNames d).mpr ⟨?_, matched⟩,
      alloc, restores, rfl⟩)
    refine AList.lookup_isSome.mp (Option.isSome_iff_exists.mpr ?_)
    obtain ⟨parsed, -⟩ := restores
    cases stored : w.cdiFiles.lookup name with
    | none => simp [stored] at parsed
    | some content => exact ⟨content, rfl⟩

end Driver

/-! ### A batch, read over the ghost, keeps the links owned -/

namespace Driver

variable (d : Driver) (registry : d.registry = buildHandlerRegistry)
include registry

/-- `prepareClaim` leaves of the links what the `Prepare` of the handler it picks leaves,
and that handler is the one the registry finds for the allocation it returns. -/
theorem prepareClaim_leaves (rc : ResourceClaim) (links : List LinkSpec) :
    (d.prepareClaim rc).LeavesLinks
      (fun result links' => ∃ h, d.get result.allocation.type result.allocation.kind = some h ∧
        h.Created links result links')
      (fun _ links' => links'.Sublist links) links := by
  unfold prepareClaim
  dsimp only
  cases found : d.mustGet (d.parseConfig rc).type (d.parseConfig rc).getKind with
  | error err => exact List.Sublist.refl _
  | ok h =>
    have tracked := (get_tracked registry (get_of_mustGet found)).1
    simp only [Prog.leaves_bind, Prog.leaves_pure, Prog.leaves_tryCatch_throw]
    refine Prog.leavesLinks_of_free (Handler.validate_free tracked _) (fun _ => ?_) fun _ => List.Sublist.refl _
    refine ((Handler.prepare_leaves tracked _ links).leavesLinks.and_returns (Handler.prepare_returns h _)).mono
      (fun result _ ⟨created, answers⟩ => ⟨h, ?_, created⟩) fun _ _ => id
    have got := get_of_mustGet found
    rw [get, registry] at got ⊢
    rw [answers.2.1]
    exact buildHandlerRegistry_get_kinds got answers.2.2

section Steps

variable {g : World} {links : List LinkSpec}

/-- One claim of a prepare batch keeps the links owned and the claims the sidecars
restore recorded, whatever replies its steps get: a failed claim leaves only links that
were there, releasing what its handler created when the CDI spec cannot be written, and
a prepared claim records the link it created. -/
theorem Owned.prepareOne_leaves (owned : d.Owned g links) (rehydrated : Rehydrated d g) (rc : ResourceClaim) :
    (d.prepareOne rc).LeavesGhost (fun _ s => d.Owned s.1 s.2 ∧ Rehydrated d s.1)
      (fun _ s => d.Owned s.1 s.2 ∧ Rehydrated d s.1) (g, links) := by
  simp only [Driver.prepareOne, Prog.leaves_bind, Ghost.leaves_lookupAllocation]
  cases recorded : g.allocations.lookup rc.uid with
  | some alloc => exact ⟨owned, rehydrated⟩
  | none =>
    simp only [Prog.leaves_bind, Prog.leaves_attempt, Ghost.leaves_monadLift]
    refine ((prepareClaim_leaves d registry rc links).and_returns (prepareClaim_returns d rc)).mono ?_
      fun _ links' sub => ⟨owned.narrow sub rfl (.of_eq rfl), rehydrated⟩
    rintro result links' ⟨⟨h, found, created⟩, -, -, keyed, -⟩
    refine (d.leaves_createCDISpec g links' rc.uid result).mono ?_ ?_
    · rintro _ ⟨g', _⟩ ⟨rfl, allocations, files⟩
      simp only [Ghost.leaves_storeAllocation, Prog.leaves_bind, Prog.leaves_pure]
      exact owned.stored rehydrated recorded keyed (by rw [← allocations]) files found created
    · rintro _ ⟨g', links₁⟩ ⟨rfl, allocations, files⟩
      have release : d.unprepareAllocation result.allocation =
          h.unprepare ⟨result.allocation.claimUID, result.allocation⟩ := by
        simp [unprepareAllocation, found]
      simp only [release, Prog.leaves_bind, Prog.leaves_attempt, Ghost.leaves_monadLift, Prog.leaves_pure]
      refine (Handler.unprepare_leaves (get_tracked registry found).1 result.allocation links₁).mono
        (fun _ _ released => ?_) fun _ _ => False.elim
      exact ⟨owned.narrow (created.sublist_of_released released) allocations files,
        rehydrated.narrow allocations files⟩

/-- One claim of an unprepare batch keeps the links owned, whatever replies its steps
get: a claim with no record or no handler is left alone, and a released one, whose
`Unprepare` cannot fail, deletes the link its record names. -/
theorem Owned.unprepareOne_leaves (owned : d.Owned g links) (claimUID : String) :
    (d.unprepareOne claimUID).LeavesGhost (fun _ s => d.Owned s.1 s.2) (fun _ s => d.Owned s.1 s.2) (g, links) := by
  simp only [Driver.unprepareOne, Prog.leaves_bind, Ghost.leaves_lookupAllocation]
  cases recorded : g.allocations.lookup claimUID with
  | none => exact owned
  | some alloc =>
    simp only [Prog.leaves_bind, Prog.leaves_attempt, Ghost.leaves_monadLift]
    cases found : d.get alloc.type alloc.kind with
    | none =>
      simp only [unprepareAllocation, found]
      exact owned
    | some h =>
      simp only [unprepareAllocation, found]
      refine (Handler.unprepare_leaves (get_tracked registry found).1 alloc links).mono
        (fun _ links' released => ?_) fun _ _ => False.elim
      refine d.leaves_deleteCDISpec g links' claimUID fun g' allocations files => ?_
      simp only [Ghost.leaves_deleteAllocation, Prog.leaves_pure]
      exact owned.erased recorded found released (by rw [allocations]) files

end Steps

theorem Owned.prepareClaimsLoop_leaves (claims : List ResourceClaim) (results : GoMap KubeletPrepareResult)
    {g : World} {links : List LinkSpec} (owned : d.Owned g links) (rehydrated : Rehydrated d g) :
    (d.prepareClaimsLoop claims results).LeavesGhost (fun _ s => d.Owned s.1 s.2) (fun _ s => d.Owned s.1 s.2)
      (g, links) := by
  induction claims generalizing results g links with
  | nil => exact owned
  | cons rc rest ih =>
    simp only [Driver.prepareClaimsLoop, Prog.leaves_bind]
    exact (owned.prepareOne_leaves d registry rehydrated rc).mono (fun _ _ both => ih _ both.1 both.2)
      fun _ _ both => both.1

theorem Owned.unprepareClaimsLoop_leaves (claimUIDs : List String) (results : GoMap (Option String))
    {g : World} {links : List LinkSpec} (owned : d.Owned g links) :
    (d.unprepareClaimsLoop claimUIDs results).LeavesGhost (fun _ s => d.Owned s.1 s.2)
      (fun _ s => d.Owned s.1 s.2) (g, links) := by
  induction claimUIDs generalizing results g links with
  | nil => exact owned
  | cons claimUID rest ih =>
    simp only [Driver.unprepareClaimsLoop, Prog.leaves_bind]
    exact (owned.unprepareOne_leaves d registry claimUID).mono (fun _ _ owned' => ih _ owned') fun _ _ => id

/-- **A batch keeps the links owned, whatever replies its steps get.** The rehydration
keeps every owner's record, and each claim keeps the links owned. -/
theorem Owned.batchProgram_leaves {g : World} {links : List LinkSpec} (owned : d.Owned g links) (b : Batch) :
    (d.batchProgram b).LeavesGhost (fun _ s => d.Owned s.1 s.2) (fun _ s => d.Owned s.1 s.2) (g, links) := by
  have restored := owned.restoreAllocations
  cases b with
  | prepare claims =>
    simp only [batchProgram, prepareResourceClaims, Prog.leaves_discard, Prog.leaves_bind, leaves_restoreAllocations]
    exact restored.1.prepareClaimsLoop_leaves d registry claims ∅ restored.2
  | unprepare claimUIDs =>
    simp only [batchProgram, unprepareResourceClaims, Prog.leaves_discard, Prog.leaves_bind,
      leaves_restoreAllocations]
    exact restored.1.unprepareClaimsLoop_leaves d registry claimUIDs ∅

end Driver

end DraMultiDevice
