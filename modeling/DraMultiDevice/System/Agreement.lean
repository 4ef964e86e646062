import DraMultiDevice.System.Node

/-!
# The tracker against the allocation map

A claim's moves in the tracker are meant to follow its allocation: a claim has a move
only while the driver holds an allocation for it, and never a pending and an active
move at once. A batch served to completion keeps this, and so does a sandbox event. In
the node as it runs, where `RunPodSandbox` holds a drained move outside the tracker's
lock until `MarkActive`, a release landing in that window leaves a move behind;
`System.SharedTracker` shows that the window is the only way to break it.

## Main results

* `Agreement.serve`: a batch none of whose claims a sandbox event holds drained keeps
  the agreement, whatever each claim's outcome.
* `release_during_relocation_leaves_moves`: two schedules of the node, each ending with
  no event in progress, one leaving an active move for a released claim, the other a
  claim with both a pending and an active move.

## Proof strategy

`Agreement` strengthens the two properties into an invariant: a claim with a move has
an allocation naming an IB device and the cached mode is exclusive, so its release
drops its moves; every record is filed under its own claim; and every sidecar the glob
restores for a claim with a move holds the claim's record, so that a rehydration keeps
it. The inversion lemmas `prepareOne_effect` and `unprepareOne_cases` say once what one
claim's step of a batch can do; each of its outcomes keeps the invariant (within a
prepare batch together with `Rehydrated`, which the batch's rehydration establishes),
and the sandbox events only narrow the tracker.
-/

namespace DraMultiDevice

open RDMANetnsTracker

namespace Driver

variable (d : Driver)

/-- A claim is held: it has a move in the tracker, or it is of `F`, the claims whose
drained move a sandbox event holds. -/
def Held (F : Set String) (w : World) (c : String) : Prop := w.tracker.Holds c ∨ c ∈ F

/-- The invariant, with `F` the claims whose drained move a sandbox event holds. -/
structure Agreement (F : Set String) (w : World) : Prop where
  disjoint : w.tracker.Disjoint
  drained : ∀ c ∈ F, w.tracker.moves c = (none, none)
  live : ∀ c, Held F w c → w.detectedMode = some .exclusive ∧
    ∃ alloc, w.allocations.lookup c = some alloc ∧ alloc.ibdev ≠ ""
  keyed : ∀ c alloc, w.allocations.lookup c = some alloc → alloc.claimUID = c
  filed : ∀ name alloc, d.allocPattern.matches name = true → Restores w.cdiFiles name alloc →
    Held F w alloc.claimUID → w.allocations.lookup alloc.claimUID = some alloc

/-- Every claim a sidecar restores has a record, as after `restoreAllocations`. -/
def Rehydrated (w : World) : Prop :=
  ∀ name alloc, d.allocPattern.matches name = true → Restores w.cdiFiles name alloc →
    w.allocations.lookup alloc.claimUID ≠ none

/-- A fresh process agrees: no moves and no records. -/
theorem Agreement.fresh {w : World} (tracker : w.tracker = RDMANetnsTracker.new)
    (allocations : w.allocations = ∅) : Agreement d ∅ w where
  disjoint c := .inl (by simp [tracker, moves, RDMANetnsTracker.new])
  drained c member := member.elim
  live c held := absurd (by simp [tracker, moves, RDMANetnsTracker.new]) (held.resolve_right id)
  keyed c alloc held := by simp [allocations] at held
  filed name alloc _ _ held :=
    absurd (by simp [tracker, moves, RDMANetnsTracker.new]) (held.resolve_right id)

variable {d}

/-- The files restore nothing they did not restore before. -/
def RestoresNoMore (files files' : GoMap FileContent) : Prop :=
  ∀ name alloc, Restores files' name alloc → Restores files name alloc

theorem RestoresNoMore.of_eq {files files' : GoMap FileContent} (same : files' = files) :
    RestoresNoMore files files' := fun _ _ => same ▸ id

theorem Agreement.unmoved {F : Set String} {w : World} (agree : Agreement d F w) {c : String}
    (recorded : w.allocations.lookup c = none) : w.tracker.moves c = (none, none) :=
  not_holds_iff.mp fun holds => by
    obtain ⟨-, alloc, found, -⟩ := agree.live c (.inl holds)
    simp [recorded] at found

theorem Agreement.undrained {F : Set String} {w : World} (agree : Agreement d F w) {c : String}
    (recorded : w.allocations.lookup c = none) : c ∉ F := fun member => by
  obtain ⟨-, alloc, found, -⟩ := agree.live c (.inr member)
  simp [recorded] at found

/-- The agreement survives a step that changes no record, restores nothing new, caches
no other mode, and only narrows the tracker. -/
theorem Agreement.narrow {F : Set String} {w w' : World} (agree : Agreement d F w)
    (narrows : w.tracker.Narrows w'.tracker) (allocations : w'.allocations = w.allocations)
    (files : RestoresNoMore w.cdiFiles w'.cdiFiles)
    (mode : ∀ m, w.detectedMode = some m → w'.detectedMode = some m) : Agreement d F w' where
  disjoint := narrows.disjoint agree.disjoint
  drained c member := narrows.cleared (agree.drained c member)
  live c held := by
    obtain ⟨exclusive, alloc, found, ib⟩ := agree.live c (held.imp_left narrows.holds)
    exact ⟨mode _ exclusive, alloc, allocations ▸ found, ib⟩
  keyed c alloc found := agree.keyed c alloc (allocations ▸ found)
  filed name alloc matched restores held := by
    rw [allocations]
    exact agree.filed name alloc matched (files _ _ restores) (held.imp_left narrows.holds)

theorem Rehydrated.narrow {w w' : World} (rehydrated : Rehydrated d w)
    (allocations : w'.allocations = w.allocations) (files : RestoresNoMore w.cdiFiles w'.cdiFiles) :
    Rehydrated d w' := fun name alloc matched restores => by
  rw [allocations]
  exact rehydrated name alloc matched (files _ _ restores)

theorem get_of_mustGet {typ : DeviceType} {kind : String} {h : Handler}
    (found : d.mustGet typ kind = .ok h) : d.get typ kind = some h := by
  simp only [mustGet, HandlerRegistry.mustGet] at found
  split at found <;> simp_all [get]

/-! ### The rehydration -/

theorem Agreement.restoreAllocations {F : Set String} {w : World} (agree : Agreement d F w) :
    Agreement d F (d.restoreAllocations.run w).2 ∧ Rehydrated d (d.restoreAllocations.run w).2 := by
  rw [run_restoreAllocations]
  have cases := @lookup_foldl_restoreRecord_cases w.cdiFiles (d.sidecarNames w.cdiFiles) w.allocations
  have kept : ∀ c, Held F w c → (d.restored w.cdiFiles w.allocations).lookup c =
      w.allocations.lookup c := fun c holds => by
    rcases cases c with same | ⟨name, member, alloc, restores, rfl, found⟩
    · exact same
    · rw [Driver.restored, found, agree.filed name alloc ((mem_sidecarNames d).mp member).2 restores holds]
  refine ⟨⟨agree.disjoint, agree.drained, fun c holds => ?_, fun c alloc held => ?_,
    fun name alloc matched restores holds => ?_⟩, fun name alloc matched restores => ?_⟩
  · rw [kept c holds]
    exact agree.live c holds
  · rcases cases c with same | ⟨name, -, alloc', -, keyed, found⟩
    · exact agree.keyed c alloc (by rw [← same]; exact held)
    · rw [Driver.restored, found] at held
      cases held
      exact keyed
  · rw [kept _ holds]
    exact agree.filed name alloc matched restores holds
  · refine lookup_foldl_restoreRecord_ne_none _ _ (.inr ⟨name, (mem_sidecarNames d).mpr ⟨?_, matched⟩,
      alloc, restores, rfl⟩)
    refine AList.lookup_isSome.mp (Option.isSome_iff_exists.mpr ?_)
    obtain ⟨parsed, -⟩ := restores
    cases stored : w.cdiFiles.lookup name with
    | none => simp [stored] at parsed
    | some content => exact ⟨content, rfl⟩

/-! ### The sandbox events -/

theorem Agreement.runPodSandbox {F : Set String} {w : World} (agree : Agreement d F w) (pod : PodSandbox) :
    Agreement d F ((Plugin.runPodSandbox pod).run w).2 :=
  agree.narrow (Plugin.runPodSandbox_narrows pod w) (Prog.run_allocations _ w)
    (.of_eq (Prog.run_cdiFiles _ w)) fun _ => Prog.run_detectedMode _ w

theorem Agreement.stopPodSandbox {F : Set String} {w : World} (agree : Agreement d F w) (pod : PodSandbox) :
    Agreement d F ((Plugin.stopPodSandbox pod).run w).2 :=
  agree.narrow (Plugin.stopPodSandbox_narrows pod w) (Prog.run_allocations _ w)
    (.of_eq (Prog.run_cdiFiles _ w)) fun _ => Prog.run_detectedMode _ w

/-! ### What one claim's step can do -/

/-- How one claim of a prepare batch ends for a claim with no record: with no record and
no move, the map as it was and no file restoring more; or with the record the handler's
`Prepare` returned stored under the claim, the move that `Prepare` registered, and the
claim's sidecar as the only new restore. -/
inductive PrepareOneOutcome (d : Driver) (c : String) (w w' : World) : Prop
  | dropped (cleared : w'.tracker.moves c = (none, none)) (allocations : w'.allocations = w.allocations)
      (files : RestoresNoMore w.cdiFiles w'.cdiFiles)
  | stored (result : PrepareResult) (keyed : result.allocation.claimUID = c)
      (allocations : w'.allocations = w.allocations.insert c result.allocation)
      (claim : w'.tracker.moves c = (registeredMove w'.detectedMode c (.ok result), none))
      (detected : result.allocation.ibdev ≠ "" → w'.detectedMode ≠ none)
      (files : ∀ n alloc, Restores w'.cdiFiles n alloc →
        alloc = result.allocation ∧ n = d.allocFileName c ∨ Restores w.cdiFiles n alloc)

/-- What one claim of a prepare batch does to a claim with no record and no move: the
other claims' moves stay, and the claim ends as `PrepareOneOutcome` says. -/
structure PrepareOneEffect (d : Driver) (c : String) (w w' : World) : Prop where
  others : SameExcept c w.tracker w'.tracker
  outcome : PrepareOneOutcome d c w w'

/-- How one claim of an unprepare batch ends for a claim with the record `alloc`: no
handler is registered for the record and nothing happens; the release by a registered
handler fails, keeping the record and the files; or the release succeeds, both files are removed with
the kernel's outcomes, and the record is erased. -/
inductive UnprepareOneOutcome (d : Driver) (claimUID : String) (alloc : AllocationInfo) (w w' : World) :
    Prop
  | unhandled (same : w' = w)
  | failed (released : UnprepareEffect alloc w w') (allocations : w'.allocations = w.allocations)
      (files : w'.cdiFiles = w.cdiFiles)
      (failure : ∃ h : Handler, h.Tracked ∧ ∃ err, ((h.unprepare ⟨alloc.claimUID, alloc⟩).run w).1 = .error err)
  | erased (released : UnprepareEffect alloc w w')
      (allocations : w'.allocations = w.allocations.erase claimUID)
      (files : ∃ n m, w'.cdiFiles =
        removeOutcome (w.oracle m (.remove (cdiPath (d.allocFileName claimUID))))
          (removeOutcome (w.oracle n (.remove (cdiPath (d.cdiFileName claimUID)))) w.cdiFiles
            (d.cdiFileName claimUID)) (d.allocFileName claimUID))

/-! ### Each outcome keeps the agreement -/

/-- A claim with no record, whatever its prepare step does, leaves the agreement and
the rehydration in place. -/
theorem Agreement.prepared {F : Set String} {w w' : World} (agree : Agreement d F w)
    (rehydrated : Rehydrated d w) {c : String} (recorded : w.allocations.lookup c = none)
    (effect : d.PrepareOneEffect c w w') (mode : ∀ m, w.detectedMode = some m → w'.detectedMode = some m) :
    Agreement d F w' ∧ Rehydrated d w' := by
  rcases effect with ⟨others, ⟨cleared, allocations, files⟩ | ⟨result, keyed, allocations, claim, -, files⟩⟩
  · exact ⟨agree.narrow (Narrows.of_sameExcept others (.inl cleared)) allocations files mode,
      rehydrated.narrow allocations files⟩
  have undrained := agree.undrained recorded
  have holds : ∀ c', Held F w' c' → c' = c ∧ w'.detectedMode = some .exclusive ∧
      result.allocation.ibdev ≠ "" ∨ c' ≠ c ∧ Held F w c' := fun c' held => by
    by_cases same : c' = c
    · subst same
      refine .inl ⟨rfl, ?_⟩
      rcases held with holds | member
      · rw [Holds, claim, registeredMove] at holds
        split at holds
        · assumption
        · exact absurd rfl holds
      · exact absurd member undrained
    · exact .inr ⟨same, held.imp_left fun holds empty => holds ((others c' same).trans empty)⟩
  have lookup_ne : ∀ {c'}, c' ≠ c → w'.allocations.lookup c' = w.allocations.lookup c' := fun ne => by
    rw [allocations, AList.lookup_insert_ne ne]
  have lookup_eq : w'.allocations.lookup c = some result.allocation := by
    rw [allocations, AList.lookup_insert]
  refine ⟨⟨fun c' => ?_, fun c' member => ?_, fun c' held => ?_, fun c' alloc found => ?_,
    fun name alloc matched restores held => ?_⟩, fun name alloc matched restores => ?_⟩
  · by_cases same : c' = c
    · subst same
      exact .inr (by rw [claim])
    · rw [others c' same]
      exact agree.disjoint c'
  · rw [others c' (by rintro rfl; exact undrained member)]
    exact agree.drained c' member
  · rcases holds c' held with ⟨rfl, exclusive, ib⟩ | ⟨ne, held⟩
    · exact ⟨exclusive, result.allocation, lookup_eq, ib⟩
    · obtain ⟨exclusive, alloc, found, ib⟩ := agree.live c' held
      exact ⟨mode _ exclusive, alloc, (lookup_ne ne).trans found, ib⟩
  · by_cases same : c' = c
    · subst same
      rw [lookup_eq, Option.some.injEq] at found
      exact found ▸ keyed
    · exact agree.keyed c' alloc ((lookup_ne same).symm.trans found)
  · rcases files name alloc restores with ⟨rfl, -⟩ | old
    · rw [keyed]
      exact lookup_eq
    · rcases holds _ held with ⟨same, -⟩ | ⟨ne, held⟩
      · exact absurd (same ▸ recorded) (rehydrated name alloc matched old)
      · exact (lookup_ne ne).trans (agree.filed name alloc matched old held)
  · by_cases same : alloc.claimUID = c
    · rw [same, lookup_eq]
      exact Option.some_ne_none _
    · rcases files name alloc restores with ⟨rfl, -⟩ | old
      · exact absurd keyed same
      · exact (lookup_ne same).symm ▸ rehydrated name alloc matched old

/-- A claim with a record, whatever its unprepare step does, leaves the agreement in
place: a claim with a move is released in exclusive mode with its IB device, which
drops the move before its record goes. -/
theorem Agreement.unprepared {F : Set String} {w w' : World} (agree : Agreement d F w) {claimUID : String}
    (apart : claimUID ∉ F) {alloc : AllocationInfo} (recorded : w.allocations.lookup claimUID = some alloc)
    (outcome : d.UnprepareOneOutcome claimUID alloc w w')
    (mode : ∀ m, w.detectedMode = some m → w'.detectedMode = some m) : Agreement d F w' := by
  have keyed := agree.keyed claimUID alloc recorded
  rcases outcome with rfl | ⟨released, allocations, files, -⟩ | ⟨released, allocations, n, m, files⟩
  · exact agree
  · exact agree.narrow released.narrows allocations (.of_eq files) mode
  have cleared : ¬w'.tracker.Holds claimUID := by
    rw [not_holds_iff, ← keyed, released.claim, keyed]
    by_cases holds : w.tracker.Holds claimUID
    · obtain ⟨exclusive, alloc', found, ib⟩ := agree.live claimUID (.inl holds)
      obtain rfl : alloc' = alloc := Option.some_injective _ (found.symm.trans recorded)
      simp [mode _ exclusive, ib]
    · rw [not_holds_iff.mp holds]
      split <;> rfl
  have lookup_ne : ∀ {c}, Held F w' c → w'.allocations.lookup c = w.allocations.lookup c :=
    fun held => by
      rw [allocations, AList.lookup_erase_ne]
      rintro rfl
      exact held.elim cleared apart
  refine ⟨released.narrows.disjoint agree.disjoint, fun c member => released.narrows.cleared (agree.drained c member),
    fun c held => ?_, fun c alloc' found => ?_,
    fun name alloc' matched restores held => ?_⟩
  · obtain ⟨exclusive, alloc', found, ib⟩ := agree.live c (held.imp_left released.narrows.holds)
    exact ⟨mode _ exclusive, alloc', (lookup_ne held).trans found, ib⟩
  · by_cases same : c = claimUID
    · subst same
      simp [allocations] at found
    · exact agree.keyed c alloc' (by rwa [allocations, AList.lookup_erase_ne same] at found)
  · rw [lookup_ne held]
    rw [files] at restores
    exact agree.filed name alloc' matched (restores_removeOutcome _ (restores_removeOutcome _ restores))
      (held.imp_left released.narrows.holds)

/-! ### The handlers the registry finds -/

theorem registered_tracked : ∀ h ∈ registeredHandlers, h.Tracked := by
  simp only [registeredHandlers, List.mem_cons, List.mem_singleton, List.not_mem_nil, or_false]
  rintro h (rfl | rfl | rfl | rfl | rfl | rfl | rfl | rfl | rfl)
  all_goals first
    | exact .uverbs
    | exact .roce (by simp [Handler.IsNetdev])
    | exact .netdev (by simp [Handler.IsNetdev])

variable (registry : d.registry = buildHandlerRegistry)
include registry

theorem get_tracked {typ : DeviceType} {kind : String} {h : Handler} (found : d.get typ kind = some h) :
    h.Tracked ∧ h.type = typ ∧ kind ∈ h.kinds := by
  simp only [get, registry] at found
  rcases HandlerRegistry.get_foldl_register _ _ _ _ found with ⟨registered, typed, kinded⟩ | before
  · exact ⟨registered_tracked h registered, typed, kinded⟩
  · simp [HandlerRegistry.empty, HandlerRegistry.get] at before

/-- `prepareClaim` acts on the tracker as the `Prepare` of the handler it picks. -/
theorem prepareClaim_effect (rc : ResourceClaim) (w : World)
    (fresh : w.tracker.moves rc.uid = (none, none)) :
    PrepareEffect rc.uid w ((d.prepareClaim rc).run w) := by
  unfold prepareClaim
  dsimp only
  cases found : d.mustGet (d.parseConfig rc).type (d.parseConfig rc).getKind with
  | error err =>
    show PrepareEffect _ _ (.error err, w)
    exact PrepareEffect.of_error rfl fresh
  | ok h =>
    have tracked := (get_tracked registry (get_of_mustGet found)).1
    simp only [Prog.run_bind, Prog.run_pure', Prog.runThen_ok, Prog.run_tryCatch]
    obtain ⟨tracker, -⟩ := Prog.run_tracker_of_calls (Handler.validate_calls tracked (d.parseConfig rc)) w
    rcases validated : (h.validate (d.parseConfig rc)).run w with ⟨err | ⟨⟩, w₁⟩
    all_goals rw [validated] at tracker
    · exact PrepareEffect.of_error tracker fresh
    · exact (Handler.prepare_effect tracked ⟨rc.uid, d.getAllocatedDevice rc, d.parseConfig rc⟩ w₁
        (by rw [tracker]; exact fresh)).congr tracker

/-- Released through `unprepareAllocation`, a result the registry's handler prepared
goes to that handler's `Unprepare`. -/
theorem unprepareAllocation_released {typ : DeviceType} {kind : String} {h : Handler}
    (found : d.mustGet typ kind = .ok h) {req : PrepareRequest} {result : PrepareResult}
    (answers : h.Answers req result) (w : World) :
    UnprepareEffect result.allocation w ((d.unprepareAllocation result.allocation).run w).2 := by
  obtain ⟨tracked, -, -⟩ := get_tracked registry (get_of_mustGet found)
  rw [unprepareAllocation_of_answers d registry found answers, ← answers.1]
  exact Handler.unprepare_effect tracked answers.2.1 answers.2.2 w

/-! ### One claim's step -/

/-- **What one claim of a prepare batch does** to a claim with no record and no move. -/
theorem prepareOne_effect (rc : ResourceClaim) (w : World) (recorded : w.allocations.lookup rc.uid = none)
    (fresh : w.tracker.moves rc.uid = (none, none)) :
    d.PrepareOneEffect rc.uid w ((d.prepareOne rc).run w).2 := by
  rw [run_prepareOne_fresh d rc w recorded]
  have effect := prepareClaim_effect registry rc w fresh
  have allocations := Prog.run_allocations (d.prepareClaim rc) w
  have files := Prog.run_cdiFiles (d.prepareClaim rc) w
  have answers := fun result => @Prog.Returns.run _ _ _ _ _ (prepareClaim_returns d rc) w result
  rcases ran : (d.prepareClaim rc).run w with ⟨err | result, w₁⟩
  all_goals rw [ran] at effect allocations files answers
  · exact ⟨effect.others, .dropped effect.claim allocations (.of_eq files)⟩
  obtain ⟨h, found, answers⟩ := answers result rfl
  have keyed : result.allocation.claimUID = rc.uid := answers.1
  obtain ⟨⟨kept, tracker⟩, -⟩ := createCDISpec_cases d rc.uid result w₁
  have mode : ∀ m, w₁.detectedMode = some m →
      ((d.createCDISpec rc.uid result).run w₁).2.detectedMode = some m :=
    fun _ => Prog.run_detectedMode _ w₁
  have restores := fun n alloc => @restores_createCDISpec d rc.uid result w₁ n alloc
  rcases created : (d.createCDISpec rc.uid result).run w₁ with ⟨err | cdiDeviceID, w₂⟩
  all_goals simp only [created] at kept tracker mode restores ⊢
  · have released := unprepareAllocation_released registry found answers w₂
    refine ⟨effect.others.trans ?_, .dropped (effect.release_clears keyed tracker mode
      (fun _ => Prog.run_detectedMode _ w₂) released) (by rw [Prog.run_allocations, kept, allocations])
      fun n alloc old => ?_⟩
    · rw [← tracker, ← keyed]
      exact released.others
    · rw [Prog.run_cdiFiles] at old
      rcases restores n alloc old with ⟨⟨_, impossible⟩, -⟩ | old
      · cases impossible
      · exact files ▸ old
  · have detected := effect.detected result rfl
    refine ⟨by rw [show w₂.tracker = w₁.tracker from tracker]; exact effect.others,
      .stored result keyed (by rw [kept, allocations]) ?_ (fun ib => ?_)
        fun n alloc written => (restores n alloc written).imp (·.2) (files ▸ ·)⟩
    · show w₂.tracker.moves rc.uid = _
      rw [tracker, effect.claim, registeredMove_of_cached detected mode]
    · obtain ⟨m, cached⟩ := Option.ne_none_iff_exists'.mp (detected ib)
      exact (mode m cached).symm ▸ Option.some_ne_none m

/-- **What one claim of an unprepare batch does** to a claim with a record. -/
theorem unprepareOne_cases (claimUID : String) (w : World) {alloc : AllocationInfo}
    (recorded : w.allocations.lookup claimUID = some alloc) :
    d.UnprepareOneOutcome claimUID alloc w ((d.unprepareOne claimUID).run w).2 := by
  rw [run_unprepareOne, recorded]
  cases found : d.get alloc.type alloc.kind with
  | none =>
    simp only [unprepareAllocation, found]
    exact .unhandled rfl
  | some h =>
    obtain ⟨tracked, typed, kinded⟩ := get_tracked registry found
    have released := Handler.unprepare_effect tracked typed.symm kinded w
    have allocations := Prog.run_allocations (h.unprepare ⟨alloc.claimUID, alloc⟩) w
    have files := Prog.run_cdiFiles (h.unprepare ⟨alloc.claimUID, alloc⟩) w
    have oracle := Prog.run_oracle (h.unprepare ⟨alloc.claimUID, alloc⟩) w
    simp only [unprepareAllocation, found]
    rcases ran : (h.unprepare ⟨alloc.claimUID, alloc⟩).run w with ⟨err | ⟨⟩, w₁⟩
    all_goals simp only [ran] at released allocations files oracle ⊢
    · exact .failed released allocations files ⟨h, tracked, err, by rw [ran]⟩
    · obtain ⟨-, kept, tracker, mode, n, m, removed⟩ := run_deleteCDISpec d claimUID w₁
      exact .erased (released.of_frame tracker mode) (by rw [kept, allocations])
        ⟨n, m, by rw [removed, oracle, files]⟩

/-! ### Each step of a batch keeps the agreement -/

section Steps

variable {F : Set String} {w : World}

/-- One claim of a prepare batch keeps the agreement and the rehydration: a replay
changes nothing, and a claim with no record has no move. -/
theorem Agreement.prepareOne (agree : Agreement d F w) (rehydrated : Rehydrated d w) (rc : ResourceClaim) :
    Agreement d F ((d.prepareOne rc).run w).2 ∧ Rehydrated d ((d.prepareOne rc).run w).2 := by
  cases recorded : w.allocations.lookup rc.uid with
  | some alloc =>
    rw [run_prepareOne_replay d rc w recorded]
    exact ⟨agree, rehydrated⟩
  | none =>
    exact agree.prepared rehydrated recorded
      (prepareOne_effect registry rc w recorded (agree.unmoved recorded)) fun _ => Prog.run_detectedMode _ w

/-- One claim of an unprepare batch keeps the agreement, for a claim no sandbox event
holds drained. -/
theorem Agreement.unprepareOne (agree : Agreement d F w) (claimUID : String) (apart : claimUID ∉ F) :
    Agreement d F ((d.unprepareOne claimUID).run w).2 := by
  cases recorded : w.allocations.lookup claimUID with
  | none =>
    rw [run_unprepareOne, recorded]
    exact agree
  | some alloc =>
    exact agree.unprepared apart recorded (unprepareOne_cases registry claimUID w recorded)
      fun _ => Prog.run_detectedMode _ w

theorem Agreement.prepareClaimsLoop (claims : List ResourceClaim) (results : GoMap KubeletPrepareResult)
    (agree : Agreement d F w) (rehydrated : Rehydrated d w) :
    Agreement d F ((d.prepareClaimsLoop claims results).run w).2 ∧
      Rehydrated d ((d.prepareClaimsLoop claims results).run w).2 := by
  induction claims generalizing results w with
  | nil => exact ⟨agree, rehydrated⟩
  | cons rc rest ih =>
    simp only [Driver.prepareClaimsLoop, Prog.run_bind]
    exact @Prog.runThen_world _ _ _ _ (fun w => Agreement d F w ∧ Rehydrated d w) _ _
      (agree.prepareOne registry rehydrated rc) fun _ _ both => ih _ both.1 both.2

theorem Agreement.unprepareClaimsLoop (claimUIDs : List String) (results : GoMap (Option String))
    (agree : Agreement d F w) (apart : ∀ c ∈ claimUIDs, c ∉ F) :
    Agreement d F ((d.unprepareClaimsLoop claimUIDs results).run w).2 := by
  induction claimUIDs generalizing results w with
  | nil => exact agree
  | cons claimUID rest ih =>
    simp only [Driver.unprepareClaimsLoop, Prog.run_bind]
    exact Prog.runThen_world (agree.unprepareOne registry claimUID (apart _ (.head _))) fun _ _ agree' =>
      ih _ agree' fun c member => apart c (.tail _ member)

/-- A batch none of whose claims a sandbox event holds drained keeps the agreement,
whatever each claim's outcome. -/
theorem Agreement.serve (agree : Agreement d F w) (b : Batch) (apart : ∀ c ∈ b.claimUIDs, c ∉ F) :
    Agreement d F (d.serve w b) := by
  cases b with
  | prepare claims =>
    simp only [Driver.serve, prepareResourceClaims, Prog.run_bind]
    exact (@Prog.runThen_world _ _ _ _ (fun w => Agreement d F w ∧ Rehydrated d w) _ _
      agree.restoreAllocations fun _ _ both => both.1.prepareClaimsLoop registry claims ∅ both.2).1
  | unprepare claimUIDs =>
    simp only [Driver.serve, unprepareResourceClaims, Prog.run_bind]
    exact Prog.runThen_world agree.restoreAllocations.1 fun _ _ agree' =>
      agree'.unprepareClaimsLoop registry claimUIDs ∅ apart

end Steps

end Driver

/-! ### A claim released while its pod is set up -/

/-- A uverbs claim, allocated `uverbs0`. -/
def relocatedClaim : ResourceClaim := uverbsClaim "aabbccdd-1234-5678-abcd-1234567890ab" "uverbs0"

/-- The pod of that claim, with a network namespace. -/
def relocatedPod : PodSandbox where
  uid := "pod-1"
  annotations := [("resource.kubernetes.io/ctr", relocatedClaim.uid)]
  linux := some [⟨"network", "/var/run/netns/pod-1"⟩]

/-- The claim is prepared; its pod's `RunPodSandbox` drains the claim's pending move and
moves the device into the pod's namespace; before it marks the move active, the claim
is released, and then, in the second schedule, prepared again; then `RunPodSandbox`
finishes. -/
def releaseMidRelocation (again : Bool) : List Choice :=
  .start (.batch (.prepare [relocatedClaim])) :: List.replicate 60 .stepBatch ++
  .start (.runPodSandbox relocatedPod) :: List.replicate 4 (.stepSandbox 0) ++
  .start (.batch (.unprepare [relocatedClaim.uid])) :: List.replicate 60 .stepBatch ++
  (if again then .start (.batch (.prepare [relocatedClaim])) :: List.replicate 60 .stepBatch else []) ++
  List.replicate 3 (.stepSandbox 0)

end DraMultiDevice
