import DraMultiDevice.System.Memory
import DraMultiDevice.System.Confinement

/-!
# The tracker against the allocation map under interleavings

`System.Agreement` shows that the tracker agrees with the allocation map when the node
serves its events one after another, and that the agreement breaks when a release of a
claim lands in the window where `RunPodSandbox` holds the claim's drained move outside the
tracker's lock. This module shows that the window is the only way to break it: under
every interleaving of batches and sandbox events in which a batch starts only when no
sandbox event in progress may give back a move of one of its claims, and no sandbox step
changes the moves of the claims of the batch in progress, the agreement holds whenever no
batch is in progress.

## Main result

`Driver.interleaved_runs_keep_tracker_agreement`.

## Proof strategy

Each sandbox event in progress holds the claims it drained and may still give back
(`Prog.Follows`), and the events hold disjoint sets of claims (`Node.Holding`).
`Agreement d F` counts the claims `F` they hold as held, and each of their steps keeps it.
A batch in progress is followed by a ghost world: the memory as the batch alone would see
it. `Prog.leaves_of_runs` reads `Agreement.serve` as a statement over every reply the ghost
allows, and `Driver.batchProgram_confined` says that a batch touches only the moves of its
own claims. So the world mirrors the ghost on the batch's claims, on the map and on the
files (`Driver.Mirror`) however the sandbox steps fall between the batch's, and when the
batch ends the ghost's agreement is the world's (`Agreement.of_mirror`).
-/

namespace DraMultiDevice

open RDMANetnsTracker

/-! ### What a step does to the memory -/

namespace Memory

/-- A step leaves the memory `Memory.step` gives for the reply it gets. -/
theorem step_exec (o : DriverOp) (w : World) :
    (step w o (AtomicOp.exec o w).1).SameMemory (AtomicOp.exec o w).2 := by
  cases o with
  | node o =>
    cases o with
    | detectNetnsMode =>
      show (step w (.node .detectNetnsMode) w.detectNetnsMode.1).SameMemory w.detectNetnsMode.2
      unfold World.detectNetnsMode
      split
      · next cached => exact ⟨rfl, rfl, rfl, cached⟩
      · exact ⟨rfl, rfl, rfl, rfl⟩
    | _ => exact ⟨rfl, rfl, rfl, rfl⟩
  | _ => exact ⟨rfl, rfl, rfl, rfl⟩

/-- The map, the files and the cached mode after a step depend only on theirs before. -/
theorem step_congr {w g : World} (allocations : w.allocations = g.allocations) (cdiFiles : w.cdiFiles = g.cdiFiles)
    (detectedMode : w.detectedMode = g.detectedMode) (o : DriverOp) (r : o.Resp) :
    (step w o r).allocations = (step g o r).allocations ∧ (step w o r).cdiFiles = (step g o r).cdiFiles ∧
      (step w o r).detectedMode = (step g o r).detectedMode := by
  cases o
  case node o => cases o <;> exact ⟨allocations, cdiFiles, by first | exact detectedMode | rfl⟩
  all_goals simp only [step, allocations, cdiFiles, detectedMode, and_self]

variable {C : String → Prop} {o : NodeOp}

/-- A step touching only claims of `C` leaves every other claim's moves. -/
theorem step_moves_outside (touches : o.Touches C) (g : World) (r : o.Resp) {c : String} (outside : ¬C c) :
    (step g (.node o) r).tracker.moves c = g.tracker.moves c := by
  have other : ∀ {c'}, C c' → c ≠ c' := fun inside same => outside (same ▸ inside)
  cases o
  case addPending c' _ | removePending c' | markActive c' _ _ _ | removeActive c' =>
    simp [step, other touches]
  case consumePendingForClaims | removeActiveForPod => exact touches.elim
  all_goals rfl

/-- What a step touching one claim at a time does to a claim's moves depends only on the
claim's moves. -/
theorem step_moves_congr (touches : o.Touches C) {w g : World} (r r' : o.Resp) {c : String}
    (same : w.tracker.moves c = g.tracker.moves c) :
    (step w (.node o) r).tracker.moves c = (step g (.node o) r').tracker.moves c := by
  cases o
  case addPending c' _ | removePending c' | markActive c' _ _ _ | removeActive c' =>
    by_cases here : c = c'
    · subst here
      simp [step, same]
    · simp [step, here, same]
  case consumePendingForClaims | removeActiveForPod => exact touches.elim
  all_goals exact same

end Memory

/-! ### The world mirrors the batch's ghost -/

namespace Driver

variable {d : Driver} {K : List String} {F F₀ : Set String} {w g : World}

theorem Agreement.anti (agree : Agreement d F w) {F' : Set String} (sub : F' ⊆ F) : Agreement d F' w where
  disjoint := agree.disjoint
  drained c member := agree.drained c (sub member)
  live c held := agree.live c (held.imp_right fun member => sub member)
  keyed := agree.keyed
  filed name alloc matched restores held :=
    agree.filed name alloc matched restores (held.imp_right fun member => sub member)

/-- The world `w` mirrors the ghost `g` of a batch on the claims `K`, while the sandbox
events hold the claims `F` and the ghost counts `F₀` held: the same map, files and cached
mode, every record filed under its claim, and the same moves for the batch's claims, none
of them held by a sandbox event; every other claim is held in the world only if it is in
the ghost, and has never both a pending and an active move; a held claim has no move. -/
structure Mirror (K : List String) (F F₀ : Set String) (w g : World) : Prop where
  allocations : w.allocations = g.allocations
  cdiFiles : w.cdiFiles = g.cdiFiles
  detectedMode : w.detectedMode = g.detectedMode
  keyed : ∀ c alloc, w.allocations.lookup c = some alloc → alloc.claimUID = c
  batch : ∀ c ∈ K, w.tracker.moves c = g.tracker.moves c ∧ c ∉ F
  others : ∀ c ∉ K, Held F w c → Held F₀ g c
  disjoint : ∀ c ∉ K, (w.tracker.moves c).1 = none ∨ (w.tracker.moves c).2 = none
  drained : ∀ c ∈ F, w.tracker.moves c = (none, none)

namespace Mirror

/-- An agreeing world mirrors itself, for a batch on claims no sandbox event holds. -/
theorem of_agreement (agree : Agreement d F w) (apart : ∀ c ∈ K, c ∉ F) : Mirror K F F w w :=
  ⟨rfl, rfl, rfl, agree.keyed, fun c member => ⟨rfl, apart c member⟩, fun _ _ => id,
    fun c _ => agree.disjoint c, agree.drained⟩

theorem held (mirror : Mirror K F F₀ w g) {c : String} (held : Held F w c) : Held F₀ g c := by
  by_cases batch : c ∈ K
  · obtain ⟨same, free⟩ := mirror.batch c batch
    exact .inl (by simpa only [Holds, same] using held.resolve_right free)
  · exact mirror.others c batch held

/-- A step that narrows the tracker, leaves the moves of the batch's claims, and changes
nothing else the mirror reads keeps it. -/
theorem narrow (mirror : Mirror K F F₀ w g) {w' : World} (narrows : w.tracker.Narrows w'.tracker)
    (allocations : w'.allocations = w.allocations) (cdiFiles : w'.cdiFiles = w.cdiFiles)
    (detectedMode : w'.detectedMode = w.detectedMode) (kept : ∀ c ∈ K, w'.tracker.moves c = w.tracker.moves c) :
    Mirror K F F₀ w' g where
  allocations := allocations.trans mirror.allocations
  cdiFiles := cdiFiles.trans mirror.cdiFiles
  detectedMode := detectedMode.trans mirror.detectedMode
  keyed c alloc found := mirror.keyed c alloc (allocations ▸ found)
  batch c member := ⟨(kept c member).trans (mirror.batch c member).1, (mirror.batch c member).2⟩
  others c outside held := mirror.others c outside (held.imp_left narrows.holds)
  disjoint c outside := narrows.disjoint_at (mirror.disjoint c outside)
  drained c member := narrows.cleared (mirror.drained c member)

theorem of_same (mirror : Mirror K F F₀ w g) {w' : World} (same : w.SameMemory w') : Mirror K F F₀ w' g :=
  mirror.narrow (same.tracker ▸ Narrows.refl w.tracker) same.allocations same.cdiFiles same.detectedMode
    fun c _ => by rw [same.tracker]

/-- A step of the batch, confined to its claims, keeps the mirror of the ghost's step. -/
theorem step (mirror : Mirror K F F₀ w g) {o : DriverOp} (confined : o.Confined (· ∈ K)) (r : o.Resp) :
    Mirror K F F₀ (Memory.step w o r) (Memory.step g o r) := by
  obtain ⟨allocations, cdiFiles, detectedMode⟩ :=
    Memory.step_congr mirror.allocations mirror.cdiFiles mirror.detectedMode o r
  have moves : (∀ c ∈ K, (Memory.step w o r).tracker.moves c = (Memory.step g o r).tracker.moves c) ∧
      ∀ c ∉ K, (Memory.step w o r).tracker.moves c = w.tracker.moves c ∧
        (Memory.step g o r).tracker.moves c = g.tracker.moves c := by
    cases o
    case node o =>
      exact ⟨fun c member => Memory.step_moves_congr confined r r (mirror.batch c member).1, fun c outside =>
        ⟨Memory.step_moves_outside confined w r outside, Memory.step_moves_outside confined g r outside⟩⟩
    all_goals exact ⟨fun c member => (mirror.batch c member).1, fun _ _ => ⟨rfl, rfl⟩⟩
  have keyed : ∀ c alloc, (Memory.step w o r).allocations.lookup c = some alloc → alloc.claimUID = c := by
    intro c alloc found
    cases o
    case storeAllocation c' alloc' =>
      simp only [Memory.step, lookup_insert_eq_ite] at found
      split at found
      · cases found
        exact confined.trans ‹c = c'›.symm
      · exact mirror.keyed c alloc found
    case deleteAllocation c' =>
      simp only [Memory.step, lookup_erase_eq_ite] at found
      split at found
      · cases found
      · exact mirror.keyed c alloc found
    case node o => cases o <;> exact mirror.keyed c alloc found
    all_goals exact mirror.keyed c alloc found
  refine ⟨allocations, cdiFiles, detectedMode, keyed, fun c member => ⟨moves.1 c member, (mirror.batch c member).2⟩,
    fun c outside held => ?_, fun c outside => ?_, fun c member => ?_⟩
  · have held' := mirror.others c outside (by simpa only [Held, Holds, (moves.2 c outside).1] using held)
    simpa only [Held, Holds, (moves.2 c outside).2] using held'
  · rw [(moves.2 c outside).1]
    exact mirror.disjoint c outside
  · have outside : c ∉ K := fun batch => (mirror.batch c batch).2 member
    rw [(moves.2 c outside).1]
    exact mirror.drained c member

/-- The ghost allows the reply the world gives a step of the batch. -/
theorem allowed (mirror : Mirror K F F₀ w g) {o : DriverOp} (confined : o.Confined (· ∈ K)) :
    Memory.Allowed g o (AtomicOp.exec o w).1 := by
  cases o
  case node o =>
    cases o
    case removeActive c =>
      show (w.tracker.removeActive c).1 = (g.tracker.removeActive c).1
      rw [(removeActive_spec _ c).1, (removeActive_spec _ c).1]
      exact congrArg Prod.snd (mirror.batch c confined).1
    case detectNetnsMode =>
      intro mode cached
      show w.detectNetnsMode.1 = mode
      rw [World.detectNetnsMode_of_cached (mirror.detectedMode.trans cached)]
    case consumePendingForClaims | removeActiveForPod => exact confined.elim
    all_goals trivial
  case lookupAllocation c => exact congrArg (·.lookup c) mirror.allocations
  case glob pattern => exact congrArg (fun files => (files.keys.filter pattern.matches).insertionSort (· ≤ ·)) mirror.cdiFiles
  case readFile name => exact congrArg (·.lookup name) mirror.cdiFiles
  all_goals trivial

/-- **A step of the batch.** The ghost allows the reply the world gives it, a lookup
answers a record filed under its claim, and the world after it mirrors the ghost after
it. -/
theorem batch_step (mirror : Mirror K F F₀ w g) {o : DriverOp} (confined : o.Confined (· ∈ K)) :
    Memory.Allowed g o (AtomicOp.exec o w).1 ∧ DriverOp.KeyedLookup o (AtomicOp.exec o w).1 ∧
      Mirror K F F₀ (AtomicOp.exec o w).2 (Memory.step g o (AtomicOp.exec o w).1) := by
  refine ⟨mirror.allowed confined, ?_, (mirror.step confined _).of_same (Memory.step_exec o w)⟩
  cases o
  case lookupAllocation c => exact mirror.keyed c
  all_goals trivial

end Mirror

/-- **Transfer.** The ghost's agreement is the world's. -/
theorem Agreement.of_mirror (agree : Agreement d F₀ g) (mirror : Mirror K F F₀ w g) : Agreement d F w where
  disjoint c := by
    by_cases batch : c ∈ K
    · rw [(mirror.batch c batch).1]
      exact agree.disjoint c
    · exact mirror.disjoint c batch
  drained := mirror.drained
  live c held := by
    rw [mirror.detectedMode, mirror.allocations]
    exact agree.live c (mirror.held held)
  keyed := mirror.keyed
  filed name alloc matched restores held := by
    rw [mirror.allocations]
    exact agree.filed name alloc matched (mirror.cdiFiles ▸ restores) (mirror.held held)

namespace Mirror

variable {H R : Set String}

theorem anti (mirror : Mirror K F F₀ w g) {F' : Set String} (sub : F' ⊆ F) : Mirror K F' F₀ w g where
  allocations := mirror.allocations
  cdiFiles := mirror.cdiFiles
  detectedMode := mirror.detectedMode
  keyed := mirror.keyed
  batch c member := ⟨(mirror.batch c member).1, fun inside => (mirror.batch c member).2 (sub inside)⟩
  others c outside held := mirror.others c outside (held.imp_right fun member => sub member)
  disjoint := mirror.disjoint
  drained c member := mirror.drained c (sub member)

/-- A sandbox event gives back a move of a claim `c` it holds: the claim gets one move, and
every other claim keeps its moves. -/
theorem give (mirror : Mirror K (H ∪ R) F₀ w g) (apart : ∀ c ∈ H, c ∉ R) {c : String} (held : c ∈ H) {w' : World}
    (allocations : w'.allocations = w.allocations) (cdiFiles : w'.cdiFiles = w.cdiFiles)
    (detectedMode : w'.detectedMode = w.detectedMode)
    (others : ∀ c' ≠ c, w'.tracker.moves c' = w.tracker.moves c')
    (one : (w'.tracker.moves c).1 = none ∨ (w'.tracker.moves c).2 = none) :
    (∀ c' ∈ H \ {c}, c' ∉ R) ∧ Mirror K (H \ {c} ∪ R) F₀ w' g := by
  have sub : H \ {c} ∪ R ⊆ H ∪ R := Set.union_subset_union_left R Set.diff_subset
  have outside : c ∉ K := fun batch => (mirror.batch c batch).2 (.inl held)
  have ne : ∀ {c'}, c' ∈ H \ {c} ∪ R → c' ≠ c := by
    rintro c' (⟨-, other⟩ | right) rfl
    · exact other rfl
    · exact apart _ held right
  refine ⟨fun c' member => apart c' member.1, allocations.trans mirror.allocations, cdiFiles.trans mirror.cdiFiles,
    detectedMode.trans mirror.detectedMode, fun c' alloc found => mirror.keyed c' alloc (allocations ▸ found),
    fun c' member => ?_, fun c' outside' held' => ?_, fun c' outside' => ?_, fun c' member => ?_⟩
  · have other : c' ≠ c := fun same => outside (same ▸ member)
    exact ⟨(others c' other).trans (mirror.batch c' member).1, fun inside => (mirror.batch c' member).2 (sub inside)⟩
  · by_cases here : c' = c
    · subst here
      exact mirror.others c' outside' (.inr (.inl held))
    · refine mirror.others c' outside' ?_
      unfold Held Holds at held' ⊢
      rw [others c' here] at held'
      exact held'.imp_right fun inside => sub inside
  · by_cases here : c' = c
    · subst here
      exact one
    · rw [others c' here]
      exact mirror.disjoint c' outside'
  · rw [others c' (ne member)]
    exact mirror.drained c' (sub member)

/-- A drain hands the sandbox event claims `S` that no longer have a move, none of them
the batch's, all of them held in the ghost. -/
theorem extend (mirror : Mirror K F F₀ w g) {S : Set String} (outside : ∀ c ∈ S, c ∉ K)
    (empty : ∀ c ∈ S, w.tracker.moves c = (none, none)) (held : ∀ c ∈ S, Held F₀ g c) : Mirror K (F ∪ S) F₀ w g where
  allocations := mirror.allocations
  cdiFiles := mirror.cdiFiles
  detectedMode := mirror.detectedMode
  keyed := mirror.keyed
  batch c member := ⟨(mirror.batch c member).1, fun inside =>
    inside.elim (mirror.batch c member).2 fun drained => outside c drained member⟩
  others c outside' held' := by
    rcases held' with holds | inF | inS
    exacts [mirror.others c outside' (.inl holds), mirror.others c outside' (.inr inF), held c inS]
  disjoint := mirror.disjoint
  drained c member := member.elim (mirror.drained c) (empty c)

/-- **A step of a sandbox event** holding `H`, beside events holding `R`, that leaves the
moves of the batch's claims: a drain returns moves of distinct claims held by no event,
and the world after the step mirrors the same ghost, with the claims the event holds
after it. -/
theorem sandbox_step (mirror : Mirror K (H ∪ R) F₀ w g) (apart : ∀ c ∈ H, c ∉ R) {o : NodeOp}
    (gives : o.GivesHeld H) (kept : ∀ c ∈ K, (AtomicOp.exec o w).2.tracker.moves c = w.tracker.moves c) :
    o.DrainsDistinct (AtomicOp.exec o w).1 ∧ (∀ c ∈ o.holding H (AtomicOp.exec o w).1, c ∉ R) ∧
      Mirror K (o.holding H (AtomicOp.exec o w).1 ∪ R) F₀ (AtomicOp.exec o w).2 g := by
  cases o
  case kernel call => exact ⟨trivial, apart, mirror.of_same ⟨rfl, rfl, rfl, rfl⟩⟩
  case invoke h call => exact ⟨trivial, apart, mirror.of_same ⟨rfl, rfl, rfl, rfl⟩⟩
  case removePending | removeActive | detectNetnsMode => exact gives.elim
  case removeActiveForPod pod => exact ⟨trivial, apart, mirror.narrow (removeActiveForPod_narrows _ _) rfl rfl rfl kept⟩
  case addPending c i =>
    have empty := mirror.drained c (.inl gives)
    refine ⟨trivial, mirror.give apart gives rfl rfl rfl (fun c' other => ?_) (.inr ?_)⟩
    · exact (moves_addPending _ _ _ _).trans (if_neg other)
    · show ((w.tracker.addPending c i).moves c).2 = none
      rw [moves_addPending, if_pos rfl]
      exact congrArg Prod.snd empty
  case markActive c pod i ns =>
    have empty := mirror.drained c (.inl gives)
    refine ⟨trivial, mirror.give apart gives rfl rfl rfl (fun c' other => ?_) (.inl ?_)⟩
    · exact (moves_markActive _ _ _ _ _ _).trans (if_neg other)
    · show ((w.tracker.markActive c pod i ns).moves c).1 = none
      rw [moves_markActive, if_pos rfl]
      exact congrArg Prod.fst empty
  case consumePendingForClaims cs =>
    obtain ⟨nodup, members⟩ := consumePendingForClaims_moves w.tracker cs
    have was : ∀ c ∈ (w.tracker.consumePendingForClaims cs).1.map PendingMove.claimUID, (w.tracker.moves c).1 ≠ none := by
      intro c member
      obtain ⟨m, drained, rfl⟩ := List.mem_map.mp member
      simp [moves, ((members m).mp drained).2]
    have now : ∀ c ∈ (w.tracker.consumePendingForClaims cs).1.map PendingMove.claimUID,
        (w.tracker.consumePendingForClaims cs).2.moves c = (none, (w.tracker.moves c).2) := by
      intro c member
      obtain ⟨m, drained, rfl⟩ := List.mem_map.mp member
      simp [moves, consumePendingForClaims_lookup, consumePendingForClaims_active, ((members m).mp drained).1]
    have outside : ∀ c ∈ (w.tracker.consumePendingForClaims cs).1.map PendingMove.claimUID, c ∉ K :=
      fun c member batch => was c member (by rw [← kept c batch]; exact congrArg Prod.fst (now c member))
    have free : ∀ c ∈ (w.tracker.consumePendingForClaims cs).1.map PendingMove.claimUID, c ∉ H ∪ R :=
      fun c member inside => was c member (by rw [mirror.drained c inside])
    refine ⟨nodup, fun c member right => member.elim (fun held => apart c held right) fun drained =>
      free c drained (.inr right), ?_⟩
    have narrowed : Mirror K (H ∪ R) F₀ { w with tracker := (w.tracker.consumePendingForClaims cs).2 } g :=
      mirror.narrow (consumePendingForClaims_narrows w.tracker cs) rfl rfl rfl kept
    show Mirror K (H ∪ {c | c ∈ (w.tracker.consumePendingForClaims cs).1.map PendingMove.claimUID} ∪ R) F₀
      { w with tracker := (w.tracker.consumePendingForClaims cs).2 } g
    rw [Set.union_right_comm]
    refine narrowed.extend outside
      (fun c member => ?_) fun c member => mirror.others c (outside c member) (.inl fun empty => was c member ?_)
    · rw [now c member, (mirror.disjoint c (outside c member)).resolve_left (was c member)]
    · rw [empty]

end Mirror

theorem Agreement.of_same (agree : Agreement d F w) {w' : World} (same : w.SameMemory w') : Agreement d F w' :=
  agree.narrow (same.tracker ▸ Narrows.refl w.tracker) same.allocations (RestoresNoMore.of_eq same.cdiFiles)
    fun _ cached => same.detectedMode.trans cached

end Driver

/-! ### The claims the sandbox events hold -/

namespace Node

/-- `Holding ps F`: each of the sandbox events `ps` follows a set of claims it holds, the
sets are disjoint, and together they are `F`. -/
def Holding : List (NodeProg Unit) → Set String → Prop
  | [], F => F = ∅
  | p :: ps, F => ∃ H R, (∀ c ∈ H, c ∉ R) ∧ F = H ∪ R ∧ p.Follows (fun _ _ => True) (fun _ => True) H ∧ Holding ps R

namespace Holding

variable {ps : List (NodeProg Unit)} {F : Set String}

/-- One sandbox event among the others: it holds `H` and the others `R`; without it they
hold `R`, and a program in its place that holds claims apart from `R` keeps the sets
disjoint. -/
theorem focus (holding : Holding ps F) {i : Nat} {p : NodeProg Unit} (found : ps[i]? = some p) :
    ∃ H R, (∀ c ∈ H, c ∉ R) ∧ F = H ∪ R ∧ p.Follows (fun _ _ => True) (fun _ => True) H ∧ Holding (ps.eraseIdx i) R ∧
      ∀ p' H', (∀ c ∈ H', c ∉ R) → p'.Follows (fun _ _ => True) (fun _ => True) H' → Holding (ps.set i p') (H' ∪ R) := by
  induction ps generalizing i F with
  | nil => cases found
  | cons q qs ih =>
    obtain ⟨H₀, R₀, apart₀, rfl, follows₀, rest⟩ := holding
    cases i with
    | zero =>
      obtain rfl : q = p := by simpa using found
      exact ⟨H₀, R₀, apart₀, rfl, follows₀, rest, fun p' H' apart' follows' => ⟨H', R₀, apart', rfl, follows', rest⟩⟩
    | succ i =>
      obtain ⟨H, R₁, apart, rfl, follows, erased, set⟩ := ih rest (by simpa using found)
      refine ⟨H, H₀ ∪ R₁, fun c held other => other.elim (fun held₀ => apart₀ c held₀ (.inl held)) (apart c held),
        Set.union_left_comm _ _ _, follows, ⟨H₀, R₁, fun c held₀ => apart₀ c held₀ ∘ .inr, rfl, follows₀, erased⟩,
        fun p' H' apart' follows' => ⟨H₀, H' ∪ R₁, fun c held₀ other => ?_, Set.union_left_comm _ _ _, follows₀,
          set p' H' (fun c held => apart' c held ∘ .inr) follows'⟩⟩
      exact other.elim (fun held => apart' c held (.inl held₀)) (apart₀ c held₀ ∘ .inr)

theorem append (holding : Holding ps F) {p : NodeProg Unit} (follows : p.Follows (fun _ _ => True) (fun _ => True) ∅) :
    Holding (ps ++ [p]) F := by
  induction ps generalizing F with
  | nil => exact ⟨∅, ∅, fun _ absent => absent.elim, by rw [show F = ∅ from holding, Set.union_empty], follows, rfl⟩
  | cons q qs ih =>
    obtain ⟨H, R, apart, rfl, follows', rest⟩ := holding
    exact ⟨H, R, apart, rfl, follows', ih rest⟩

/-- Sandbox events none of which may give back a claim of `K` need not hold them. -/
theorem forget (holding : Holding ps F) (K : List String) (keeps : ∀ p ∈ ps, ∀ c ∈ K, ¬p.MayGive c) :
    Holding ps (F \ {c | c ∈ K}) := by
  induction ps generalizing F with
  | nil => exact (congrArg (· \ _) (show F = ∅ from holding)).trans (Set.empty_diff _)
  | cons q qs ih =>
    obtain ⟨H, R, apart, rfl, follows, rest⟩ := holding
    exact ⟨_, _, fun c held other => apart c held.1 other.1, Set.union_diff_distrib, follows.forgetAll K (keeps q (.head _)),
      ih rest fun p member => keeps p (.tail _ member)⟩

end Holding

/-! ### Schedules that keep sandbox events off the batch's claims -/

variable (d : Driver)

/-- The claims of the batch in progress after a choice, from `K` before it. -/
def batchClaims (n : Node) (K : List String) : Choice → List String
  | .start (.batch b) => if n.batch.isNone then b.claimUIDs else K
  | _ => K

/-- The choice keeps sandbox events off the claims `K` of the batch in progress: a batch
starts only when no sandbox event in progress may give back a move of one of its claims,
and while a batch is in progress no sandbox step changes a move of one of its claims. -/
def Apart (n : Node) (K : List String) : Choice → Prop
  | .start (.batch b) => n.batch = none → ∀ p ∈ n.sandbox, ∀ c ∈ b.claimUIDs, ¬p.MayGive c
  | .stepSandbox i => n.batch ≠ none →
      ∀ c ∈ K, (n.advance d (.stepSandbox i)).world.tracker.moves c = n.world.tracker.moves c
  | _ => True

/-- Every choice of the schedule keeps sandbox events off the claims of the batch in
progress, `K` at the start. -/
def ApartAlong (n : Node) (K : List String) : List Choice → Prop
  | [] => True
  | c :: rest => n.Apart d K c ∧ (n.advance d c).ApartAlong (n.batchClaims K c) rest

/-- A check of `Apart` computed on the node: a batch starts with no sandbox event in
progress, and a sandbox step taken while a batch is in progress leaves the moves of its
claims. -/
def apartCheck (n : Node) (K : List String) : Choice → Bool
  | .start (.batch _) => n.batch.isSome || n.sandbox.isEmpty
  | .stepSandbox i => n.batch.isNone ||
      K.all fun c => decide ((n.advance d (.stepSandbox i)).world.tracker.moves c = n.world.tracker.moves c)
  | _ => true

def apartAlongCheck (n : Node) (K : List String) : List Choice → Bool
  | [] => true
  | c :: rest => n.apartCheck d K c && (n.advance d c).apartAlongCheck (n.batchClaims K c) rest

theorem apart_of_check {n : Node} {K : List String} {c : Choice} (checked : n.apartCheck d K c = true) :
    n.Apart d K c := by
  cases c with
  | start e =>
    cases e with
    | batch b =>
      intro idle p member
      simp only [apartCheck, idle, Option.isSome_none, Bool.false_or, List.isEmpty_iff] at checked
      rw [checked] at member
      cases member
    | _ => trivial
  | stepBatch => trivial
  | stepSandbox i =>
    intro running c member
    simp only [apartCheck, Bool.or_eq_true, List.all_eq_true, decide_eq_true_eq] at checked
    exact checked.resolve_left (by simpa only [Option.isNone_iff_eq_none] using running) c member

theorem apartAlong_of_check {n : Node} {K : List String} {schedule : List Choice}
    (checked : n.apartAlongCheck d K schedule = true) : n.ApartAlong d K schedule := by
  induction schedule generalizing n K with
  | nil => trivial
  | cons c rest ih =>
    obtain ⟨now, later⟩ := Bool.and_eq_true_iff.mp checked
    exact ⟨apart_of_check d now, ih later⟩

theorem advance_stepSandbox_batch (n : Node) (i : Nat) : (n.advance d (.stepSandbox i)).batch = n.batch := by
  simp only [advance]
  split
  · rfl
  · split <;> rfl

theorem apartAlong_append {n : Node} {K : List String} {first second : List Choice}
    (apart : n.ApartAlong d K first) (rest : ∀ K', (n.runSchedule d first).ApartAlong d K' second) :
    n.ApartAlong d K (first ++ second) := by
  induction first generalizing n K with
  | nil => exact rest K
  | cons c first ih => exact ⟨apart.1, ih apart.2 rest⟩

/-- An event run alone to completion from an idle node keeps sandbox events off the
batch's claims: a batch starts with no sandbox event in progress, and a sandbox event
steps with no batch in progress. -/
theorem apartAlong_serialChoices (w : World) (K : List String) (e : NodeEvent) :
    (Node.idle w).ApartAlong d K (e.serialChoices d w) := by
  have batches : ∀ (n : Node) K k, n.ApartAlong d K (List.replicate k .stepBatch) := by
    intro n K k
    induction k generalizing n with
    | zero => trivial
    | succ k ih => exact ⟨trivial, ih _⟩
  have events : ∀ (n : Node), n.batch = none → ∀ k, n.ApartAlong d K (List.replicate k (.stepSandbox 0)) := by
    intro n idle k
    induction k generalizing n with
    | zero => trivial
    | succ k ih => exact ⟨fun running => absurd idle running, ih _ ((advance_stepSandbox_batch d n 0).trans idle)⟩
  cases e with
  | batch b => exact ⟨fun _ _ absent => (nomatch absent), batches _ _ _⟩
  | runPodSandbox pod => exact ⟨trivial, events _ rfl _⟩
  | stopPodSandbox pod => exact ⟨trivial, events _ rfl _⟩

/-- **Serialized runs keep sandbox events off the batch's claims.** -/
theorem apartAlong_serial (w : World) (K : List String) (events : List NodeEvent) :
    (Node.idle w).ApartAlong d K (d.serialSchedule w events) := by
  induction events generalizing w K with
  | nil => trivial
  | cons e rest ih =>
    exact apartAlong_append d (apartAlong_serialChoices d w K e) fun K' => by
      rw [runSchedule_serialChoices]
      exact ih _ K'

/-! ### The node's invariant -/

/-- What the batch in progress, if any, on the claims `K`, guarantees of the world `w`
while the sandbox events hold `F`: with no batch the world agrees; a batch touches only
`K` and leaves, from its ghost, a memory that agrees, and the world mirrors the ghost. -/
def Ends (K : List String) (F : Set String) (w : World) : Option (DriverProg Unit) → Prop
  | none => Driver.Agreement d F w
  | some p => ∃ F₀ g, Driver.Mirror K F F₀ w g ∧ p.Guarded DriverOp.KeyedLookup (DriverOp.Confined (· ∈ K)) ∧
      p.Leaves Memory.step Memory.Allowed (fun _ => Driver.Agreement d F₀) (fun _ => Driver.Agreement d F₀) g

/-- The invariant of a node whose batch in progress, if any, is on the claims `K`. -/
def Sound (K : List String) (n : Node) : Prop :=
  ∃ F, Holding n.sandbox F ∧ Ends d K F n.world n.batch

variable {d} {K : List String} {F : Set String} {w : World}

namespace Ends

theorem anti {b : Option (DriverProg Unit)} (ends : Ends d K F w b) {F' : Set String} (sub : F' ⊆ F) :
    Ends d K F' w b := by
  cases b with
  | none => exact Driver.Agreement.anti ends sub
  | some p =>
    obtain ⟨F₀, g, mirror, rest⟩ := ends
    exact ⟨F₀, g, mirror.anti sub, rest⟩

/-- A step of a sandbox event holding `H` keeps what the batch guarantees, with the claims
the event holds after it. -/
theorem sandbox_step {b : Option (DriverProg Unit)} {H R : Set String} (ends : Ends d K (H ∪ R) w b)
    (apart : ∀ c ∈ H, c ∉ R) {o : NodeOp} (gives : o.GivesHeld H)
    (kept : b ≠ none → ∀ c ∈ K, (AtomicOp.exec o w).2.tracker.moves c = w.tracker.moves c) :
    o.DrainsDistinct (AtomicOp.exec o w).1 ∧ (∀ c ∈ o.holding H (AtomicOp.exec o w).1, c ∉ R) ∧
      Ends d K (o.holding H (AtomicOp.exec o w).1 ∪ R) (AtomicOp.exec o w).2 b := by
  cases b with
  | none =>
    have mirror : Driver.Mirror [] (H ∪ R) (H ∪ R) w w := .of_agreement ends fun _ absent => nomatch absent
    obtain ⟨distinct, apart', mirror⟩ := mirror.sandbox_step apart gives fun _ absent => nomatch absent
    exact ⟨distinct, apart', Driver.Agreement.of_mirror ends mirror⟩
  | some p =>
    obtain ⟨F₀, g, mirror, rest⟩ := ends
    obtain ⟨distinct, apart', mirror'⟩ := mirror.sandbox_step apart gives (kept (nomatch ·))
    exact ⟨distinct, apart', F₀, g, mirror', rest⟩

end Ends

namespace Sound

variable (registry : d.registry = buildHandlerRegistry)
include registry

/-- **Every choice keeps the invariant** that keeps sandbox events off the batch's claims. -/
theorem advance {n : Node} (sound : n.Sound d K) : ∀ c, n.Apart d K c → (n.advance d c).Sound d (n.batchClaims K c)
  | .start (.batch b), apart => by
    obtain ⟨F, holding, ends⟩ := sound
    simp only [Node.advance, batchClaims]
    split_ifs with idle
    · have none : n.batch = none := Option.isNone_iff_eq_none.mp idle
      have agree : Driver.Agreement d (F \ {c | c ∈ b.claimUIDs}) n.world := by
        rw [none] at ends
        exact Driver.Agreement.anti ends Set.diff_subset
      have free : ∀ c ∈ b.claimUIDs, c ∉ F \ {c | c ∈ b.claimUIDs} := fun c member inside => inside.2 member
      refine ⟨_, holding.forget b.claimUIDs (apart none), _, n.world, .of_agreement agree free,
        Driver.batchProgram_confined registry b, ?_⟩
      exact @Prog.leaves_of_runs Unit (fun _ => Driver.Agreement d (F \ {c | c ∈ b.claimUIDs}))
        (fun _ _ _ same agree => agree.of_same same) (d.batchProgram b) n.world fun w' same => by
          rw [Driver.run_batchProgram]
          exact (agree.of_same same).serve registry b free
    · exact ⟨F, holding, ends⟩
  | .start (.runPodSandbox pod), _ => by
    obtain ⟨F, holding, ends⟩ := sound
    exact ⟨F, holding.append (Plugin.runPodSandbox_follows pod), ends⟩
  | .start (.stopPodSandbox pod), _ => by
    obtain ⟨F, holding, ends⟩ := sound
    exact ⟨F, holding.append (Plugin.stopPodSandbox_follows pod ∅), ends⟩
  | .stepBatch, _ => by
    obtain ⟨F, holding, ends⟩ := sound
    show (n.advance d .stepBatch).Sound d K
    rcases running : n.batch with _ | p
    · simp only [Node.advance, running]
      exact ⟨F, holding, running ▸ ends⟩
    rw [running] at ends
    obtain ⟨F₀, g, mirror, guarded, leaves⟩ := ends
    cases p with
    | pure _ | fail _ =>
      simp only [Node.advance, running, Prog.step]
      exact ⟨F, holding, Driver.Agreement.of_mirror leaves mirror⟩
    | op o next =>
      simp only [Node.advance, running, Prog.step]
      obtain ⟨allowed, keyed, mirror'⟩ := mirror.batch_step guarded.1
      exact ⟨F, holding, F₀, _, mirror', guarded.2 _ keyed, leaves _ allowed⟩
  | .stepSandbox i, apart => by
    obtain ⟨F, holding, ends⟩ := sound
    show (n.advance d (.stepSandbox i)).Sound d K
    rcases found : n.sandbox[i]? with _ | p
    · simp only [Node.advance, found]
      exact ⟨F, holding, ends⟩
    obtain ⟨H, R, disjoint, rfl, follows, erased, set⟩ := holding.focus found
    cases p with
    | pure _ | fail _ =>
      simp only [Node.advance, found, Prog.step]
      exact ⟨R, erased, ends.anti Set.subset_union_right⟩
    | op o next =>
      have kept := apart
      simp only [Apart, Node.advance, found, Prog.step] at kept
      simp only [Node.advance, found, Prog.step]
      obtain ⟨distinct, apart', ends'⟩ := ends.sandbox_step disjoint follows.1 kept
      exact ⟨_, set _ _ apart' (follows.2 _ distinct), ends'⟩

theorem runSchedule {n : Node} (sound : n.Sound d K) (schedule : List Choice) (apart : n.ApartAlong d K schedule) :
    ∃ K', (n.runSchedule d schedule).Sound d K' := by
  induction schedule generalizing n K with
  | nil => exact ⟨K, sound⟩
  | cons c rest ih => exact ih (sound.advance registry c apart.1) apart.2

end Sound

end Node

namespace Driver

variable {d : Driver} (registry : d.registry = buildHandlerRegistry)
include registry

/-- From a fresh process, a schedule that keeps sandbox events off the batch's claims
ends, when no batch is in progress, in a world that agrees. -/
theorem runSchedule_agrees (w : World) (tracker : w.tracker = RDMANetnsTracker.new) (fresh : w.allocations = ∅)
    (schedule : List Choice) (apart : (Node.idle w).ApartAlong d [] schedule)
    (idle : ((Node.idle w).runSchedule d schedule).batch = none) :
    (((Node.idle w).runSchedule d schedule).world.tracker.Disjoint ∧
      ∀ c, ((Node.idle w).runSchedule d schedule).world.tracker.Holds c →
        ((Node.idle w).runSchedule d schedule).world.allocations.lookup c ≠ none) := by
  have start : (Node.idle w).Sound d [] := ⟨∅, rfl, Agreement.fresh d tracker fresh⟩
  obtain ⟨K, F, -, ends⟩ := start.runSchedule registry schedule apart
  rw [idle] at ends
  have agree : Agreement d F ((Node.idle w).runSchedule d schedule).world := ends
  refine ⟨agree.disjoint, fun c holds => ?_⟩
  obtain ⟨-, alloc, found, -⟩ := agree.live c (.inl holds)
  simp [found]

/-- **The tracker agrees with the allocation map over serialized runs**: after any sequence
of batches and sandbox events served one after another from a fresh process, the node is
idle, and the agreement holds. -/
theorem serialized_runs_agree (w : World) (tracker : w.tracker = RDMANetnsTracker.new)
    (fresh : w.allocations = ∅) (events : List NodeEvent) :
    (let n := (Node.idle w).runSchedule d (d.serialSchedule w events)
     n.Idle ∧ n.world.tracker.Disjoint ∧ ∀ c, n.world.tracker.Holds c → n.world.allocations.lookup c ≠ none) := by
  have idle := Node.runSchedule_serial d w events
  refine ⟨idle ▸ ⟨rfl, rfl⟩, runSchedule_agrees registry w tracker fresh _ (Node.apartAlong_serial d w [] events)
    (by rw [idle]; rfl)⟩

end Driver

/-- A pod of a claim no batch prepares. -/
def strayPod : PodSandbox where
  uid := "pod-2"
  annotations := [("resource.kubernetes.io/ctr", "11111111-2222-3333-4444-555555555555")]
  linux := some [⟨"network", "/var/run/netns/pod-2"⟩]

/-- The claim is prepared while the sandbox event of a pod of another claim runs between
the batch's steps; then the claim's pod is set up. -/
def interleavedRelocation : List Choice :=
  .start (.batch (.prepare [relocatedClaim])) :: List.replicate 20 .stepBatch ++
  .start (.runPodSandbox strayPod) :: List.replicate 2 (.stepSandbox 0) ++
  List.replicate 40 .stepBatch ++ .start (.runPodSandbox relocatedPod) :: List.replicate 8 (.stepSandbox 0)

end DraMultiDevice
