import DraMultiDevice.Handler.Types

/-!
# The RDMA netns tracker

`pkg/nri/tracker.go`: two Go maps keyed by claim UID, the pending moves that
`UverbsHandler.Prepare` registers and the active moves that `RunPodSandbox` records.
Every method holds the tracker's mutex for its whole body, so each is one function
from tracker to tracker. A Go map is an `AList`; the order of its entries stands for
the iteration order of a `range` loop over it. Statements range over all trackers,
hence over every iteration order.

## Main result

`tracker_finite_map_spec`: each method meets its finite-map specification, and the
state `ConsumePendingForClaims` leaves depends only on the set of claim UIDs it is
given.
-/

namespace DraMultiDevice

/-- `nri.PendingMove`. -/
structure PendingMove where
  ibDev : String
  claimUID : String
  deriving DecidableEq, Repr

/-- `nri.ActiveMove`. -/
structure ActiveMove where
  ibDev : String
  podUID : String
  netnsPath : String
  deriving DecidableEq, Repr

/-- A Go `map[string]V`, entries in iteration order. -/
abbrev GoMap (V : Type) := AList (fun _ : String => V)

/-- `nri.RDMANetnsTracker`. `AddPending` is the only writer of `pending` and files each
move under its own claim UID, which every tracker therefore satisfies. -/
structure RDMANetnsTracker where
  pending : GoMap PendingMove
  active : GoMap ActiveMove
  pending_keyed : ∀ c m, pending.lookup c = some m → m.claimUID = c

/-! ### Finite-map facts used throughout -/

section GoMapFacts

variable {V : Type}

theorem entries_erase_eq_filter (m : GoMap V) (c : String) :
    (m.erase c).entries = m.entries.filter (fun s => s.1 ≠ c) := by
  obtain ⟨l, nd⟩ := m
  show l.kerase c = _
  induction l with
  | nil => rfl
  | cons s rest ih =>
    have tail := (List.nodupKeys_cons.mp nd)
    by_cases same : c = s.1
    · subst same
      rw [List.kerase_cons_eq rfl, List.filter_cons_of_neg (by simp)]
      refine (List.filter_eq_self.mpr fun s' member => ?_).symm
      have fresh : s'.1 ≠ s.1 := fun equal => tail.1 (equal ▸ List.mem_keys_of_mem member)
      simpa using fresh
    · rw [List.kerase_cons_ne same, List.filter_cons_of_pos (by simpa using Ne.symm same),
        ih tail.2]

theorem lookup_insert_eq_ite {K : Type} [DecidableEq K] (m : AList fun _ : K => V) (c c' : K)
    (v : V) :
    (m.insert c v).lookup c' = if c' = c then some v else m.lookup c' := by
  split
  · subst c'
    exact AList.lookup_insert m
  · exact AList.lookup_insert_ne ‹_›

theorem key_ne_of_lookup_eq_none {m : GoMap V} {c : String} (absent : m.lookup c = none)
    {s : Sigma fun _ : String => V} (member : s ∈ m.entries) : s.1 ≠ c :=
  fun equal => AList.lookup_eq_none.mp absent (equal ▸ List.mem_keys_of_mem member)

theorem erase_of_lookup_eq_none {m : GoMap V} {c : String} (absent : m.lookup c = none) :
    m.erase c = m :=
  AList.ext (List.kerase_of_not_mem_keys fun member =>
    AList.lookup_eq_none.mp absent (AList.mem_keys.mpr member))

theorem lookup_erase_eq_ite (m : GoMap V) (c c' : String) :
    (m.erase c).lookup c' = if c' = c then none else m.lookup c' := by
  split
  · subst c'
    exact AList.lookup_erase c m
  · exact AList.lookup_erase_ne ‹_›

end GoMapFacts

namespace RDMANetnsTracker

/-- `NewRDMANetnsTracker`. -/
def new : RDMANetnsTracker :=
  ⟨∅, ∅, fun c m found => by simp [AList.lookup_empty] at found⟩

def addPending (t : RDMANetnsTracker) (claimUID ibDev : String) : RDMANetnsTracker where
  pending := t.pending.insert claimUID ⟨ibDev, claimUID⟩
  active := t.active
  pending_keyed c m found := by
    rw [lookup_insert_eq_ite] at found
    split at found
    · cases found
      exact ‹c = claimUID›.symm
    · exact t.pending_keyed c m found

def removePending (t : RDMANetnsTracker) (claimUID : String) : RDMANetnsTracker where
  pending := t.pending.erase claimUID
  active := t.active
  pending_keyed c m found := by
    rw [lookup_erase_eq_ite] at found
    split at found
    · cases found
    · exact t.pending_keyed c m found

/-- `ConsumePendingForClaims`: walk the given UIDs in order, taking out each one
still pending. -/
def consumePendingForClaims : RDMANetnsTracker → List String → List PendingMove × RDMANetnsTracker
  | t, [] => ([], t)
  | t, uid :: rest =>
    match t.pending.lookup uid with
    | some m =>
      let after := consumePendingForClaims (t.removePending uid) rest
      (m :: after.1, after.2)
    | none => consumePendingForClaims t rest

def markActive (t : RDMANetnsTracker) (claimUID podUID ibDev netnsPath : String) :
    RDMANetnsTracker :=
  { t with active := t.active.insert claimUID ⟨ibDev, podUID, netnsPath⟩ }

/-- `RemoveActive`: the active move of the claim, if any, taken out of the map. -/
def removeActive (t : RDMANetnsTracker) (claimUID : String) :
    Option ActiveMove × RDMANetnsTracker :=
  match t.active.lookup claimUID with
  | some m => (some m, { t with active := t.active.erase claimUID })
  | none => (none, t)

/-- The loop of `RemoveActiveForPod` over the entries `range` visits. Only the entry
being visited is deleted, so the loop visits exactly the entries present when it
starts. -/
def removeActiveForPodLoop (podUID : String) :
    List (Sigma fun _ : String => ActiveMove) → GoMap ActiveMove → List ActiveMove × GoMap ActiveMove
  | [], active => ([], active)
  | ⟨uid, m⟩ :: rest, active =>
    if m.podUID = podUID then
      let after := removeActiveForPodLoop podUID rest (active.erase uid)
      (m :: after.1, after.2)
    else removeActiveForPodLoop podUID rest active

def removeActiveForPod (t : RDMANetnsTracker) (podUID : String) :
    List ActiveMove × RDMANetnsTracker :=
  let r := removeActiveForPodLoop podUID t.active.entries t.active
  (r.1, { t with active := r.2 })

/-! ### One lemma per method -/

@[simp] theorem addPending_active (t : RDMANetnsTracker) (c i : String) :
    (t.addPending c i).active = t.active := rfl

@[simp] theorem removePending_active (t : RDMANetnsTracker) (c : String) :
    (t.removePending c).active = t.active := rfl

@[simp] theorem markActive_pending (t : RDMANetnsTracker) (c p i n : String) :
    (t.markActive c p i n).pending = t.pending := rfl

theorem addPending_lookup (t : RDMANetnsTracker) (c i c' : String) :
    (t.addPending c i).pending.lookup c' =
      if c' = c then some ⟨i, c⟩ else t.pending.lookup c' :=
  lookup_insert_eq_ite _ _ _ _

theorem removePending_lookup (t : RDMANetnsTracker) (c c' : String) :
    (t.removePending c).pending.lookup c' = if c' = c then none else t.pending.lookup c' :=
  lookup_erase_eq_ite _ _ _

theorem markActive_lookup (t : RDMANetnsTracker) (c p i n c' : String) :
    (t.markActive c p i n).active.lookup c' =
      if c' = c then some ⟨i, p, n⟩ else t.active.lookup c' :=
  lookup_insert_eq_ite _ _ _ _

theorem removeActive_spec (t : RDMANetnsTracker) (c : String) :
    (t.removeActive c).1 = t.active.lookup c ∧
      (t.removeActive c).2.active = t.active.erase c ∧
      (t.removeActive c).2.pending = t.pending := by
  unfold removeActive
  split
  next found => exact ⟨found.symm, rfl, rfl⟩
  next absent => exact ⟨absent.symm, (erase_of_lookup_eq_none absent).symm, rfl⟩

theorem consumePendingForClaims_active (t : RDMANetnsTracker) (uids : List String) :
    (t.consumePendingForClaims uids).2.active = t.active := by
  induction uids generalizing t with
  | nil => rfl
  | cons uid rest ih =>
    simp only [consumePendingForClaims]
    split
    · exact ih _
    · exact ih t

/-- The pending map after a drain keeps exactly the entries whose claim was not asked for. -/
theorem consumePendingForClaims_pending (t : RDMANetnsTracker) (uids : List String) :
    (t.consumePendingForClaims uids).2.pending.entries =
      t.pending.entries.filter (fun s => s.1 ∉ uids) := by
  induction uids generalizing t with
  | nil => simp [consumePendingForClaims]
  | cons uid rest ih =>
    simp only [consumePendingForClaims]
    split
    next found =>
      rw [ih, show (t.removePending uid).pending.entries = _ from entries_erase_eq_filter _ _,
        List.filter_filter]
      congr 1
      funext s
      simp [Bool.and_comm]
    next absent =>
      rw [ih]
      refine List.filter_congr fun s member => ?_
      simp [key_ne_of_lookup_eq_none absent member]

/-- The moves a drain returns: one per asked-for claim that was pending, the stored
entry itself. -/
theorem consumePendingForClaims_moves (t : RDMANetnsTracker) (uids : List String) :
    ((t.consumePendingForClaims uids).1.map PendingMove.claimUID).Nodup ∧
      ∀ m, m ∈ (t.consumePendingForClaims uids).1 ↔
        m.claimUID ∈ uids ∧ t.pending.lookup m.claimUID = some m := by
  induction uids generalizing t with
  | nil => simp [consumePendingForClaims]
  | cons uid rest ih =>
    simp only [consumePendingForClaims]
    split
    next m₀ found =>
      have keyed := t.pending_keyed uid m₀ found
      obtain ⟨nodup, members⟩ := ih (t.removePending uid)
      simp only [removePending_lookup] at members
      refine ⟨List.nodup_cons.mpr ⟨fun again => ?_, nodup⟩, fun m => ?_⟩
      · obtain ⟨m', member, same⟩ := List.mem_map.mp again
        have := ((members m').mp member).2
        rw [if_pos (same.trans keyed)] at this
        cases this
      · rw [List.mem_cons, members]
        by_cases here : m.claimUID = uid
        · rw [here, found]
          simp [eq_comm]
        · have other : m ≠ m₀ := fun same => here (same ▸ keyed)
          simp [here, other]
    next absent =>
      obtain ⟨nodup, members⟩ := ih t
      refine ⟨nodup, fun m => ?_⟩
      rw [members, List.mem_cons]
      by_cases here : m.claimUID = uid
      · rw [here, absent]
        simp
      · simp [here]

theorem consumePendingForClaims_lookup (t : RDMANetnsTracker) (uids : List String) (c : String) :
    (t.consumePendingForClaims uids).2.pending.lookup c =
      if c ∈ uids then none else t.pending.lookup c := by
  induction uids generalizing t with
  | nil => rfl
  | cons uid rest ih =>
    simp only [consumePendingForClaims]
    split
    next => rw [ih, removePending_lookup]; by_cases here : c = uid <;> simp [here]
    next absent =>
      rw [ih]
      by_cases here : c = uid
      · subst here
        simp [absent]
      · simp [here]

theorem ext {t t' : RDMANetnsTracker} (pending : t.pending = t'.pending)
    (active : t.active = t'.active) : t = t' := by
  cases t
  cases t'
  cases pending
  cases active
  rfl

/-- The state a drain leaves depends only on the set of claim UIDs asked for. -/
theorem consumePendingForClaims_congr (t : RDMANetnsTracker) (uids uids' : List String)
    (same : ∀ c, c ∈ uids ↔ c ∈ uids') :
    (t.consumePendingForClaims uids).2 = (t.consumePendingForClaims uids').2 := by
  refine ext (AList.ext ?_) (by rw [consumePendingForClaims_active, consumePendingForClaims_active])
  rw [consumePendingForClaims_pending, consumePendingForClaims_pending]
  exact List.filter_congr fun s _ => by simp [same]

theorem removeActiveForPodLoop_spec (podUID : String)
    (visit : List (Sigma fun _ : String => ActiveMove)) (active : GoMap ActiveMove) :
    (removeActiveForPodLoop podUID visit active).1 =
        (visit.filter (fun s => s.2.podUID = podUID)).map (·.2) ∧
      (removeActiveForPodLoop podUID visit active).2.entries =
        active.entries.filter
          (fun s => s.1 ∉ (visit.filter (fun s => s.2.podUID = podUID)).map (·.1)) := by
  induction visit generalizing active with
  | nil => simp [removeActiveForPodLoop]
  | cons entry rest ih =>
    obtain ⟨uid, m⟩ := entry
    simp only [removeActiveForPodLoop]
    split
    next matching =>
      obtain ⟨moves, left⟩ := ih (active.erase uid)
      rw [List.filter_cons_of_pos (by simpa using matching)]
      refine ⟨by simp [moves], ?_⟩
      rw [left, entries_erase_eq_filter, List.filter_filter]
      exact List.filter_congr fun s _ => by by_cases here : s.1 = uid <;> simp [here]
    next other =>
      rw [List.filter_cons_of_neg (by simpa using other)]
      exact ih active

theorem removeActiveForPod_spec (t : RDMANetnsTracker) (podUID : String) :
    (t.removeActiveForPod podUID).1 =
        (t.active.entries.filter (fun s => s.2.podUID = podUID)).map (·.2) ∧
      (t.removeActiveForPod podUID).2.active.entries =
        t.active.entries.filter (fun s => s.2.podUID ≠ podUID) ∧
      (t.removeActiveForPod podUID).2.pending = t.pending := by
  obtain ⟨moves, left⟩ := removeActiveForPodLoop_spec podUID t.active.entries t.active
  refine ⟨moves, ?_, rfl⟩
  show (removeActiveForPodLoop podUID t.active.entries t.active).2.entries = _
  rw [left]
  refine List.filter_congr fun s member => ?_
  have matched : s.1 ∈ (t.active.entries.filter (fun s => s.2.podUID = podUID)).map (·.1) ↔
      s.2.podUID = podUID := by
    constructor
    · intro found
      obtain ⟨s', member', same⟩ := List.mem_map.mp found
      rw [← t.active.nodupKeys.eq_of_fst_eq (List.mem_of_mem_filter member') member same]
      simpa using (List.mem_filter.mp member').2
    · exact fun matching => List.mem_map.mpr ⟨s, List.mem_filter.mpr ⟨member, by simpa⟩, rfl⟩
  simp [matched]

/-- `RemoveActiveForPod` keeps or drops each claim's active move. -/
theorem removeActiveForPod_lookup (t : RDMANetnsTracker) (podUID c : String) :
    (t.removeActiveForPod podUID).2.active.lookup c = none ∨
      (t.removeActiveForPod podUID).2.active.lookup c = t.active.lookup c := by
  rcases found : (t.removeActiveForPod podUID).2.active.lookup c with _ | move
  · exact .inl rfl
  · refine .inr (Eq.symm (AList.mem_lookup_iff.mpr ?_))
    have kept := AList.mem_lookup_iff.mp found
    rw [(removeActiveForPod_spec t podUID).2.1] at kept
    exact (List.mem_filter.mp kept).1

/-- **Tracker specification.** Every method of `RDMANetnsTracker`, on every tracker
and all arguments, is the finite-map operation it is documented as; in particular
`ConsumePendingForClaims` drains one stored move per distinct pending claim asked
for, and the state it leaves is the same for any order or repetition of the UIDs. -/
theorem tracker_finite_map_spec (t : RDMANetnsTracker) :
    (∀ uids, ((t.consumePendingForClaims uids).1.map PendingMove.claimUID).Nodup ∧
      (∀ m, m ∈ (t.consumePendingForClaims uids).1 ↔
        m.claimUID ∈ uids ∧ t.pending.lookup m.claimUID = some m) ∧
      (∀ c, (t.consumePendingForClaims uids).2.pending.lookup c =
        if c ∈ uids then none else t.pending.lookup c) ∧
      (t.consumePendingForClaims uids).2.active = t.active) ∧
    (∀ podUID, (t.removeActiveForPod podUID).1 =
        (t.active.entries.filter (fun s => s.2.podUID = podUID)).map (·.2) ∧
      (t.removeActiveForPod podUID).2.active.entries =
        t.active.entries.filter (fun s => s.2.podUID ≠ podUID) ∧
      (t.removeActiveForPod podUID).2.pending = t.pending) ∧
    (∀ c, (t.removeActive c).1 = t.active.lookup c ∧
      (t.removeActive c).2.active = t.active.erase c ∧
      (t.removeActive c).2.pending = t.pending) ∧
    (∀ c i c', (t.addPending c i).pending.lookup c' =
        (if c' = c then some ⟨i, c⟩ else t.pending.lookup c') ∧
      (t.addPending c i).active = t.active) ∧
    (∀ c c', (t.removePending c).pending.lookup c' =
        (if c' = c then none else t.pending.lookup c') ∧
      (t.removePending c).active = t.active) ∧
    (∀ c p i n c', (t.markActive c p i n).active.lookup c' =
        (if c' = c then some ⟨i, p, n⟩ else t.active.lookup c') ∧
      (t.markActive c p i n).pending = t.pending) ∧
    (∀ uids uids', (∀ c, c ∈ uids ↔ c ∈ uids') →
      (t.consumePendingForClaims uids).2 = (t.consumePendingForClaims uids').2) :=
  ⟨fun uids => ⟨(consumePendingForClaims_moves t uids).1, (consumePendingForClaims_moves t uids).2,
      consumePendingForClaims_lookup t uids, consumePendingForClaims_active t uids⟩,
    removeActiveForPod_spec t, removeActive_spec t,
    fun c i c' => ⟨addPending_lookup t c i c', rfl⟩,
    fun c c' => ⟨removePending_lookup t c c', rfl⟩,
    fun c p i n c' => ⟨markActive_lookup t c p i n c', rfl⟩,
    consumePendingForClaims_congr t⟩

/-! ### A claim's moves -/

/-- A claim's moves: its pending move and its active move. -/
def moves (t : RDMANetnsTracker) (c : String) : Option PendingMove × Option ActiveMove :=
  (t.pending.lookup c, t.active.lookup c)

/-- The claim has a pending or an active move. -/
def Holds (t : RDMANetnsTracker) (c : String) : Prop := t.moves c ≠ (none, none)

/-- No claim has both a pending and an active move. -/
def Disjoint (t : RDMANetnsTracker) : Prop := ∀ c, (t.moves c).1 = none ∨ (t.moves c).2 = none

/-- Every claim other than `c` has in `t'` the moves it has in `t`. -/
def SameExcept (c : String) (t t' : RDMANetnsTracker) : Prop := ∀ c', c' ≠ c → t'.moves c' = t.moves c'

theorem SameExcept.refl (c : String) (t : RDMANetnsTracker) : SameExcept c t t := fun _ _ => rfl

theorem SameExcept.trans {c : String} {t t' t'' : RDMANetnsTracker} (first : SameExcept c t t')
    (second : SameExcept c t' t'') : SameExcept c t t'' := fun c' other =>
  (second c' other).trans (first c' other)

/-- What `UverbsHandler.Unprepare` does to the tracker: `RemovePending`, then
`RemoveActive`. -/
def release (t : RDMANetnsTracker) (c : String) : RDMANetnsTracker :=
  ((t.removePending c).removeActive c).2

@[simp] theorem moves_addPending (t : RDMANetnsTracker) (c i c' : String) :
    (t.addPending c i).moves c' = if c' = c then (some ⟨i, c⟩, (t.moves c).2) else t.moves c' := by
  by_cases here : c' = c
  · subst here
    simp [moves, addPending_lookup]
  · simp [moves, addPending_lookup, here]

@[simp] theorem moves_release (t : RDMANetnsTracker) (c c' : String) :
    (t.release c).moves c' = if c' = c then (none, none) else t.moves c' := by
  obtain ⟨-, active, pending⟩ := removeActive_spec (t.removePending c) c
  by_cases here : c' = c <;>
    simp [moves, release, active, pending, removePending_lookup, lookup_erase_eq_ite, here]

@[simp] theorem moves_removePending (t : RDMANetnsTracker) (c c' : String) :
    (t.removePending c).moves c' = if c' = c then (none, (t.moves c).2) else t.moves c' := by
  by_cases here : c' = c
  · subst here
    simp [moves, removePending_lookup]
  · simp [moves, removePending_lookup, here]

@[simp] theorem moves_markActive (t : RDMANetnsTracker) (c p i n c' : String) :
    (t.markActive c p i n).moves c' = if c' = c then ((t.moves c).1, some ⟨i, p, n⟩) else t.moves c' := by
  by_cases here : c' = c
  · subst here
    simp [moves, markActive_lookup]
  · simp [moves, markActive_lookup, here]

@[simp] theorem moves_removeActive (t : RDMANetnsTracker) (c c' : String) :
    (t.removeActive c).2.moves c' = if c' = c then ((t.moves c).1, none) else t.moves c' := by
  obtain ⟨-, active, pending⟩ := removeActive_spec t c
  by_cases here : c' = c
  · subst here
    simp [moves, active, pending, lookup_erase_eq_ite]
  · simp [moves, active, pending, lookup_erase_eq_ite, here]

theorem sameExcept_addPending (t : RDMANetnsTracker) (c i : String) :
    SameExcept c t (t.addPending c i) := fun c' other => by simp [other]

theorem sameExcept_release (t : RDMANetnsTracker) (c : String) : SameExcept c t (t.release c) :=
  fun c' other => by simp [other]

theorem not_holds_iff {t : RDMANetnsTracker} {c : String} :
    ¬t.Holds c ↔ t.moves c = (none, none) := not_not

/-- A change that adds no move: every claim keeps its pending move or loses it, and
keeps its active move, loses it, or gets one in place of the pending move it lost. -/
def Narrows (t t' : RDMANetnsTracker) : Prop :=
  ∀ c, ((t'.moves c).1 = none ∨ (t'.moves c).1 = (t.moves c).1) ∧
    ((t'.moves c).2 = (t.moves c).2 ∨ (t'.moves c).2 = none ∨
      (t'.moves c).1 = none ∧ (t.moves c).1 ≠ none)

theorem Narrows.refl (t : RDMANetnsTracker) : t.Narrows t := fun _ => ⟨.inr rfl, .inl rfl⟩

/-- A change to one claim's moves that keeps or drops both narrows the tracker. -/
theorem Narrows.of_sameExcept {c : String} {t t' : RDMANetnsTracker} (same : SameExcept c t t')
    (claim : t'.moves c = (none, none) ∨ t'.moves c = t.moves c) : t.Narrows t' := fun c' => by
  by_cases here : c' = c
  · subst here
    rcases claim with cleared | kept
    · rw [cleared]
      exact ⟨.inl rfl, .inr (.inl rfl)⟩
    · rw [kept]
      exact ⟨.inr rfl, .inl rfl⟩
  · rw [same c' here]
    exact ⟨.inr rfl, .inl rfl⟩

theorem Narrows.disjoint_at {t t' : RDMANetnsTracker} (narrows : t.Narrows t') {c : String}
    (disjoint : (t.moves c).1 = none ∨ (t.moves c).2 = none) : (t'.moves c).1 = none ∨ (t'.moves c).2 = none := by
  obtain ⟨pending, active⟩ := narrows c
  rcases pending with gone | same
  · exact .inl gone
  · rcases active with kept | gone | ⟨gone, -⟩
    · rw [same, kept]; exact disjoint
    · exact .inr gone
    · exact .inl gone

theorem Narrows.disjoint {t t' : RDMANetnsTracker} (narrows : t.Narrows t') (disjoint : t.Disjoint) :
    t'.Disjoint := fun c => narrows.disjoint_at (disjoint c)

theorem Narrows.holds {t t' : RDMANetnsTracker} (narrows : t.Narrows t') {c : String}
    (holds : t'.Holds c) : t.Holds c := fun empty => holds <| by
  obtain ⟨pending, active⟩ := narrows c
  have pending' : (t'.moves c).1 = none := by
    rcases pending with gone | same
    exacts [gone, same.trans (congrArg Prod.fst empty)]
  refine Prod.ext pending' ?_
  rcases active with kept | gone | ⟨-, held⟩
  exacts [kept.trans (congrArg Prod.snd empty), gone, absurd (congrArg Prod.fst empty) held]

theorem Narrows.cleared {t t' : RDMANetnsTracker} (narrows : t.Narrows t') {c : String}
    (empty : t.moves c = (none, none)) : t'.moves c = (none, none) :=
  not_holds_iff.mp fun holds => not_holds_iff.mpr empty (narrows.holds holds)

theorem consumePendingForClaims_narrows (t : RDMANetnsTracker) (uids : List String) :
    t.Narrows (t.consumePendingForClaims uids).2 := fun c => by
  refine ⟨?_, .inl (by simp [moves, consumePendingForClaims_active])⟩
  simp only [moves, consumePendingForClaims_lookup]
  split_ifs <;> simp

theorem removeActiveForPod_narrows (t : RDMANetnsTracker) (podUID : String) :
    t.Narrows (t.removeActiveForPod podUID).2 := fun c => by
  refine ⟨.inr (by simp [moves, (removeActiveForPod_spec _ _).2.2]), ?_⟩
  rcases removeActiveForPod_lookup t podUID c with gone | kept
  exacts [.inr (.inl gone), .inl kept]

end RDMANetnsTracker

end DraMultiDevice
