import DraMultiDevice.Driver.Claims

/-!
# The sidecars against the allocation map

The durable state of `pkg/driver/driver.go` is meant to be a copy of the allocation
map: after every `PrepareResourceClaims` and `UnprepareResourceClaims` batch,
`restoreAllocations` run into an empty map should load exactly the map the driver
holds. The copy rests on the file names. A claim's two files are named from the first
eight bytes of its UID, so the claims a run serves must differ there; the glob
`<driver>-*.alloc.json` must find each sidecar, so those bytes hold no `/`; and the
glob finds the sidecars of a co-resident driver named `<driver>-<suffix>` too.

## Main results

* `sidecars_restore_the_map`: from a fresh process whose `/etc/cdi` holds, among the
  files the glob would load, only sidecars of its own claims, over every sequence of
  batches whose claims are named so, with every write and removal succeeding,
  restoring the files into an empty map gives the map.
* `file_names_break_the_durable_copy`: two claims sharing their first eight characters
  share a sidecar, and a co-resident `<driver>-x` has its sidecars loaded.

## Proof strategy

`Agrees` says, one field per direction, that the map's records sit in their sidecars
and that every file the glob finds that restores a record is one of them; from it,
`Agrees.restored` computes what a restore loads. The first rehydration establishes
`Agrees`, and each step of a batch keeps it: the rehydration, a claim prepared, a claim
released; the handlers' own steps touch neither the map nor the files.
-/

namespace DraMultiDevice

namespace Driver

variable (d : Driver)

/-! ### File names -/

theorem uidPrefix_length {claimUID : String} (long : 8 ≤ claimUID.length) :
    (uidPrefix claimUID).length = 8 :=
  (List.length_take _ _).trans (Nat.min_eq_left long)

theorem allocFileName_data (claimUID : String) :
    (d.allocFileName claimUID).data =
      (d.sanitizedName ++ "-").data ++ (uidPrefix claimUID).data ++ ".alloc.json".data := by
  simp [allocFileName, cdiFilePrefix]

/-- Two claims share a sidecar exactly when they share their first eight characters. -/
theorem uidPrefix_eq_of_allocFileName {u v : String} (same : d.allocFileName u = d.allocFileName v) :
    uidPrefix u = uidPrefix v := by
  have names := congrArg String.data same
  rw [allocFileName_data, allocFileName_data] at names
  exact String.ext (List.append_cancel_left (List.append_cancel_right names))

/-- A CDI spec file is never a sidecar: the names differ in length. -/
theorem cdiFileName_ne_allocFileName {u v : String} (longU : 8 ≤ u.length) (longV : 8 ≤ v.length) :
    d.cdiFileName u ≠ d.allocFileName v := fun same => by
  have lengths := congrArg String.length same
  simp only [cdiFileName, allocFileName, cdiFilePrefix, String.length_append,
    uidPrefix_length longU, uidPrefix_length longV] at lengths
  have json : (".json" : String).length = 5 := rfl
  have allocJson : (".alloc.json" : String).length = 11 := rfl
  omega

/-- The glob finds the sidecar of every claim whose first eight characters hold no `/`. -/
theorem allocPattern_matches {claimUID : String} (plain : '/' ∉ (uidPrefix claimUID).data) :
    d.allocPattern.matches (d.allocFileName claimUID) = true :=
  GlobPattern.matches_of_plain _ _ _ plain

theorem mem_sidecarNames {files : GoMap FileContent} {name : String} :
    name ∈ d.sidecarNames files ↔ name ∈ files ∧ d.allocPattern.matches name = true := by
  simp [sidecarNames, (List.perm_insertionSort _ _).mem_iff, AList.mem_keys]

/-! ### What a restore loads -/

/-- The file `name` restores the record `alloc`: it parses to it, and it names a claim. -/
def Restores (files : GoMap FileContent) (name : String) (alloc : AllocationInfo) : Prop :=
  (files.lookup name).bind FileContent.parseAllocation = some alloc ∧ alloc.claimUID ≠ ""

theorem Restores.mem {files : GoMap FileContent} {name : String} {alloc : AllocationInfo}
    (restores : Restores files name alloc) : name ∈ files := by
  obtain ⟨parsed, -⟩ := restores
  refine AList.lookup_isSome.mp (Option.isSome_iff_exists.mpr ?_)
  cases stored : files.lookup name with
  | none => simp [stored] at parsed
  | some content => exact ⟨content, rfl⟩

theorem Restores.insert_ne {files : GoMap FileContent} {name n : String} {content : FileContent}
    {alloc : AllocationInfo} (other : n ≠ name) (restores : Restores files n alloc) :
    Restores (files.insert name content) n alloc := by
  simpa [Restores, AList.lookup_insert_ne other] using restores

theorem Restores.erase_ne {files : GoMap FileContent} {name n : String} {alloc : AllocationInfo}
    (other : n ≠ name) (restores : Restores files n alloc) : Restores (files.erase name) n alloc := by
  simpa [Restores, AList.lookup_erase_ne other] using restores

theorem lookup_restoreRecord_of_restores {files : GoMap FileContent} {name : String}
    {alloc : AllocationInfo} (restores : Restores files name alloc) (m : GoMap AllocationInfo) :
    (restoreRecord files m name).lookup alloc.claimUID = some alloc := by
  simp [restoreRecord, restores.1, restores.2, AList.lookup_insert]

theorem lookup_restoreRecord_of_not {files : GoMap FileContent} {name uid : String}
    (other : ∀ alloc, Restores files name alloc → alloc.claimUID ≠ uid) (m : GoMap AllocationInfo) :
    (restoreRecord files m name).lookup uid = m.lookup uid := by
  unfold restoreRecord
  cases parsed : (files.lookup name).bind FileContent.parseAllocation with
  | none => rfl
  | some alloc =>
    by_cases keyed : alloc.claimUID = ""
    · simp [keyed]
    · simp [keyed, AList.lookup_insert_ne (other alloc ⟨parsed, keyed⟩).symm]

/-- A restore over names none of which restores a record of `uid` leaves `uid` alone. -/
theorem lookup_foldl_restoreRecord_of_absent {files : GoMap FileContent} {uid : String}
    (names : List String) (absent : ∀ name ∈ names, ∀ alloc, Restores files name alloc →
      alloc.claimUID ≠ uid) (m : GoMap AllocationInfo) :
    (names.foldl (restoreRecord files) m).lookup uid = m.lookup uid := by
  induction names generalizing m with
  | nil => rfl
  | cons name rest ih =>
    rw [List.foldl_cons, ih (fun name' member => absent name' (List.mem_cons_of_mem _ member)),
      lookup_restoreRecord_of_not (absent name (List.mem_cons_self _ _))]

/-- A restore over names whose only record of `uid` is `alloc` files `alloc` under `uid`,
once it holds it or one of the names restores it. -/
theorem lookup_foldl_restoreRecord_of_unique {files : GoMap FileContent} {uid : String}
    {alloc : AllocationInfo} (names : List String)
    (unique : ∀ name ∈ names, ∀ other, Restores files name other → other.claimUID = uid →
      other = alloc) (m : GoMap AllocationInfo)
    (held : m.lookup uid = some alloc ∨ ∃ name ∈ names, Restores files name alloc ∧ alloc.claimUID = uid) :
    (names.foldl (restoreRecord files) m).lookup uid = some alloc := by
  induction names generalizing m with
  | nil => simpa using held
  | cons name rest ih =>
    refine ih (fun name' member => unique name' (List.mem_cons_of_mem _ member)) _ ?_
    by_cases here : ∃ other, Restores files name other ∧ other.claimUID = uid
    · obtain ⟨other, restores, rfl⟩ := here
      obtain rfl := unique name (List.mem_cons_self _ _) other restores rfl
      exact .inl (lookup_restoreRecord_of_restores restores m)
    · rw [lookup_restoreRecord_of_not (fun other restores same => here ⟨other, restores, same⟩)]
      rcases held with held | ⟨name', member, restores, keyed⟩
      · exact .inl held
      · rcases List.mem_cons.mp member with rfl | later
        · exact absurd ⟨alloc, restores, keyed⟩ here
        · exact .inr ⟨name', later, restores, keyed⟩

theorem lookup_foldl_restoreRecord_cases {files : GoMap FileContent} (names : List String)
    (m : GoMap AllocationInfo) (uid : String) :
    (names.foldl (restoreRecord files) m).lookup uid = m.lookup uid ∨
      ∃ name ∈ names, ∃ alloc, Restores files name alloc ∧ alloc.claimUID = uid ∧
        (names.foldl (restoreRecord files) m).lookup uid = some alloc := by
  induction names generalizing m with
  | nil => exact .inl rfl
  | cons name rest ih =>
    rcases ih (restoreRecord files m name) with same | ⟨name', member, alloc, restores, keyed, found⟩
    · by_cases here : ∃ alloc, Restores files name alloc ∧ alloc.claimUID = uid
      · obtain ⟨alloc, restores, rfl⟩ := here
        exact .inr ⟨name, List.mem_cons_self _ _, alloc, restores, rfl,
          same.trans (lookup_restoreRecord_of_restores restores m)⟩
      · exact .inl (same.trans (lookup_restoreRecord_of_not
          (fun alloc restores keyed => here ⟨alloc, restores, keyed⟩) m))
    · exact .inr ⟨name', List.mem_cons_of_mem _ member, alloc, restores, keyed, found⟩

theorem lookup_restoreRecord_ne_none {files : GoMap FileContent} {m : GoMap AllocationInfo}
    {uid : String} (name : String) (held : m.lookup uid ≠ none) :
    (restoreRecord files m name).lookup uid ≠ none := by
  unfold restoreRecord
  split
  · split
    · rw [lookup_insert_eq_ite]
      split
      · simp
      · exact held
    · exact held
  · exact held

/-- After a restore, every claim that had a record has one, and so has every claim a
restored file names. -/
theorem lookup_foldl_restoreRecord_ne_none {files : GoMap FileContent} (names : List String)
    (m : GoMap AllocationInfo) {uid : String}
    (held : m.lookup uid ≠ none ∨ ∃ name ∈ names, ∃ alloc, Restores files name alloc ∧
      alloc.claimUID = uid) : (names.foldl (restoreRecord files) m).lookup uid ≠ none := by
  induction names generalizing m with
  | nil => simpa using held
  | cons name rest ih =>
    refine ih _ ?_
    rcases held with held | ⟨name', member, alloc, restores, rfl⟩
    · exact .inl (lookup_restoreRecord_ne_none name held)
    · rcases List.mem_cons.mp member with rfl | later
      · exact .inl (by simp [lookup_restoreRecord_of_restores restores m])
      · exact .inr ⟨name', later, alloc, restores, rfl⟩

/-! ### What a file write or removal restores -/

theorem restores_insert {files : GoMap FileContent} {name n : String} {content : FileContent}
    {alloc : AllocationInfo} (restores : Restores (files.insert name content) n alloc) :
    n = name ∧ content.parseAllocation = some alloc ∨ Restores files n alloc := by
  by_cases here : n = name
  · subst here
    exact .inl ⟨rfl, by simpa [AList.lookup_insert] using restores.1⟩
  · exact .inr (by simpa [Restores, AList.lookup_insert_ne here] using restores)

theorem restores_apply {files : GoMap FileContent} {name n : String} {content : FileContent}
    {alloc : AllocationInfo} (outcome : WriteOutcome)
    (restores : Restores (outcome.apply files name content) n alloc) :
    n = name ∧ content.parseAllocation = some alloc ∨ Restores files n alloc := by
  cases outcome with
  | ok => exact restores_insert restores
  | failed err => exact .inr restores
  | failedAfterCreate err =>
    rcases restores_insert restores with ⟨-, parsed⟩ | before
    · cases parsed
    · exact .inr before

theorem restores_erase {files : GoMap FileContent} {name n : String} {alloc : AllocationInfo}
    (restores : Restores (files.erase name) n alloc) : n ≠ name ∧ Restores files n alloc := by
  by_cases here : n = name
  · subst here
    simp [Restores, AList.lookup_erase] at restores
  · exact ⟨here, by simpa [Restores, AList.lookup_erase_ne here] using restores⟩

theorem restores_removeOutcome {files : GoMap FileContent} {name n : String}
    {alloc : AllocationInfo} (outcome : Except String Unit)
    (restores : Restores (removeOutcome outcome files name) n alloc) : Restores files n alloc := by
  rcases outcome with err | ⟨⟩
  · exact restores
  · exact (restores_erase restores).2

theorem not_restores_cdiSpec {files : GoMap FileContent} {name : String} {spec : CdiSpec}
    {alloc : AllocationInfo} (written : files.lookup name = some (.cdiSpec spec)) :
    ¬Restores files name alloc := fun ⟨parsed, named⟩ => by
  simp only [written, Option.some_bind, FileContent.parseAllocation, Option.some.injEq] at parsed
  exact named (parsed ▸ rfl)

/-- The files `createCDISpec` leaves restore what the files before did, and, once it
succeeded, the claim's record from its sidecar, under the claim's sidecar name. -/
theorem restores_createCDISpec (claimUID : String) (result : PrepareResult) (w : World)
    {n : String} {alloc : AllocationInfo}
    (restores : Restores ((d.createCDISpec claimUID result).run w).2.cdiFiles n alloc) :
    (∃ id, ((d.createCDISpec claimUID result).run w).1 = .ok id) ∧ alloc = result.allocation ∧
      n = d.allocFileName claimUID ∨ Restores w.cdiFiles n alloc := by
  obtain ⟨-, written⟩ := createCDISpec_cases d claimUID result w
  rcases written with ⟨-, files⟩ | ⟨-, -, files⟩ | ⟨created, m, files⟩ <;> rw [files] at restores
  · exact .inr restores
  · rcases restores_insert restores with ⟨-, parsed⟩ | before
    · cases parsed
    · exact .inr before
  · rcases restores_apply _ restores with ⟨named, parsed⟩ | before
    · exact .inl ⟨⟨_, created⟩, (Option.some_injective _ parsed).symm, named⟩
    · rcases restores_insert before with ⟨rfl, -⟩ | before'
      · exact absurd before (not_restores_cdiSpec (AList.lookup_insert _))
      · exact .inr before'

/-! ### The invariant -/

/-- The claim UIDs a run may use, as the file names need them: at least eight
characters, ASCII among the first eight (Go slices eight bytes, which are then eight
characters), no `/` among those, and no two alike in them. -/
structure FileSafe (U : String → Prop) : Prop where
  long : ∀ u, U u → 8 ≤ u.length
  ascii : ∀ u, U u → ∀ c ∈ (uidPrefix u).data, c.toNat < 128
  plain : ∀ u, U u → '/' ∉ (uidPrefix u).data
  distinct : ∀ u v, U u → U v → uidPrefix u = uidPrefix v → u = v

/-- The sidecars agree with the allocation map: each record of the map is filed under
its own claim's UID, one of `U`, and that claim's sidecar restores it; each file the
glob finds that restores a record is the sidecar of a record of the map. -/
structure Agrees (U : String → Prop) (allocs : GoMap AllocationInfo)
    (files : GoMap FileContent) : Prop where
  stored : ∀ uid alloc, allocs.lookup uid = some alloc →
    U uid ∧ alloc.claimUID = uid ∧ Restores files (d.allocFileName uid) alloc
  found : ∀ name alloc, d.allocPattern.matches name = true → Restores files name alloc →
    name = d.allocFileName alloc.claimUID ∧ allocs.lookup alloc.claimUID ≠ none

section Agrees

variable {d} {U : String → Prop} (safe : FileSafe U)
  {allocs : GoMap AllocationInfo} {files : GoMap FileContent}

theorem Agrees.congr {allocs' : GoMap AllocationInfo} (agrees : Agrees d U allocs files)
    (same : ∀ uid, allocs'.lookup uid = allocs.lookup uid) : Agrees d U allocs' files :=
  ⟨fun uid alloc held => agrees.stored uid alloc ((same uid) ▸ held),
    fun name alloc matched restores => by
      rw [same]; exact agrees.found name alloc matched restores⟩

include safe

theorem FileSafe.allocFileName_inj {u v : String} (hu : U u) (hv : U v)
    (same : d.allocFileName u = d.allocFileName v) : u = v :=
  safe.distinct u v hu hv (uidPrefix_eq_of_allocFileName d same)

theorem FileSafe.ne_empty {u : String} (hu : U u) : u ≠ "" := fun empty => by
  have := safe.long u hu
  simp [empty] at this

/-- **The restore lemma.** Where the sidecars agree with the map, restoring them into any
part of the map gives the map. -/
theorem Agrees.restored (agrees : Agrees d U allocs files) {m : GoMap AllocationInfo}
    (below : ∀ uid alloc, m.lookup uid = some alloc → allocs.lookup uid = some alloc)
    (uid : String) : (d.restored files m).lookup uid = allocs.lookup uid := by
  unfold Driver.restored
  cases held : allocs.lookup uid with
  | none =>
    rw [lookup_foldl_restoreRecord_of_absent _ fun name member alloc restores same =>
      (agrees.found name alloc ((mem_sidecarNames d).mp member).2 restores).2 (same ▸ held)]
    cases lookup : m.lookup uid with
    | none => rfl
    | some alloc => simpa [held] using below uid alloc lookup
  | some alloc =>
    obtain ⟨named, keyed, restores⟩ := agrees.stored uid alloc held
    refine lookup_foldl_restoreRecord_of_unique _ (fun name member other restores' same => ?_) m
      (.inr ⟨_, (mem_sidecarNames d).mpr ⟨restores.mem, d.allocPattern_matches (safe.plain uid named)⟩,
        restores, keyed⟩)
    have at_sidecar := (agrees.found name other ((mem_sidecarNames d).mp member).2 restores').1
    rw [at_sidecar, same] at restores'
    simpa [restores.1] using restores'.1.symm

/-- A claim prepared: its spec written, then its sidecar, and its record stored. -/
theorem Agrees.prepare (agrees : Agrees d U allocs files) {claimUID : String} (named : U claimUID)
    {alloc : AllocationInfo} (keyed : alloc.claimUID = claimUID) (spec : CdiSpec) :
    Agrees d U (allocs.insert claimUID alloc) (((files.insert (d.cdiFileName claimUID)
      (.cdiSpec spec)).insert (d.allocFileName claimUID) (.allocationState alloc))) := by
  constructor
  · intro uid held stored
    by_cases here : uid = claimUID
    · subst here
      obtain rfl : held = alloc := by simpa [AList.lookup_insert] using stored.symm
      exact ⟨named, keyed, by simp [Restores, AList.lookup_insert, FileContent.parseAllocation, keyed,
        safe.ne_empty named]⟩
    · obtain ⟨named', keyed', sidecar⟩ := agrees.stored uid held
        (by simpa [AList.lookup_insert_ne here] using stored)
      exact ⟨named', keyed', (sidecar.insert_ne (cdiFileName_ne_allocFileName d (safe.long _ named)
        (safe.long _ named')).symm).insert_ne fun same => here (safe.allocFileName_inj named' named same)⟩
  · intro name other matched restores
    by_cases sidecar : name = d.allocFileName claimUID
    · subst sidecar
      have : other = alloc := by
        simpa [AList.lookup_insert, FileContent.parseAllocation] using restores.1.symm
      subst this
      simp [keyed, AList.lookup_insert]
    by_cases cdi : name = d.cdiFileName claimUID
    · subst cdi
      obtain ⟨parsed, keyed'⟩ := restores
      simp [AList.lookup_insert_ne (cdiFileName_ne_allocFileName d (safe.long _ named)
        (safe.long _ named)), AList.lookup_insert, FileContent.parseAllocation] at parsed
      exact (keyed' (parsed ▸ rfl)).elim
    · have restores' : Restores files name other := by
        simpa [Restores, AList.lookup_insert_ne sidecar, AList.lookup_insert_ne cdi] using restores
      obtain ⟨at_sidecar, held⟩ := agrees.found name other matched restores'
      refine ⟨at_sidecar, ?_⟩
      by_cases here : other.claimUID = claimUID
      · simp [here, AList.lookup_insert]
      · simpa [AList.lookup_insert_ne here] using held

/-- A claim released: its spec removed, then its sidecar, and its record deleted. -/
theorem Agrees.release (agrees : Agrees d U allocs files) {claimUID : String}
    (recorded : allocs.lookup claimUID ≠ none) :
    Agrees d U (allocs.erase claimUID)
      ((files.erase (d.cdiFileName claimUID)).erase (d.allocFileName claimUID)) := by
  obtain ⟨alloc, held⟩ := Option.ne_none_iff_exists'.mp recorded
  have named := (agrees.stored claimUID alloc held).1
  constructor
  · intro uid other stored
    have here : uid ≠ claimUID := by
      rintro rfl
      simp [AList.lookup_erase] at stored
    obtain ⟨named', keyed', sidecar⟩ := agrees.stored uid other
      (by simpa [AList.lookup_erase_ne here] using stored)
    exact ⟨named', keyed', (sidecar.erase_ne (cdiFileName_ne_allocFileName d (safe.long _ named)
      (safe.long _ named')).symm).erase_ne fun same => here (safe.allocFileName_inj named' named same)⟩
  · intro name other matched restores
    have sidecar : name ≠ d.allocFileName claimUID := by
      rintro rfl
      simp [Restores, AList.lookup_erase] at restores
    have cdi : name ≠ d.cdiFileName claimUID := by
      rintro rfl
      simp [Restores, AList.lookup_erase_ne (cdiFileName_ne_allocFileName d (safe.long _ named)
        (safe.long _ named)), AList.lookup_erase] at restores
    have restores' : Restores files name other := by
      simpa [Restores, AList.lookup_erase_ne sidecar, AList.lookup_erase_ne cdi] using restores
    obtain ⟨at_sidecar, held'⟩ := agrees.found name other matched restores'
    have here : other.claimUID ≠ claimUID := fun same => sidecar (same ▸ at_sidecar)
    exact ⟨at_sidecar, by simpa [AList.lookup_erase_ne here] using held'⟩

end Agrees

/-! ### Every step of a batch keeps the agreement -/

/-- Every write and every removal under `/etc/cdi` succeeds. -/
def WritesSucceed (oracle : Oracle) : Prop :=
  (∀ n path, oracle n (.writeFile path) = .ok) ∧ ∀ n path, oracle n (.remove path) = .ok ()

/-- What a run of batches keeps: writes and removals succeed, and the sidecars agree
with the map. -/
structure Durable (U : String → Prop) (w : World) : Prop where
  writes : WritesSucceed w.oracle
  agrees : Agrees d U w.allocations w.cdiFiles

section Steps

variable {d} {U : String → Prop} {w : World}

/-- A node program keeps the agreement: it touches neither the map nor the files. -/
theorem Durable.node {α : Type} (durable : Durable d U w) (p : NodeProg α) :
    Durable d U (p.run w).2 :=
  ⟨(Prog.run_oracle p w).symm ▸ durable.writes, by
    rw [Prog.run_allocations, Prog.run_cdiFiles]; exact durable.agrees⟩

variable (safe : FileSafe U)
include safe

theorem Durable.restoreAllocations (durable : Durable d U w) :
    Durable d U (d.restoreAllocations.run w).2 := by
  rw [run_restoreAllocations]
  exact ⟨durable.writes, durable.agrees.congr (durable.agrees.restored safe fun _ _ => id)⟩

omit safe in
/-- A fresh process agrees with the files once it has restored them, when every file
the glob finds that restores a record is the sidecar of that record's claim, one of
`U`. -/
theorem Durable.restored_fresh (writes : WritesSucceed w.oracle) (fresh : w.allocations = ∅)
    (own : ∀ name alloc, d.allocPattern.matches name = true → Restores w.cdiFiles name alloc →
      U alloc.claimUID ∧ name = d.allocFileName alloc.claimUID) :
    Durable d U (d.restoreAllocations.run w).2 := by
  rw [run_restoreAllocations, fresh]
  refine ⟨writes, fun uid alloc held => ?_, fun name alloc matched restores => ⟨(own name alloc matched restores).2,
    lookup_foldl_restoreRecord_ne_none _ _ (.inr ⟨name, (mem_sidecarNames d).mpr ⟨restores.mem, matched⟩,
      alloc, restores, rfl⟩)⟩⟩
  rcases @lookup_foldl_restoreRecord_cases w.cdiFiles (d.sidecarNames w.cdiFiles) ∅ uid with
    empty | ⟨name, member, alloc', restores, rfl, found⟩
  · simp [Driver.restored, empty] at held
  · obtain rfl : alloc' = alloc := Option.some_injective _ (found.symm.trans held)
    obtain ⟨named, rfl⟩ := own name alloc' ((mem_sidecarNames d).mp member).2 restores
    exact ⟨named, rfl, restores⟩

theorem Durable.prepareOne (durable : Durable d U w) (rc : ResourceClaim) (named : U rc.uid) :
    Durable d U ((d.prepareOne rc).run w).2 := by
  cases recorded : w.allocations.lookup rc.uid with
  | some alloc => rwa [run_prepareOne_replay d rc w recorded]
  | none =>
    rw [run_prepareOne_fresh d rc w recorded]
    have prepared := durable.node (d.prepareClaim rc)
    rcases ran : (d.prepareClaim rc).run w with ⟨_ | result, w₁⟩
    case error => simpa [ran] using prepared
    simp only [ran] at prepared
    obtain ⟨h, -, keyed, -⟩ := (prepareClaim_returns d rc).run w (by rw [ran])
    obtain ⟨⟨kept, -⟩, written⟩ := createCDISpec_cases d rc.uid result w₁
    have oracle := Prog.run_oracle (d.createCDISpec rc.uid result) w₁
    rcases created : (d.createCDISpec rc.uid result).run w₁ with ⟨_ | cdiDeviceID, w₂⟩
    all_goals simp only [created] at kept written oracle ⊢
    · refine Durable.node ⟨oracle ▸ prepared.writes, ?_⟩ _
      rcases written with ⟨-, files⟩ | ⟨⟨n, err, truncated⟩, -⟩ | ⟨impossible, -⟩
      · rw [kept, files]; exact prepared.agrees
      · simp [prepared.writes.1] at truncated
      · cases impossible
    · obtain ⟨-, n, files⟩ := written.resolve_left (by simp) |>.resolve_left (by simp)
      refine ⟨oracle ▸ prepared.writes, ?_⟩
      rw [files, kept, prepared.writes.1, WriteOutcome.apply_ok]
      exact prepared.agrees.prepare safe named keyed _

theorem Durable.unprepareOne (durable : Durable d U w) (claimUID : String) :
    Durable d U ((d.unprepareOne claimUID).run w).2 := by
  rw [run_unprepareOne]
  cases recorded : w.allocations.lookup claimUID with
  | none => exact durable
  | some alloc =>
    have released := durable.node (d.unprepareAllocation alloc)
    have kept := Prog.run_allocations (d.unprepareAllocation alloc) w
    rcases ran : (d.unprepareAllocation alloc).run w with ⟨_ | ⟨⟩, w₁⟩
    case error => simpa [ran] using released
    simp only [ran] at released kept ⊢
    obtain ⟨-, kept', -, -, n, m, files⟩ := run_deleteCDISpec d claimUID w₁
    refine ⟨(Prog.run_oracle (d.deleteCDISpec claimUID) w₁).symm ▸ released.writes, ?_⟩
    simp only [files, kept', released.writes.2, removeOutcome_ok]
    exact released.agrees.release safe (by simp [kept, recorded])

theorem Durable.prepareClaimsLoop (claims : List ResourceClaim) (named : ∀ rc ∈ claims, U rc.uid)
    (results : GoMap KubeletPrepareResult) (durable : Durable d U w) :
    Durable d U ((d.prepareClaimsLoop claims results).run w).2 := by
  induction claims generalizing results w with
  | nil => exact durable
  | cons rc rest ih =>
    simp only [Driver.prepareClaimsLoop, Prog.run_bind]
    exact Prog.runThen_world (durable.prepareOne safe rc (named rc (List.mem_cons_self _ _)))
      fun _ _ durable' => ih (fun rc' member => named rc' (List.mem_cons_of_mem _ member)) _ durable'

theorem Durable.unprepareClaimsLoop (claimUIDs : List String) (results : GoMap (Option String))
    (durable : Durable d U w) : Durable d U ((d.unprepareClaimsLoop claimUIDs results).run w).2 := by
  induction claimUIDs generalizing results w with
  | nil => exact durable
  | cons claimUID rest ih =>
    simp only [Driver.unprepareClaimsLoop, Prog.run_bind]
    exact Prog.runThen_world (durable.unprepareOne safe claimUID) fun _ _ durable' => ih _ durable'

/-- A batch whose rehydration ends in agreement keeps it, whatever each claim's
outcome. -/
theorem Durable.serve_of_restored (restored : Durable d U (d.restoreAllocations.run w).2) (b : Batch)
    (named : ∀ uid ∈ b.claimUIDs, U uid) : Durable d U (d.serve w b) := by
  cases b with
  | prepare claims =>
    simp only [Driver.serve, prepareResourceClaims, Prog.run_bind]
    exact Prog.runThen_world restored fun _ _ durable' =>
      durable'.prepareClaimsLoop safe claims (by simpa [Batch.claimUIDs] using named) ∅
  | unprepare claimUIDs =>
    simp only [Driver.serve, unprepareResourceClaims, Prog.run_bind]
    exact Prog.runThen_world restored fun _ _ durable' => durable'.unprepareClaimsLoop safe claimUIDs ∅

theorem Durable.serve (durable : Durable d U w) (b : Batch) (named : ∀ uid ∈ b.claimUIDs, U uid) :
    Durable d U (d.serve w b) :=
  (durable.restoreAllocations safe).serve_of_restored safe b named

theorem Durable.serveAll (batches : List Batch)
    (named : ∀ b ∈ batches, ∀ uid ∈ b.claimUIDs, U uid) (durable : Durable d U w) :
    Durable d U (batches.foldl d.serve w) := by
  induction batches generalizing w with
  | nil => exact durable
  | cons b rest ih =>
    exact ih (fun b' member => named b' (List.mem_cons_of_mem _ member))
      (durable.serve safe b (named b (List.mem_cons_self _ _)))

end Steps

/-- **The sidecars restore the map.** Take a fresh process whose `/etc/cdi` holds, among
the files the sidecar glob finds that parse to a record with a claim UID, only the
sidecars of its own claims. Serve any non-empty sequence of batches with every write
and removal succeeding, whose claim UIDs, like those of the sidecars found, are at least
eight characters long, ASCII with no `/` among the first eight, and differ in them.
After the batches, `restoreAllocations` run into an empty map loads exactly the map the
driver holds. -/
theorem sidecars_restore_the_map (U : String → Prop) (safe : FileSafe U) (batches : List Batch)
    (served : batches ≠ []) (named : ∀ b ∈ batches, ∀ uid ∈ b.claimUIDs, U uid) (w : World)
    (writes : WritesSucceed w.oracle) (fresh : w.allocations = ∅)
    (own : ∀ name alloc, d.allocPattern.matches name = true → Restores w.cdiFiles name alloc →
      U alloc.claimUID ∧ name = d.allocFileName alloc.claimUID)
    (uid : String) :
    (d.restoreAllocations.run { batches.foldl d.serve w with allocations := ∅ }).2.allocations.lookup
      uid = (batches.foldl d.serve w).allocations.lookup uid := by
  obtain ⟨b, rest, rfl⟩ := List.exists_cons_of_ne_nil served
  have first := (Durable.restored_fresh writes fresh own).serve_of_restored safe b
    (named b (List.mem_cons_self _ _))
  rw [run_restoreAllocations]
  exact (first.serveAll safe rest (fun b' member => named b' (List.mem_cons_of_mem _ member))).agrees.restored
    safe (by simp) uid

end Driver

/-- A default dummy claim prepared, replayed, released and prepared again. -/
def dummyBatches : List Driver.Batch :=
  [.prepare [dummyClaim], .prepare [dummyClaim], .unprepare [dummyClaim.uid], .prepare [dummyClaim]]

theorem dummy_batches_restore_the_map :
    (exampleDriver.restoreAllocations.run
      { dummyBatches.foldl exampleDriver.serve (World.start Oracle.healthy) with allocations := ∅ }
      ).2.allocations.lookup dummyClaim.uid =
      (dummyBatches.foldl exampleDriver.serve (World.start Oracle.healthy)).allocations.lookup
        dummyClaim.uid :=
  Driver.sidecars_restore_the_map exampleDriver (· = dummyClaim.uid)
    ⟨fun _ named => named ▸ by decide, fun _ named => named ▸ by decide, fun _ named => named ▸ by decide,
      fun _ _ hu hv _ => hu.trans hv.symm⟩
    dummyBatches (by simp [dummyBatches]) (by simp [dummyBatches, Driver.Batch.claimUIDs]) _
    ⟨fun _ _ => rfl, fun _ _ => rfl⟩ rfl (fun _ _ _ restores => by simp [Driver.Restores, World.start] at restores)
    dummyClaim.uid

def uverbsConfig : DeviceConfig := { type := deviceTypeRDMA }

/-- A uverbs claim for this driver, allocated `device`. -/
def uverbsClaim (uid device : String) : ResourceClaim :=
  ⟨uid, [some ⟨"dra.example.com", some uverbsConfig⟩], some [⟨"dra.example.com", device⟩]⟩

/-- A second driver on the node, whose name extends this driver's with a dash. -/
def coResidentDriver : Driver := ⟨"dra.example.com-x", buildHandlerRegistry, by decide⟩

/-- A dummy claim of the second driver. -/
def coResidentClaim : ResourceClaim := ⟨"5ca1ab1e-1234-5678-abcd-1234567890ab", [], none⟩

set_option maxRecDepth 8000 in
/-- Two claims whose UIDs differ only after the eighth character, prepared in one batch
on a node where every call succeeds: both are in the map, but they share one sidecar,
so the files restore only the second. And on a node where `dra.example.com-x` has
prepared a claim, this driver's rehydration loads that driver's sidecar: the claim is
in the map after this driver prepares its own claim, and after this driver releases
the other driver's claim, the files still restore it. -/
theorem file_names_break_the_durable_copy :
    (let served := exampleDriver.serve (World.start Oracle.healthy)
       (.prepare [uverbsClaim "aabbccdd-0000-4000-8000-00000000000a" "uverbs0",
         uverbsClaim "aabbccdd-0000-4000-8000-00000000000b" "uverbs1"])
     let restored := (exampleDriver.restoreAllocations.run { served with allocations := ∅ }).2
     served.allocations.lookup "aabbccdd-0000-4000-8000-00000000000a" ≠ none ∧
       restored.allocations.lookup "aabbccdd-0000-4000-8000-00000000000a" = none) ∧
    (let w := (coResidentDriver.serve (World.start Oracle.healthy) (.prepare [coResidentClaim])).restart
     let released := exampleDriver.serve w (.unprepare [coResidentClaim.uid])
     let restored := (exampleDriver.restoreAllocations.run { released with allocations := ∅ }).2
     (exampleDriver.serve w (.prepare [dummyClaim])).allocations.lookup coResidentClaim.uid ≠ none ∧
       released.allocations.lookup coResidentClaim.uid = none ∧
       restored.allocations.lookup coResidentClaim.uid ≠ none) := by
  decide

end DraMultiDevice
