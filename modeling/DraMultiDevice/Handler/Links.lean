import DraMultiDevice.Handler.Tracking
import DraMultiDevice.Nri.Pinning

/-!
# The network interfaces the handlers create

The dummy, veth, macvlan, ipvlan and ipoib handlers create a link in their `Prepare`,
delete it again when a later step of that `Prepare` fails, and delete it in their
`Unprepare`, found by the name their allocation records. This module says, for every
handler the repository registers, what a `Prepare` and an `Unprepare` leave of the
links.

`Links.step` observes the kernel's link table as far as the driver's links go: a link
the kernel reports added is there, and a link the kernel reports deleted is gone.
`Prog.Leaves` reads off a program's text what it can leave of an observation, whatever
allowed replies its steps get. The kernel deletes every link it is asked to
(`Links.Deletes`, from `Oracle.LinkDelSucceeds`), and where a release looks a link up,
it reports missing only a name none of the observed links answers to (`Links.Allowed`):
`Unprepare` takes a failed lookup for a link already gone.

## Main results

* `Handler.prepare_link_atomic`: a failed `Prepare` leaves only links that were there
  before, and a successful one adds at most one link, which answers to the non-empty
  name its `Unprepare` deletes.
* `Handler.unprepare_leaves`: an `Unprepare` leaves no link answering to the name its
  allocation records.

## Proof strategy

`Prog.Leaves` is a predicate transformer over the program text with one simp lemma per
combinator, in the manner of `Prog.Returns`, so that each handler's lemma is a `simp`
over its text; RoCE is assembled from its two sides. `Prog.Leaves.run` turns a
statement about the text into one about every run, and `Prog.Leaves.of_allowed` reads a
statement over more replies as one over fewer.
-/

namespace DraMultiDevice

/-! ### What a run leaves of an observation -/

namespace Prog

variable {O : Type} [AtomicOp O] {α β S : Type}
  (f : S → (o : O) → AtomicOp.Resp o → S) (allowed : S → (o : O) → AtomicOp.Resp o → Prop)

/-- `p.Leaves f allowed ok err s`: observed by `f` from `s`, whatever replies its steps
get among those `allowed` at the observation they are taken from, `p` either returns a
value `a` with the observation meeting `ok a`, or fails with an error `e` with the
observation meeting `err e`. -/
def Leaves (ok : α → S → Prop) (err : String → S → Prop) : Prog O α → S → Prop
  | .pure a, s => ok a s
  | .fail e, s => err e s
  | .op o next, s => ∀ r, allowed s o r → (next r).Leaves ok err (f s o r)

variable {f allowed} {ok : α → S → Prop} {err : String → S → Prop}

/-- What `Leaves` says of a run whose replies are allowed. -/
theorem Leaves.run {p : Prog O α} {s : S} (h : p.Leaves f allowed ok err s) (w : World)
    (replies : ∀ s o (w' : World), w'.oracle = w.oracle → allowed s o (AtomicOp.exec o w').1) :
    (∀ a, (p.run w).1 = .ok a → ok a (p.observe f w s)) ∧
      ∀ e, (p.run w).1 = .error e → err e (p.observe f w s) := by
  induction p generalizing w s with
  | pure a => exact ⟨fun _ ran => (by cases ran; exact h), fun _ ran => (by cases ran)⟩
  | fail e => exact ⟨fun _ ran => (by cases ran), fun _ ran => (by cases ran; exact h)⟩
  | op o next ih =>
    exact ih _ (h _ (replies s o w rfl)) _ fun s' o' w' same =>
      replies s' o' w' (same.trans (AtomicOp.exec_oracle o w))

/-- What a program leaves whatever replies one predicate allows it leaves whatever
replies a stronger one allows. -/
theorem Leaves.of_allowed {allowed' : S → (o : O) → AtomicOp.Resp o → Prop} {p : Prog O α} {s : S}
    (h : p.Leaves f allowed ok err s) (stronger : ∀ s o r, allowed' s o r → allowed s o r) :
    p.Leaves f allowed' ok err s := by
  induction p generalizing s with
  | pure a => exact h
  | fail e => exact h
  | op o next ih => exact fun r allowed => ih r (h r (stronger _ _ _ allowed))

theorem Leaves.mono {ok' : α → S → Prop} {err' : String → S → Prop} {p : Prog O α} {s : S}
    (h : p.Leaves f allowed ok err s) (oks : ∀ a s, ok a s → ok' a s)
    (errs : ∀ e s, err e s → err' e s) : p.Leaves f allowed ok' err' s := by
  induction p generalizing s with
  | pure a => exact oks a s h
  | fail e => exact errs e s h
  | op o next ih => exact fun r allowed => ih r (h r allowed)

/-- A program none of whose steps the observer sees leaves the observation alone. -/
theorem leaves_of_allOps {p : Prog O α} {s : S} (ignored : p.AllOps fun o => ∀ s r, f s o r = s)
    (oks : ∀ a, ok a s) (errs : ∀ e, err e s) : p.Leaves f allowed ok err s := by
  induction p with
  | pure a => exact oks a
  | fail e => exact errs e
  | op o next ih =>
    intro r _
    rw [ignored.1]
    exact ih r (ignored.2 r)

/-- A program none of whose steps the observer sees, and which fails on no path, leaves
the observation alone and returns. -/
theorem leaves_of_neverFails {p : Prog O α} {s : S} (ignored : p.AllOps fun o => ∀ s r, f s o r = s)
    (never : p.NeverFails) (oks : ∀ a, ok a s) : p.Leaves f allowed ok err s := by
  induction p with
  | pure a => exact oks a
  | fail e => exact never.elim
  | op o next ih =>
    intro r _
    rw [ignored.1]
    exact ih r (ignored.2 r) (never r)

@[simp] theorem leaves_pure (a : α) (s : S) :
    (Pure.pure a : Prog O α).Leaves f allowed ok err s ↔ ok a s := Iff.rfl

@[simp] theorem leaves_pure_ctor (a : α) (s : S) :
    (Prog.pure a : Prog O α).Leaves f allowed ok err s ↔ ok a s := Iff.rfl

@[simp] theorem leaves_throw (e : String) (s : S) :
    (throw e : Prog O α).Leaves f allowed ok err s ↔ err e s := Iff.rfl

@[simp] theorem leaves_fail_ctor (e : String) (s : S) :
    (Prog.fail e : Prog O α).Leaves f allowed ok err s ↔ err e s := Iff.rfl

@[simp] theorem leaves_op (o : O) (next : AtomicOp.Resp o → Prog O α) (s : S) :
    (Prog.op o next).Leaves f allowed ok err s ↔ ∀ r, allowed s o r → (next r).Leaves f allowed ok err (f s o r) :=
  Iff.rfl

theorem leaves_bind' (x : Prog O α) (g : α → Prog O β) {ok : β → S → Prop} (s : S) :
    (x.bind g).Leaves f allowed ok err s ↔ x.Leaves f allowed (fun a s' => (g a).Leaves f allowed ok err s') err s := by
  induction x generalizing s with
  | pure a => rfl
  | fail e => rfl
  | op o next ih => exact forall_congr' fun r => imp_congr_right fun _ => ih r _

@[simp] theorem leaves_bind (x : Prog O α) (g : α → Prog O β) {ok : β → S → Prop} (s : S) :
    (x >>= g).Leaves f allowed ok err s ↔
      x.Leaves f allowed (fun a s' => (g a).Leaves f allowed ok err s') err s :=
  leaves_bind' x g s

@[simp] theorem leaves_checkResult_ok (undo : Prog O Unit) (wrap : String → String) (a : α) (s : S) :
    (checkResult undo wrap (.ok a)).Leaves f allowed ok err s ↔ ok a s := Iff.rfl

@[simp] theorem leaves_checkResult_error (undo : Prog O Unit) (wrap : String → String) (e : String)
    (s : S) : (checkResult undo wrap (.error e) : Prog O α).Leaves f allowed ok err s ↔
      undo.Leaves f allowed (fun _ s' => err (wrap e) s') err s :=
  leaves_bind' undo _ s

@[simp] theorem leaves_checkUndo (x : Prog O (Except String α)) (undo : Prog O Unit)
    (wrap : String → String) (s : S) :
    (checkUndo x undo wrap).Leaves f allowed ok err s ↔
      x.Leaves f allowed (fun r s' => (checkResult undo wrap r).Leaves f allowed ok err s') err s :=
  leaves_bind' x _ s

@[simp] theorem leaves_check (x : Prog O (Except String α)) (wrap : String → String) (s : S) :
    (check x wrap).Leaves f allowed ok err s ↔
      x.Leaves f allowed (fun r s' => (checkResult (Prog.pure ()) wrap r).Leaves f allowed ok err s') err s :=
  leaves_bind' x _ s

@[simp] theorem leaves_ofOption (o : Option α) (e : String) (s : S) :
    (ofOption o e : Prog O α).Leaves f allowed ok err s ↔ (∀ a, o = some a → ok a s) ∧ (o = none → err e s) := by
  cases o <;> simp [ofOption, Leaves]

@[simp] theorem leaves_ite (c : Prop) [Decidable c] (x y : Prog O α) (s : S) :
    (if c then x else y).Leaves f allowed ok err s ↔
      (c → x.Leaves f allowed ok err s) ∧ (¬ c → y.Leaves f allowed ok err s) := by
  by_cases h : c <;> simp [h]

@[simp] theorem leaves_discard (x : Prog O α) {ok : PUnit → S → Prop} (s : S) :
    (discard x : Prog O PUnit).Leaves f allowed ok err s ↔ x.Leaves f allowed (fun _ s' => ok () s') err s :=
  leaves_bind' x _ s

@[simp] theorem leaves_tryCatch_throw (x : Prog O α) (wrap : String → String) (s : S) :
    (MonadExcept.tryCatch x fun e => throw (wrap e) : Prog O α).Leaves f allowed ok err s ↔
      x.Leaves f allowed ok (fun e s' => err (wrap e) s') s := by
  show (x.tryCatch _).Leaves f allowed ok err s ↔ _
  induction x generalizing s with
  | pure a => rfl
  | fail e => rfl
  | op o next ih => exact forall_congr' fun r => imp_congr_right fun _ => ih r _

@[simp] theorem leaves_attempt (x : Prog O α) {ok : Except String α → S → Prop} (s : S) :
    (attempt x).Leaves f allowed ok err s ↔
      x.Leaves f allowed (fun a s' => ok (.ok a) s') (fun e s' => ok (.error e) s') s := by
  show ((x.bind _).tryCatch _).Leaves f allowed ok err s ↔ _
  induction x generalizing s with
  | pure a => rfl
  | fail e => rfl
  | op o next ih => exact forall_congr' fun r => imp_congr_right fun _ => ih r _

end Prog

/-! ### The links the driver created -/

/-- The names a link answers to: a veth pair answers to both of its ends. -/
def LinkSpec.names : LinkSpec → List String
  | .dummy name _ | .macvlan name _ _ _ | .ipvlan name _ _ _ | .ipoib name _ _ _ _ => [name]
  | .veth name peerName _ => [name, peerName]

@[simp] theorem LinkSpec.names_dummy (name : String) (mtu : Int) : (LinkSpec.dummy name mtu).names = [name] :=
  rfl

@[simp] theorem LinkSpec.names_veth (name peerName : String) (mtu : Int) :
    (LinkSpec.veth name peerName mtu).names = [name, peerName] := rfl

@[simp] theorem LinkSpec.names_macvlan (name : String) (parent : Int) (mode : MacvlanMode) (mtu : Int) :
    (LinkSpec.macvlan name parent mode mtu).names = [name] := rfl

@[simp] theorem LinkSpec.names_ipvlan (name : String) (parent : Int) (mode : IPVlanMode) (mtu : Int) :
    (LinkSpec.ipvlan name parent mode mtu).names = [name] := rfl

@[simp] theorem LinkSpec.names_ipoib (name : String) (parent : Int) (pkey : UInt16) (mode : IPoIBMode)
    (mtu : Int) : (LinkSpec.ipoib name parent pkey mode mtu).names = [name] := rfl

namespace Links

/-- The links left once those answering to `name` are gone. -/
def without (links : List LinkSpec) (name : String) : List LinkSpec :=
  links.filter fun link => name ∉ link.names

/-- One system call's effect on the links: a link the kernel added is there, and a link
the kernel deleted is gone. -/
def call (links : List LinkSpec) : (call : KernelCall) → call.Reply → List LinkSpec
  | .linkAdd link, .ok () => links ++ [link]
  | .linkDel name, .ok () => without links name
  | _, _ => links

/-- One step's effect on the links: only system calls reach them. -/
def step (links : List LinkSpec) : (o : NodeOp) → o.Resp → List LinkSpec
  | .kernel c, r => call links c r
  | _, _ => links

/-- The replies of a kernel that deletes every link it is asked to. -/
def Deletes : (o : NodeOp) → o.Resp → Prop
  | .kernel (.linkDel _), r => r = .ok ()
  | _, _ => True

/-- The replies of a kernel that deletes every link it is asked to, and that reports
missing only a name none of `links` answers to. -/
def Allowed (links : List LinkSpec) : (o : NodeOp) → o.Resp → Prop
  | .kernel (.linkDel _), r => r = .ok ()
  | .kernel (.linkByName name), r => ∀ err, r = .error err → ∀ link ∈ links, name ∉ link.names
  | _, _ => True

/-- The steps that cannot touch a link. -/
def Free : NodeOp → Prop
  | .kernel (.linkAdd _) | .kernel (.linkDel _) | .kernel (.linkByName _) => False
  | _ => True

variable (links : List LinkSpec)

@[simp] theorem without_sublist (name : String) : (without links name).Sublist links :=
  List.filter_sublist links

@[simp] theorem without_without (name : String) : without (without links name) name = without links name := by
  simp [without]

theorem not_mem_without {name : String} {link : LinkSpec} (member : link ∈ without links name) :
    name ∉ link.names := by
  simpa [without] using (List.mem_filter.mp member).2

@[simp] theorem without_sublist_of {l : List LinkSpec} (sub : l.Sublist links) (name : String) :
    (without l name).Sublist links :=
  (without_sublist l name).trans sub

@[simp] theorem forall_mem_without (name : String) : ∀ link ∈ without links name, name ∉ link.names :=
  fun _ => not_mem_without links

/-- A link answering to `name` goes with it. -/
@[simp] theorem without_append_of_mem {name : String} {link : LinkSpec} (answers : name ∈ link.names) :
    without (links ++ [link]) name = without links name := by
  simp [without, List.filter_append, answers]

@[simp] theorem step_kernel (c : KernelCall) (r : c.Reply) : step links (.kernel c) r = call links c r :=
  rfl

@[simp] theorem call_linkAdd_ok (link : LinkSpec) (u : Unit) :
    call links (.linkAdd link) (.ok u) = links ++ [link] := rfl

@[simp] theorem call_linkAdd_error (link : LinkSpec) (e : String) :
    call links (.linkAdd link) (.error e) = links := rfl

@[simp] theorem call_linkDel_ok (name : String) (u : Unit) :
    call links (.linkDel name) (.ok u) = without links name := rfl

@[simp] theorem call_linkByName (name : String) (r : Except String Int) :
    call links (.linkByName name) r = links := rfl

@[simp] theorem call_linkSetUp (name : String) (r : Except String Unit) :
    call links (.linkSetUp name) r = links := rfl

@[simp] theorem call_linkSetMTU (name : String) (mtu : Int) (r : Except String Unit) :
    call links (.linkSetMTU name mtu) r = links := rfl

@[simp] theorem step_invoke (h : Handler) (c : HandlerCall) (r : Unit) : step links (.invoke h c) r = links :=
  rfl

@[simp] theorem deletes_invoke (h : Handler) (c : HandlerCall) (r : Unit) : Deletes (.invoke h c) r ↔ True :=
  Iff.rfl

@[simp] theorem allowed_invoke (h : Handler) (c : HandlerCall) (r : Unit) : Allowed links (.invoke h c) r ↔ True :=
  Iff.rfl

@[simp] theorem call_linkSetDown (name : String) (r : Except String Unit) :
    call links (.linkSetDown name) r = links := rfl

@[simp] theorem deletes_linkSetDown (name : String) (r : Except String Unit) :
    Deletes (.kernel (.linkSetDown name)) r ↔ True := Iff.rfl

@[simp] theorem deletes_linkDel (name : String) (r : Except String Unit) :
    Deletes (.kernel (.linkDel name)) r ↔ r = .ok () := Iff.rfl

@[simp] theorem deletes_linkAdd (link : LinkSpec) (r : Except String Unit) :
    Deletes (.kernel (.linkAdd link)) r ↔ True := Iff.rfl

@[simp] theorem deletes_linkByName (name : String) (r : Except String Int) :
    Deletes (.kernel (.linkByName name)) r ↔ True := Iff.rfl

@[simp] theorem deletes_linkSetUp (name : String) (r : Except String Unit) :
    Deletes (.kernel (.linkSetUp name)) r ↔ True := Iff.rfl

@[simp] theorem deletes_linkSetMTU (name : String) (mtu : Int) (r : Except String Unit) :
    Deletes (.kernel (.linkSetMTU name mtu)) r ↔ True := Iff.rfl

@[simp] theorem allowed_linkSetDown (name : String) (r : Except String Unit) :
    Allowed links (.kernel (.linkSetDown name)) r ↔ True := Iff.rfl

@[simp] theorem allowed_linkDel (name : String) (r : Except String Unit) :
    Allowed links (.kernel (.linkDel name)) r ↔ r = .ok () := Iff.rfl

@[simp] theorem allowed_linkByName (name : String) (r : Except String Int) :
    Allowed links (.kernel (.linkByName name)) r ↔ ∀ err, r = .error err → ∀ link ∈ links, name ∉ link.names :=
  Iff.rfl

/-- Every reply a kernel that finds the links it holds gives is one a kernel that
deletes every link gives. -/
theorem Allowed.deletes {o : NodeOp} {r : o.Resp} (allowed : Allowed links o r) : Deletes o r := by
  cases o with
  | kernel c => cases c <;> first | exact allowed | trivial
  | _ => trivial

theorem step_of_free {o : NodeOp} (free : Free o) (r : o.Resp) : step links o r = links := by
  cases o with
  | kernel c => cases c <;> first | rfl | exact free.elim
  | _ => rfl

end Links

/-- A kernel that deletes every link gives every step a reply such a kernel gives. -/
theorem Links.deletes_of_linkDelSucceeds {w : World} (dels : w.oracle.LinkDelSucceeds) (o : NodeOp)
    (w' : World) (same : w'.oracle = w.oracle) : Links.Deletes o (AtomicOp.exec o w').1 := by
  cases o with
  | kernel c =>
    cases c
    case linkDel name =>
      show w'.oracle w'.clock (.linkDel name) = .ok ()
      rw [same]
      exact dels _ _
    all_goals trivial
  | _ => trivial

/-- At `w`, the kernel finds every link of `links`: a lookup of a name one of them
answers to succeeds. -/
def Links.Found (links : List LinkSpec) (w : World) : Prop :=
  ∀ link ∈ links, ∀ name ∈ link.names, ∃ index, w.oracle w.clock (.linkByName name) = .ok index

/-- A kernel that deletes every link and finds the links it holds gives a step taken
at `w` a reply `Links.Allowed` allows. -/
theorem Links.allowed_of_found {w : World} (dels : w.oracle.LinkDelSucceeds) {links : List LinkSpec}
    (found : Links.Found links w) (o : NodeOp) : Links.Allowed links o (AtomicOp.exec o w).1 := by
  cases o with
  | kernel c =>
    cases c
    case linkDel name => exact dels _ _
    case linkByName name =>
      intro err failed link member named
      obtain ⟨index, answered⟩ := found link member name named
      exact nomatch failed.symm.trans answered
    all_goals trivial
  | _ => trivial

/-- A system call's step, its reply typed as the call's reply so that it can be split. -/
@[simp high] theorem Prog.leaves_op_kernel {α S : Type} {f : S → (o : NodeOp) → o.Resp → S}
    {allowed : S → (o : NodeOp) → o.Resp → Prop} {ok : α → S → Prop} {err : String → S → Prop}
    (call : KernelCall) (next : AtomicOp.Resp (NodeOp.kernel call) → NodeProg α) (s : S) :
    (Prog.op (NodeOp.kernel call) next).Leaves f allowed ok err s ↔
      ∀ r : call.Reply, allowed s (.kernel call) r → (next r).Leaves f allowed ok err (f s (.kernel call) r) :=
  Iff.rfl

/-- What a program leaves of the links, observed by the replies of a kernel that deletes
every link and finds the links it holds. -/
abbrev Prog.LeavesLinks {α : Type} (p : NodeProg α) (ok : α → List LinkSpec → Prop)
    (err : String → List LinkSpec → Prop) (links : List LinkSpec) : Prop :=
  p.Leaves Links.step Links.Allowed ok err links

/-- What a program leaves of the links, observed by the replies of a kernel that deletes
every link, whatever its lookups answer. -/
abbrev Prog.LeavesDeleted {α : Type} (p : NodeProg α) (ok : α → List LinkSpec → Prop)
    (err : String → List LinkSpec → Prop) (links : List LinkSpec) : Prop :=
  p.Leaves Links.step (fun _ => Links.Deletes) ok err links

theorem Prog.LeavesDeleted.leavesLinks {α : Type} {p : NodeProg α} {ok : α → List LinkSpec → Prop}
    {err : String → List LinkSpec → Prop} {links : List LinkSpec} (h : p.LeavesDeleted ok err links) :
    p.LeavesLinks ok err links :=
  h.of_allowed fun links _ _ allowed => allowed.deletes links

section Free

variable {α : Type} {allowed : List LinkSpec → (o : NodeOp) → o.Resp → Prop} {p : NodeProg α}
  {ok : α → List LinkSpec → Prop} {err : String → List LinkSpec → Prop} {links : List LinkSpec}

theorem Prog.leavesLinks_of_free (free : p.AllOps Links.Free) (oks : ∀ a, ok a links) (errs : ∀ e, err e links) :
    p.Leaves Links.step allowed ok err links :=
  Prog.leaves_of_allOps (free.mono fun _ free _ r => Links.step_of_free _ free r) oks errs

theorem Prog.leavesLinks_of_neverFails (free : p.AllOps Links.Free) (never : p.NeverFails) (oks : ∀ a, ok a links) :
    p.Leaves Links.step allowed ok err links :=
  Prog.leaves_of_neverFails (free.mono fun _ free _ r => Links.step_of_free _ free r) never oks

end Free

/-! ### What a `Prepare` leaves -/

@[simp] theorem Metadata.get_cons_self (key value : String) (rest : Metadata) :
    Metadata.get ((key, value) :: rest) key = value := by
  simp [Metadata.get, List.lookup_cons]

/-- An interface name is empty only when its prefix is. -/
@[simp] theorem append_eq_empty_iff {front back : String} : front ++ back = "" ↔ front = "" ∧ back = "" := by
  simp [String.ext_iff]

/-- The name of the link `h`'s `Unprepare` deletes for `alloc`, for the handlers that
create one: the created interface, or the host end of a veth pair, and for RoCE the one
its netdev side deletes on the allocation it rebuilds. -/
def Handler.releasedLink : Handler → AllocationInfo → Option String
  | .dummy, alloc | .macvlan, alloc | .ipvlan, alloc | .ipoib, alloc =>
    some (alloc.metadata.get "createdInterface")
  | .veth, alloc => some (alloc.metadata.get "hostEnd")
  | .roce _ netdev, alloc => netdev.releasedLink (roceNetAllocation ⟨alloc.claimUID, alloc⟩)
  | _, _ => none

/-- The links a successful `Prepare` of `h` leaves from `links`: the same links, and,
when `h` creates a link, one more, answering to the non-empty name its `Unprepare`
deletes. -/
def Handler.Created (h : Handler) (links : List LinkSpec) (result : PrepareResult)
    (links' : List LinkSpec) : Prop :=
  match h.releasedLink result.allocation with
  | none => links' = links
  | some name => name ≠ "" ∧ ∃ link, name ∈ link.names ∧ links' = links ++ [link]

theorem findAvailableVF_free (pf : String) (vfIndex : Int) :
    (findAvailableVF pf vfIndex).AllOps Links.Free := by
  have scan : ∀ dir entries, (firstVirtfnNet dir entries).AllOps Links.Free := fun dir entries => by
    induction entries with
    | nil => simp [firstVirtfnNet]
    | cons entry rest ih =>
      simp only [firstVirtfnNet]
      split
      · exact ih
      · simp [KernelCall.Reply, kernel, Links.Free, ih]
        rintro (_ | _) <;> simp [ih]
  simp only [findAvailableVF]
  split
  · simp [KernelCall.Reply, kernel, Links.Free]
    rintro (_ | _) <;> simp
  · simp [KernelCall.Reply, kernel, Links.Free, scan]
    exact fun _ => (Prog.returns_true _).mono fun found _ => by cases found <;> simp

theorem inPodNetns_free (podNetnsPath : String) (body : NsHandle → NodeProg Unit)
    (free : ∀ ns, (body ns).AllOps Links.Free) : (inPodNetns podNetnsPath body).AllOps Links.Free := by
  simp [KernelCall.Reply, kernel, inPodNetns, enterPodNetns, Links.Free, free]

theorem returnRDMAToHost_free (ibDev podNetnsPath : String) :
    (returnRDMAToHost ibDev podNetnsPath).AllOps Links.Free :=
  inPodNetns_free _ _ fun _ => by simp [KernelCall.Reply, kernel, returnDevice, Links.Free]

theorem uverbsPrepare_free (hasTracker : Bool) (req : PrepareRequest) :
    (uverbsPrepare hasTracker req).AllOps Links.Free := by
  simp only [uverbsPrepare, uverbsProbe, kernel, KernelCall.Reply, resolveIBDevice, uverbsEdits,
    findAvailableUverbs, detectNetnsMode, RDMANetnsTracker.addPendingOp, Prog.allOps_ite,
    Prog.allOps_bind, Prog.allOps_tryCatch_throw, allOps_op_kernel, Prog.allOps_pure_ctor, implies_true,
    and_self, returns_op_kernel, Prog.returns_pure_ctor, forall_except_iff, Prog.allOps_throw, true_and,
    Prog.allOps_check, Prog.allOps_pure, Prog.returns_pure, Prog.returns_bind, Prog.returns_ite,
    Prog.returns_const_true, Prog.returns_check, Prog.returns_tryCatch_throw, and_true, Prog.allOps_op,
    Links.Free]
  intro _ entries
  split <;> trivial

theorem uverbsUnprepare_free (hasTracker : Bool) (req : UnprepareRequest) :
    (uverbsUnprepare hasTracker req).AllOps Links.Free := by
  simp [uverbsUnprepare, detectNetnsMode, RDMANetnsTracker.removePendingOp, RDMANetnsTracker.removeActiveOp,
    Links.Free, returnRDMAToHost_free]

theorem Prog.Leaves.and_returns {O : Type} [AtomicOp O] {α S : Type} {f : S → (o : O) → AtomicOp.Resp o → S}
    {allowed : S → (o : O) → AtomicOp.Resp o → Prop} {ok : α → S → Prop} {err : String → S → Prop}
    {Q : α → Prop} {p : Prog O α} {s : S} (leaves : p.Leaves f allowed ok err s) (returns : p.Returns Q) :
    p.Leaves f allowed (fun a s' => ok a s' ∧ Q a) err s := by
  induction p generalizing s with
  | pure a => exact ⟨leaves, returns⟩
  | fail e => exact leaves
  | op o next ih => exact fun r allowed => ih r (leaves r allowed) (returns r)

theorem validateNetdev_free (kind : String) (required : List (NetdevConfig → String × String))
    (cfg : DeviceConfig) : (validateNetdev kind required cfg).AllOps Links.Free := by
  simp only [validateNetdev, requireNetdev, Prog.allOps_bind, Prog.allOps_ofOption, true_and]
  exact (Prog.returns_true _).mono fun netdev _ =>
    ⟨Prog.allOps_forIn _ _ _ _ fun field _ _ => by split <;> simp, by simp⟩

theorem Handler.validate_free {h : Handler} (tracked : h.Tracked) (cfg : DeviceConfig) :
    (h.validate cfg).AllOps Links.Free := by
  rcases tracked with (rfl | rfl | rfl | rfl | rfl | rfl | rfl) | _ | _ <;>
    simp [Handler.validate, invoke, Links.Free, dummyValidate, vethValidate, sriovVfValidate, macvlanValidate,
      ipvlanValidate, hostDeviceValidate, ipoibValidate, requireNetdev, roceValidate, validateNetdev_free]

/-- **What a netdev handler's `Prepare` leaves.** On a kernel that deletes every link,
a failed `Prepare` of a netdev handler leaves only links that were there before, and a
successful one adds the one link it created, if any, answering to the name its
`Unprepare` deletes. -/
theorem Handler.netdev_prepare_leaves {h : Handler} (isNetdev : h.IsNetdev) (req : PrepareRequest)
    (links : List LinkSpec) :
    (h.prepare req).LeavesDeleted (h.Created links) (fun _ links' => links'.Sublist links) links := by
  rcases isNetdev with rfl | rfl | rfl | rfl | rfl | rfl | rfl <;>
    simp [Handler.prepare, invoke, dummyPrepare, vethPrepare, macvlanPrepare, ipvlanPrepare,
      sriovVfPrepare, hostDevicePrepare, ipoibPrepare, requireNetdev, linkSetUpOrDelete, kernel,
      KernelCall.Reply, Handler.Created, Handler.releasedLink, netdevResult]
  intros
  exact Prog.leavesLinks_of_free (findAvailableVF_free _ _) (fun _ => by simp) fun _ => List.Sublist.refl _

theorem Handler.uverbs_prepare_free (hasTracker : Bool) (req : PrepareRequest) :
    ((Handler.uverbs hasTracker).prepare req).AllOps Links.Free := by
  simp [Handler.prepare, invoke, Links.Free, uverbsPrepare_free]

theorem Handler.uverbs_unprepare_free (hasTracker : Bool) (req : UnprepareRequest) :
    ((Handler.uverbs hasTracker).unprepare req).AllOps Links.Free := by
  simp [Handler.unprepare, invoke, Links.Free, uverbsUnprepare_free]

theorem Handler.uverbs_unprepare_neverFails (hasTracker : Bool) (req : UnprepareRequest) :
    ((Handler.uverbs hasTracker).unprepare req).NeverFails := by
  simp [Handler.unprepare, invoke, uverbsUnprepare, detectNetnsMode, RDMANetnsTracker.removePendingOp,
    RDMANetnsTracker.removeActiveOp, returnRDMAToHost_neverFails]

/-- RoCE over a netdev handler releases the link its netdev side created. -/
theorem Handler.releasedLink_roceAllocation {netdev : Handler} (isNetdev : netdev.IsNetdev) (rdma : Handler)
    (claimUID : String) (rdmaResult netResult : PrepareResult) :
    (Handler.roce rdma netdev).releasedLink (roceAllocation claimUID rdmaResult netResult) =
      netdev.releasedLink netResult.allocation := by
  rcases isNetdev with rfl | rfl | rfl | rfl | rfl | rfl | rfl <;> rfl

theorem Handler.roce_prepare_leaves {netdev : Handler} (isNetdev : netdev.IsNetdev) (req : PrepareRequest)
    (links : List LinkSpec) :
    ((Handler.roce (.uverbs true) netdev).prepare req).LeavesDeleted
      ((Handler.roce (.uverbs true) netdev).Created links) (fun _ links' => links'.Sublist links) links := by
  simp only [Handler.prepare, invoke, rocePrepare, Prog.leaves_bind, Prog.leaves_op, Links.deletes_invoke,
    Links.step_invoke, Prog.leaves_pure_ctor, Prog.leaves_ofOption, Prog.leaves_tryCatch_throw,
    Prog.leaves_checkUndo, Prog.leaves_attempt]
  refine fun _ _ => ⟨fun cfg _ => ?_, fun _ => List.Sublist.refl _⟩
  refine fun _ _ => Prog.leavesLinks_of_free (uverbsPrepare_free true _) (fun rdma => ?_) fun _ => List.Sublist.refl _
  refine (Handler.netdev_prepare_leaves isNetdev _ links).mono (fun net _ created => ?_) fun _ _ sub => ?_
  · simpa [Handler.Created, roceResult, Handler.releasedLink_roceAllocation isNetdev] using created
  · simp only [Prog.leaves_checkResult_error, Prog.leaves_discard, Prog.leaves_attempt]
    exact Prog.leavesLinks_of_free (Handler.uverbs_unprepare_free true _) (fun _ => sub) fun _ => sub


/-- **What a `Prepare` leaves of the links.** For every handler the repository
registers, on a kernel that deletes every link, a failed `Prepare` leaves only links
that were there before, and a successful one adds at most one link, which answers to
the non-empty name its `Unprepare` deletes. -/
theorem Handler.prepare_leaves {h : Handler} (tracked : h.Tracked) (req : PrepareRequest)
    (links : List LinkSpec) :
    (h.prepare req).LeavesDeleted (h.Created links) (fun _ links' => links'.Sublist links) links := by
  cases tracked with
  | netdev isNetdev => exact Handler.netdev_prepare_leaves isNetdev req links
  | uverbs =>
    exact Prog.leavesLinks_of_free (Handler.uverbs_prepare_free true req) (fun _ => (rfl : links = links))
      fun _ => List.Sublist.refl _
  | roce isNetdev => exact Handler.roce_prepare_leaves isNetdev req links

/-! ### What an `Unprepare` leaves -/

/-- The links an `Unprepare` of `h` on `alloc` may leave from `links`: some of them, and
none answering to the name of the link it deletes. -/
def Handler.Released (h : Handler) (alloc : AllocationInfo) (links links' : List LinkSpec) : Prop :=
  links'.Sublist links ∧ ∀ name, h.releasedLink alloc = some name → name ≠ "" → ∀ link ∈ links', name ∉ link.names

theorem deleteCreatedLink_leaves (key : String) (message : String → String → String) (req : UnprepareRequest)
    (links : List LinkSpec) :
    (deleteCreatedLink key message req).LeavesLinks
      (fun _ links' => links'.Sublist links ∧ (req.allocation.metadata.get key ≠ "" →
        ∀ link ∈ links', req.allocation.metadata.get key ∉ link.names))
      (fun _ _ => False) links := by
  simp +contextual [deleteCreatedLink, kernel, KernelCall.Reply]
  exact fun _ => Links.forall_mem_without links _


theorem Handler.netdev_unprepare_leaves {h : Handler} (isNetdev : h.IsNetdev) (alloc : AllocationInfo)
    (links : List LinkSpec) :
    (h.unprepare ⟨alloc.claimUID, alloc⟩).LeavesLinks (fun _ => h.Released alloc links)
      (fun _ _ => False) links := by
  rcases isNetdev with rfl | rfl | rfl | rfl | rfl | rfl | rfl
  all_goals simp only [Handler.unprepare, invoke, Prog.leaves_bind, Prog.leaves_op, Links.allowed_invoke,
    Links.step_invoke, Prog.leaves_pure_ctor, forall_const]
  all_goals intro _
  case inr.inr.inr.inl => simp [sriovVfUnprepare, kernel, KernelCall.Reply, Handler.Released, Handler.releasedLink]
  case inr.inr.inr.inr.inr.inl => simp [hostDeviceUnprepare, Handler.Released, Handler.releasedLink]
  all_goals
    exact (deleteCreatedLink_leaves _ _ _ links).mono
      (fun _ _ deleted => ⟨deleted.1, fun _ named => by cases named; exact deleted.2⟩) fun _ _ => id


theorem Handler.roce_unprepare_leaves {netdev : Handler} (isNetdev : netdev.IsNetdev) (alloc : AllocationInfo)
    (links : List LinkSpec) :
    ((Handler.roce (.uverbs true) netdev).unprepare ⟨alloc.claimUID, alloc⟩).LeavesLinks
      (fun _ => (Handler.roce (.uverbs true) netdev).Released alloc links) (fun _ _ => False) links := by
  show (invoke _ _ >>= fun _ => roceUnprepare (Handler.uverbs true).unprepare netdev.unprepare _).LeavesLinks _ _ _
  simp only [invoke, roceUnprepare, Prog.leaves_bind, Prog.leaves_op, Links.allowed_invoke, Links.step_invoke,
    Prog.leaves_attempt]
  intro _ _
  refine (Handler.netdev_unprepare_leaves isNetdev (roceNetAllocation ⟨alloc.claimUID, alloc⟩) links).mono
    (fun _ _ released => ?_) fun _ _ => False.elim
  refine Prog.leavesLinks_of_neverFails (Handler.uverbs_unprepare_free true _)
    (Handler.uverbs_unprepare_neverFails true _) fun _ => ?_
  simpa [sideError] using released


/-- **What an `Unprepare` leaves of the links.** For every handler the repository
registers, on a kernel that deletes every link, an `Unprepare` of an allocation leaves
only links that were there before, none answering to the name of the link the
allocation records, and it does not fail. -/
theorem Handler.unprepare_leaves {h : Handler} (tracked : h.Tracked) (alloc : AllocationInfo)
    (links : List LinkSpec) :
    (h.unprepare ⟨alloc.claimUID, alloc⟩).LeavesLinks (fun _ => h.Released alloc links)
      (fun _ _ => False) links := by
  cases tracked with
  | netdev isNetdev => exact Handler.netdev_unprepare_leaves isNetdev alloc links
  | uverbs =>
    exact Prog.leavesLinks_of_neverFails (Handler.uverbs_unprepare_free true _)
      (Handler.uverbs_unprepare_neverFails true _) fun _ => ⟨List.Sublist.refl _, fun _ none => nomatch none⟩
  | roce isNetdev => exact Handler.roce_unprepare_leaves isNetdev alloc links


theorem Prog.leavesDeleted_run {α : Type} {p : NodeProg α} {ok : α → List LinkSpec → Prop}
    {err : String → List LinkSpec → Prop} {links : List LinkSpec} (h : p.LeavesDeleted ok err links) {w : World}
    (dels : w.oracle.LinkDelSucceeds) :
    (∀ a, (p.run w).1 = .ok a → ok a (p.observe Links.step w links)) ∧
      ∀ e, (p.run w).1 = .error e → err e (p.observe Links.step w links) :=
  h.run w fun _ => Links.deletes_of_linkDelSucceeds dels

/-- Released after it was created, a handler's link is gone: what is left are links that
were there before the `Prepare`. -/
theorem Handler.Created.sublist_of_released {h : Handler} {links links₁ links₂ : List LinkSpec}
    {result : PrepareResult} (created : h.Created links result links₁)
    (released : h.Released result.allocation links₁ links₂) : links₂.Sublist links := by
  unfold Handler.Created at created
  cases named : h.releasedLink result.allocation with
  | none =>
    rw [named] at created
    exact created ▸ released.1
  | some name =>
    rw [named] at created
    obtain ⟨nonempty, link, answers, rfl⟩ := created
    obtain ⟨front, back, rfl, kept, last⟩ := List.sublist_append_iff.mp released.1
    rcases List.sublist_singleton.mp last with rfl | rfl
    · simpa using kept
    · exact absurd answers (released.2 name named nonempty link (by simp))


/-! ### Runs -/

/-- **A `Prepare` is atomic on the links.** For every handler the repository registers,
every request, and every world whose kernel deletes every link it is asked to: when the
`Prepare` fails, the links are some of those there before; when it succeeds, they are
those there before and, if the handler creates a link, one more, answering to the
non-empty name the handler's `Unprepare` deletes for the allocation returned. -/
theorem Handler.prepare_link_atomic {h : Handler} (tracked : h.Tracked) (req : PrepareRequest) (w : World)
    (dels : w.oracle.LinkDelSucceeds) (links : List LinkSpec) :
    let links' := (h.prepare req).observe Links.step w links
    (∀ err, ((h.prepare req).run w).1 = .error err → links'.Sublist links) ∧
      ∀ result, ((h.prepare req).run w).1 = .ok result → h.Created links result links' :=
  (Prog.leavesDeleted_run (Handler.prepare_leaves tracked req links) dels).symm

/-- A request for a dummy interface. -/
def dummyRequest : PrepareRequest :=
  ⟨"0badc0de-1234-5678-abcd-1234567890ab", "", { type := deviceTypeNetdev, netdev := some { kind := "dummy" } }⟩

theorem dummy_prepare_link_atomic :
    Handler.dummy.Tracked ∧ Oracle.healthy.LinkDelSucceeds ∧
      (let links' := (Handler.dummy.prepare dummyRequest).observe Links.step (World.start Oracle.healthy) []
       (∀ err, ((Handler.dummy.prepare dummyRequest).run (World.start Oracle.healthy)).1 = .error err →
          links'.Sublist []) ∧
        ∀ result, ((Handler.dummy.prepare dummyRequest).run (World.start Oracle.healthy)).1 = .ok result →
          Handler.dummy.Created [] result links') :=
  ⟨.netdev (by simp [Handler.IsNetdev]), fun _ _ => rfl,
    Handler.prepare_link_atomic (.netdev (by simp [Handler.IsNetdev])) dummyRequest _ (fun _ _ => rfl) []⟩

end DraMultiDevice
