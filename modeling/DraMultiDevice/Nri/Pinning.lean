import DraMultiDevice.Nri.Plugin

/-!
# The OS thread's network namespace

`returnRDMAToHost` (`pkg/handler/rdma/system.go`) and `Plugin.StopPodSandbox` pin the
goroutine to its OS thread, open `/proc/1/ns/net`, switch the thread into the pod's
network namespace to reach the pod's RDMA devices, and on the way out run the deferred
`netns.Set(hostNS)` and then `runtime.UnlockOSThread`. Their shared frame is
`inPodNetns`. This module follows the thread's namespace through a run.

`Prog.observe` folds an observer over the steps of a run, each with the reply it got, in
the order `Prog.run` takes them. The thread is such an observer (`Thread.step`): a
successful `netns.Set` moves it into the namespace of the handle, and an
`UnlockOSThread` records the namespace the thread is released in. Namespaces are
abstract: `Namespaces` says which namespace the file at a path and an open handle refer
to, and `Oracle.Opens` says that the handle `netns.GetFromPath` returns refers to the
namespace at the path.

## Main results

* `inPodNetns_thread`: the frame unpins the thread exactly once, and releases it in the
  namespace it entered in or in the namespace of `/proc/1/ns/net`, provided the kernel
  lets the thread back into the init namespace.
* `netns_pinning_releases_entry_or_init`: the same for `returnRDMAToHost` and
  `StopPodSandbox`.
-/

namespace DraMultiDevice

/-! ### What a run observes -/

namespace Prog

variable {O : Type} [AtomicOp O] {α β S : Type}

/-- Fold `f` over the steps a run takes, each with the reply it gets. -/
def observe (f : S → (o : O) → AtomicOp.Resp o → S) : Prog O α → World → S → S
  | .pure _, _, s => s
  | .fail _, _, s => s
  | .op o next, w, s =>
    (next (AtomicOp.exec o w).1).observe f (AtomicOp.exec o w).2 (f s o (AtomicOp.exec o w).1)

variable (f : S → (o : O) → AtomicOp.Resp o → S)

@[simp] theorem observe_pure (a : α) (w : World) (s : S) :
    (Pure.pure a : Prog O α).observe f w s = s := rfl

@[simp] theorem observe_op (o : O) (next : AtomicOp.Resp o → Prog O α) (w : World) (s : S) :
    (Prog.op o next).observe f w s =
      (next (AtomicOp.exec o w).1).observe f (AtomicOp.exec o w).2 (f s o (AtomicOp.exec o w).1) :=
  rfl

@[simp] theorem observe_op_bind (o : O) (next : AtomicOp.Resp o → Prog O α) (g : α → Prog O β)
    (w : World) (s : S) :
    (Prog.op o next >>= g).observe f w s =
      (next (AtomicOp.exec o w).1 >>= g).observe f (AtomicOp.exec o w).2
        (f s o (AtomicOp.exec o w).1) :=
  rfl

@[simp] theorem observe_pure_bind (a : α) (g : α → Prog O β) (w : World) (s : S) :
    (Prog.pure a >>= g).observe f w s = (g a).observe f w s := rfl

/-- A sequence is observed as its first part, then, if that returned, its rest from the
world the first part left. -/
theorem observe_bind (x : Prog O α) (g : α → Prog O β) (w : World) (s : S) :
    (x >>= g).observe f w s =
      match (x.run w).1 with
      | .ok a => (g a).observe f (x.run w).2 (x.observe f w s)
      | .error _ => x.observe f w s := by
  induction x generalizing w s with
  | pure a => rfl
  | fail err => rfl
  | op o next ih => exact ih _ _ _

theorem observe_of_allOps {x : Prog O α} (ignored : x.AllOps fun o => ∀ s r, f s o r = s)
    (w : World) (s : S) : x.observe f w s = s := by
  induction x generalizing w s with
  | pure a => rfl
  | fail err => rfl
  | op o next ih => rw [observe_op, ignored.1, ih _ (ignored.2 _)]

end Prog

/-! ### The thread -/

/-- What the namespace files at paths and the open namespace handles refer to. -/
structure Namespaces (N : Type) where
  atPath : String → N
  ofHandle : NsHandle → N

/-- The handle `netns.GetFromPath` returns refers to the namespace at the path. -/
def Oracle.Opens {N : Type} (o : Oracle) (ns : Namespaces N) : Prop :=
  ∀ n path h, o n (.netnsGetFromPath path) = .ok h → ns.ofHandle h = ns.atPath path

/-- The OS thread the code runs on: its network namespace, and the namespace it was in at
each `runtime.UnlockOSThread`, in order. -/
structure Thread (N : Type) where
  netns : N
  unlockedIn : List N
  deriving DecidableEq, Repr

variable {N : Type} (ns : Namespaces N)

/-- One system call's effect on the thread: `netns.Set` moves it into the handle's
namespace when the kernel accepts it, and `UnlockOSThread` releases it where it is. -/
def Thread.call (t : Thread N) : (call : KernelCall) → call.Reply → Thread N
  | .netnsSet h, .ok () => { t with netns := ns.ofHandle h }
  | .unlockOSThread, _ => { t with unlockedIn := t.unlockedIn ++ [t.netns] }
  | _, _ => t

/-- One step's effect on the thread: only system calls reach it. -/
def Thread.step (t : Thread N) : (o : NodeOp) → o.Resp → Thread N
  | .kernel call, r => t.call ns call r
  | _, _ => t

@[simp] theorem Thread.step_kernel (t : Thread N) (call : KernelCall) (r : call.Reply) :
    t.step ns (.kernel call) r = t.call ns call r := rfl

@[simp] theorem Thread.call_lockOSThread (t : Thread N) (r : Except String Unit) :
    t.call ns .lockOSThread r = t := rfl

@[simp] theorem Thread.call_netnsGetFromPath (t : Thread N) (path : String)
    (r : Except String NsHandle) : t.call ns (.netnsGetFromPath path) r = t := rfl

@[simp] theorem Thread.call_netnsSet_ok (t : Thread N) (h : NsHandle) :
    t.call ns (.netnsSet h) (.ok ()) = { t with netns := ns.ofHandle h } := rfl

@[simp] theorem Thread.call_netnsSet_error (t : Thread N) (h : NsHandle) (err : String) :
    t.call ns (.netnsSet h) (.error err) = t := rfl

@[simp] theorem Thread.call_unlockOSThread (t : Thread N) (r : Except String Unit) :
    t.call ns .unlockOSThread r = { t with unlockedIn := t.unlockedIn ++ [t.netns] } := rfl

@[simp] theorem World.tick_clock (w : World) (call : KernelCall) :
    (w.tick call).clock = w.clock + 1 := rfl

/-- The steps that leave the thread alone: every step but `netns.Set` and
`UnlockOSThread`. -/
def NodeOp.KeepsThread : NodeOp → Prop
  | .kernel (.netnsSet _) | .kernel .unlockOSThread => False
  | _ => True

theorem Thread.step_of_keepsThread {o : NodeOp} (keeps : o.KeepsThread) (t : Thread N)
    (r : o.Resp) : t.step ns o r = t := by
  cases o with
  | kernel call => cases call <;> first | rfl | cases keeps
  | _ => rfl

/-! ### The frame `inPodNetns` -/

theorem returnDevice_keepsThread (ibDev : String) (h : NsHandle) :
    (returnDevice ibDev h).AllOps NodeOp.KeepsThread := by
  simp [KernelCall.Reply, kernel, returnDevice, NodeOp.KeepsThread]

/-- `enterPodNetns` answers whether it switched the thread, and it switched it into the
namespace at the pod's path exactly then. -/
theorem enterPodNetns_thread (path : String) (w : World) (t : Thread N)
    (opens : w.oracle.Opens ns) :
    ∃ entered, ((enterPodNetns path).run w).1 = .ok entered ∧
      (enterPodNetns path).observe (Thread.step ns) w t =
        if entered then { t with netns := ns.atPath path } else t := by
  unfold enterPodNetns
  split
  · exact ⟨false, rfl, rfl⟩
  · cases opened : w.oracle w.clock (.netnsGetFromPath path) with
    | error err => exact ⟨false, by simp [kernel, opened], by simp [kernel, opened]⟩
    | ok podNS =>
      cases set : w.oracle (w.clock + 1) (.netnsSet podNS) with
      | error err =>
        exact ⟨false, by simp [kernel, opened, set, World.tick], by simp [kernel, opened, set, World.tick]⟩
      | ok u =>
        cases u
        refine ⟨true, by simp [kernel, opened, set, World.tick], ?_⟩
        simp [kernel, opened, set, World.tick, opens _ _ _ opened]

/-- The frame of `returnRDMAToHost` and `StopPodSandbox`, around a body that never fails
and neither switches nor unpins the thread: it unpins the thread exactly once, and releases
it in the namespace it was in on entry or in the namespace of `/proc/1/ns/net`, where the
deferred `netns.Set(hostNS)` puts it back, provided the kernel accepts that call. -/
theorem inPodNetns_thread (path : String) {body : NsHandle → NodeProg Unit}
    (keeps : ∀ h, (body h).AllOps NodeOp.KeepsThread) (never : ∀ h, (body h).NeverFails)
    (w : World) (t : Thread N) (opens : w.oracle.Opens ns)
    (restores : ∀ n h, ns.ofHandle h = ns.atPath initNetnsPath → w.oracle n (.netnsSet h) = .ok ()) :
    ∃ final, (inPodNetns path body).observe (Thread.step ns) w t = ⟨final, t.unlockedIn ++ [final]⟩ ∧
      (final = t.netns ∨ final = ns.atPath initNetnsPath) := by
  unfold inPodNetns
  simp only [kernel, Prog.observe_op_bind, exec_kernel, Prog.observe_pure_bind, World.tick_clock,
    World.tick_oracle, Thread.step_kernel, Thread.call_lockOSThread, Thread.call_netnsGetFromPath]
  cases hostOpened : w.oracle (w.clock + 1) (.netnsGetFromPath initNetnsPath) with
  | error err => exact ⟨t.netns, rfl, .inl rfl⟩
  | ok hostNS =>
    have host := opens _ _ _ hostOpened
    generalize opened : (w.tick .lockOSThread).tick (.netnsGetFromPath initNetnsPath) = w₂
    obtain ⟨entered, ran, seen⟩ := enterPodNetns_thread ns path w₂ t (opened ▸ opens)
    obtain ⟨u, ranBody⟩ := (never hostNS).run ((enterPodNetns path).run w₂).2
    have oracle : ((body hostNS).run ((enterPodNetns path).run w₂).2).2.oracle = w.oracle :=
      ((Prog.run_oracle _ _).trans (Prog.run_oracle _ _)).trans (opened ▸ rfl)
    simp only [Prog.observe_bind, ran, seen, ranBody]
    rw [Prog.observe_of_allOps _ ((keeps hostNS).mono fun o kept s r =>
      Thread.step_of_keepsThread ns kept s r)]
    generalize ((body hostNS).run _).2 = after at oracle
    cases entered
    · exact ⟨t.netns, rfl, .inl rfl⟩
    · refine ⟨ns.atPath initNetnsPath, ?_, .inr rfl⟩
      simp only [kernel, Prog.observe_op_bind, exec_kernel, oracle, restores _ _ host,
        Thread.step_kernel, Thread.call_netnsSet_ok, host, ↓reduceIte]
      rfl

/-! ### `returnRDMAToHost` and `StopPodSandbox` -/

theorem stopPodSandbox_neverFails (pod : PodSandbox) : (Plugin.stopPodSandbox pod).NeverFails := by
  simp only [Plugin.stopPodSandbox, RDMANetnsTracker.removeActiveForPodOp, Prog.neverFails_bind,
    Prog.neverFails_op, Prog.neverFails_pure_ctor, Prog.returns_op, Prog.returns_pure_ctor]
  refine ⟨fun _ => trivial, fun moves => ?_⟩
  split
  · trivial
  · exact Plugin.inPodNetns_neverFails _ fun h =>
      Prog.neverFails_forM _ _ fun m _ => Plugin.returnDevice_neverFails m.ibDev h

/-- `StopPodSandbox` leaves the thread alone (when the pod has no active moves it returns
before pinning the thread), or acts on it as its frame does. -/
theorem stopPodSandbox_thread (pod : PodSandbox) (w : World) (t : Thread N)
    (opens : w.oracle.Opens ns)
    (restores : ∀ n h, ns.ofHandle h = ns.atPath initNetnsPath → w.oracle n (.netnsSet h) = .ok ()) :
    (Plugin.stopPodSandbox pod).observe (Thread.step ns) w t = t ∨
      ∃ final, (Plugin.stopPodSandbox pod).observe (Thread.step ns) w t =
        ⟨final, t.unlockedIn ++ [final]⟩ ∧ (final = t.netns ∨ final = ns.atPath initNetnsPath) := by
  simp only [Plugin.stopPodSandbox, RDMANetnsTracker.removeActiveForPodOp, Prog.observe_op_bind,
    Prog.observe_pure_bind]
  split
  · exact .inl rfl
  · exact .inr (inPodNetns_thread ns _ (fun h => Prog.allOps_forM _ _ _ fun m _ =>
      returnDevice_keepsThread m.ibDev h) (fun h => Prog.neverFails_forM _ _ fun m _ =>
      Plugin.returnDevice_neverFails m.ibDev h) _ t opens restores)

/-- Namespace pinning in `returnRDMAToHost` and `StopPodSandbox`. Whatever the entry
namespace and the outcome of every namespace and RDMA call, both return, and each unpins the
thread at most once, `returnRDMAToHost` exactly once. The thread is then in its entry
namespace or in the namespace of `/proc/1/ns/net`, given that each handle opened refers to
the namespace at its path and that the kernel lets the thread back into the init namespace. -/
theorem netns_pinning_releases_entry_or_init (w : World) (entry : N) (opens : w.oracle.Opens ns)
    (restores : ∀ n h, ns.ofHandle h = ns.atPath initNetnsPath → w.oracle n (.netnsSet h) = .ok ()) :
    (∀ ibDev podNetnsPath, ((returnRDMAToHost ibDev podNetnsPath).run w).1 = .ok () ∧
      ∃ final, (returnRDMAToHost ibDev podNetnsPath).observe (Thread.step ns) w ⟨entry, []⟩ =
        ⟨final, [final]⟩ ∧ (final = entry ∨ final = ns.atPath initNetnsPath)) ∧
    ∀ pod, ((Plugin.stopPodSandbox pod).run w).1 = .ok () ∧
      ((Plugin.stopPodSandbox pod).observe (Thread.step ns) w ⟨entry, []⟩ = ⟨entry, []⟩ ∨
        ∃ final, (Plugin.stopPodSandbox pod).observe (Thread.step ns) w ⟨entry, []⟩ =
          ⟨final, [final]⟩ ∧ (final = entry ∨ final = ns.atPath initNetnsPath)) := by
  refine ⟨fun ibDev path => ⟨?_, ?_⟩, fun pod => ⟨?_, ?_⟩⟩
  · obtain ⟨u, ran⟩ := (Plugin.inPodNetns_neverFails path (Plugin.returnDevice_neverFails ibDev)).run w
    exact ran
  · exact inPodNetns_thread ns path (returnDevice_keepsThread ibDev)
      (Plugin.returnDevice_neverFails ibDev) w ⟨entry, []⟩ opens restores
  · obtain ⟨u, ran⟩ := (stopPodSandbox_neverFails pod).run w
    exact ran
  · exact stopPodSandbox_thread ns pod w ⟨entry, []⟩ opens restores

/-! ### A node with one pod -/

/-- The namespaces of a node with one pod: `/proc/1/ns/net` holds the init namespace and
every other path the pod's; handle 0 refers to the init namespace and every other handle to
the pod's. -/
def onePodNamespaces : Namespaces String :=
  ⟨fun path => if path = initNetnsPath then "init" else "pod",
    fun h => if h = 0 then "init" else "pod"⟩

/-- A kernel in which every call succeeds, `netns.GetFromPath` opening handle 0 for
`/proc/1/ns/net` and handle 1 for any other path. -/
def onePodKernel : Oracle := fun n call => match call with
  | .netnsGetFromPath path => .ok (if path = initNetnsPath then 0 else 1)
  | call => Oracle.healthy n call

theorem one_pod_thread_released :
    onePodKernel.Opens onePodNamespaces ∧
      (∀ n h, onePodNamespaces.ofHandle h = onePodNamespaces.atPath initNetnsPath →
        (World.start onePodKernel).oracle n (.netnsSet h) = .ok ()) ∧
      (∀ ibDev podNetnsPath,
        ((returnRDMAToHost ibDev podNetnsPath).run (World.start onePodKernel)).1 = .ok () ∧
        ∃ final, (returnRDMAToHost ibDev podNetnsPath).observe (Thread.step onePodNamespaces)
            (World.start onePodKernel) ⟨"init", []⟩ = ⟨final, [final]⟩ ∧
          (final = "init" ∨ final = onePodNamespaces.atPath initNetnsPath)) ∧
      ∀ pod, ((Plugin.stopPodSandbox pod).run (World.start onePodKernel)).1 = .ok () ∧
        ((Plugin.stopPodSandbox pod).observe (Thread.step onePodNamespaces)
            (World.start onePodKernel) ⟨"init", []⟩ = ⟨"init", []⟩ ∨
          ∃ final, (Plugin.stopPodSandbox pod).observe (Thread.step onePodNamespaces)
              (World.start onePodKernel) ⟨"init", []⟩ = ⟨final, [final]⟩ ∧
            (final = "init" ∨ final = onePodNamespaces.atPath initNetnsPath)) :=
  have opens : onePodKernel.Opens onePodNamespaces := fun n path h opened => by
    cases opened
    by_cases init : path = initNetnsPath <;> simp [onePodNamespaces, init]
  have restores : ∀ n h, onePodNamespaces.ofHandle h = onePodNamespaces.atPath initNetnsPath →
      (World.start onePodKernel).oracle n (.netnsSet h) = .ok () := fun _ _ _ => rfl
  ⟨opens, restores,
    netns_pinning_releases_entry_or_init onePodNamespaces (World.start onePodKernel) "init" opens
      restores⟩

/-- `onePodKernel`, except that it refuses to set a thread into the init namespace. -/
def noReturnKernel : Oracle := fun n call => match call with
  | .netnsSet h => if h = 0 then .error "operation not permitted" else .ok ()
  | call => onePodKernel n call

/-- A thread that entered `returnRDMAToHost` in a container's namespace is released in the
init namespace; and when the kernel refuses the deferred `netns.Set(hostNS)`, a thread that
entered in the init namespace is released in the pod's. -/
theorem pinning_releases_outside_entry :
    (returnRDMAToHost "mlx5_0" "/var/run/netns/pod").observe (Thread.step onePodNamespaces)
        (World.start onePodKernel) ⟨"container", []⟩ = ⟨"init", ["init"]⟩ ∧
      (returnRDMAToHost "mlx5_0" "/var/run/netns/pod").observe (Thread.step onePodNamespaces)
        (World.start noReturnKernel) ⟨"init", []⟩ = ⟨"pod", ["pod"]⟩ := by
  decide

end DraMultiDevice
