import DraMultiDevice.Nri.Tracker

/-!
# The handler registry

`pkg/handler/registry.go`: a two-level Go map from device type to kind to handler.
The registry is generic in the handler, which it only asks for its `Type()` and its
`Kinds()`.

## Main result

`registry_answers_last_registration`: after any sequence of `Register` calls, `Get`
answers the last registered handler filed under the type and kind; `MustGet` fails
exactly when `Get` answers nil, and `ListRegistered` lists each kind `Get` answers for
exactly once.
-/

namespace DraMultiDevice

/-- `handler.HandlerRegistry`: type, then kind, to handler. -/
structure HandlerRegistry (H : Type) where
  handlers : AList (fun _ : DeviceType => GoMap H)

namespace HandlerRegistry

variable {H : Type} (typeOf : H → DeviceType) (kindsOf : H → List String)

/-- `NewHandlerRegistry`. -/
def empty : HandlerRegistry H := ⟨∅⟩

/-- `Register`: file the handler under its type for each of its kinds, overwriting. -/
def register (r : HandlerRegistry H) (h : H) : HandlerRegistry H :=
  let kinds := (r.handlers.lookup (typeOf h)).getD ∅
  ⟨r.handlers.insert (typeOf h) ((kindsOf h).foldl (fun m kind => m.insert kind h) kinds)⟩

/-- `Get`: the handler for a type and kind, or nil. -/
def get (r : HandlerRegistry H) (typ : DeviceType) (kind : String) : Option H :=
  match r.handlers.lookup typ with
  | some kinds => kinds.lookup kind
  | none => none

/-- `MustGet`: `Get`, with an error for a missing handler. -/
def mustGet (r : HandlerRegistry H) (typ : DeviceType) (kind : String) : Except String H :=
  match r.get typ kind with
  | some h => .ok h
  | none => .error s!"no handler registered for type={typ.name} kind={kind}"

/-- `ListRegistered`: each type with its kinds, in iteration order. -/
def listRegistered (r : HandlerRegistry H) : AList (fun _ : DeviceType => List String) :=
  r.handlers.entries.foldl (fun result entry =>
    entry.2.entries.foldl (fun result kindEntry =>
      result.insert entry.1 (((result.lookup entry.1).getD []) ++ [kindEntry.1])) result) ∅

/-! ### What `Get` finds -/

theorem lookup_foldl_insert_eq (h₀ : H) (kinds : List String) (m : GoMap H) (kind : String) :
    (kinds.foldl (fun m kind => m.insert kind h₀) m).lookup kind =
      if kind ∈ kinds then some h₀ else m.lookup kind := by
  induction kinds generalizing m with
  | nil => simp
  | cons k rest ih =>
    rw [List.foldl_cons, ih, lookup_insert_eq_ite]
    by_cases here : kind = k <;> by_cases later : kind ∈ rest <;> simp [here, later]

theorem get_eq_lookup (r : HandlerRegistry H) (typ : DeviceType) (kind : String) :
    r.get typ kind = ((r.handlers.lookup typ).getD ∅).lookup kind := by
  unfold get
  split <;> simp_all [AList.lookup_empty]

/-- After `Register`, `Get` answers the new handler under its type and kinds, and what it
answered before everywhere else. -/
theorem get_register_eq (r : HandlerRegistry H) (h₀ : H) (typ : DeviceType) (kind : String) :
    (r.register typeOf kindsOf h₀).get typ kind =
      if typ = typeOf h₀ ∧ kind ∈ kindsOf h₀ then some h₀ else r.get typ kind := by
  simp only [get_eq_lookup, register, lookup_insert_eq_ite]
  by_cases here : typ = typeOf h₀
  · subst here
    simp [lookup_foldl_insert_eq]
  · simp [here]

/-- `Get` after a sequence of `Register` calls: the last registered handler filed under the
type and kind, or what it answered before. -/
theorem get_foldl_register_eq (hs : List H) (r : HandlerRegistry H) (typ : DeviceType)
    (kind : String) :
    (hs.foldl (register typeOf kindsOf) r).get typ kind =
      (hs.filter fun h => typeOf h = typ ∧ kind ∈ kindsOf h).getLast?.or (r.get typ kind) := by
  induction hs using List.reverseRecOn with
  | nil => rfl
  | append_singleton hs h ih =>
    rw [List.foldl_append, List.foldl_cons, List.foldl_nil, get_register_eq, ih,
      List.filter_append, List.getLast?_append]
    by_cases filed : typ = typeOf h ∧ kind ∈ kindsOf h
    · obtain ⟨rfl, member⟩ := filed
      simp [member]
    · have unfiled : ¬(typeOf h = typ ∧ kind ∈ kindsOf h) := fun ⟨typed, member⟩ =>
        filed ⟨typed.symm, member⟩
      simp [filed, unfiled]

/-- `Get` on a registry built by registering a list of handlers finds one of them, filed
under its type and one of its kinds, or what it found before. -/
theorem get_foldl_register {h : H} (hs : List H) (r : HandlerRegistry H) {typ : DeviceType}
    {kind : String} (found : (hs.foldl (register typeOf kindsOf) r).get typ kind = some h) :
    h ∈ hs ∧ typeOf h = typ ∧ kind ∈ kindsOf h ∨ r.get typ kind = some h := by
  rw [get_foldl_register_eq] at found
  cases last : (hs.filter fun h => typeOf h = typ ∧ kind ∈ kindsOf h).getLast? with
  | none => exact .inr (by rwa [last] at found)
  | some h' =>
    rw [last] at found
    cases (Option.some.inj found : h' = h)
    exact .inl (by simpa using List.mem_of_getLast?_eq_some last)

/-! ### `MustGet` and `ListRegistered` -/

theorem mustGet_eq_ok_iff (r : HandlerRegistry H) (typ : DeviceType) (kind : String) (h : H) :
    r.mustGet typ kind = .ok h ↔ r.get typ kind = some h := by
  unfold mustGet
  split <;> simp_all

theorem mustGet_eq_error_iff (r : HandlerRegistry H) (typ : DeviceType) (kind : String) :
    (∃ err, r.mustGet typ kind = .error err) ↔ r.get typ kind = none := by
  unfold mustGet
  split <;> simp_all

/-- One type's inner loop of `ListRegistered` appends that type's kinds, in order. -/
theorem lookup_foldl_append (t₀ t : DeviceType) (es : List (Sigma fun _ : String => H))
    (result : AList fun _ : DeviceType => List String) :
    ((es.foldl (fun result kindEntry =>
        result.insert t₀ (((result.lookup t₀).getD []) ++ [kindEntry.1])) result).lookup t).getD [] =
      (result.lookup t).getD [] ++ if t = t₀ then es.map Sigma.fst else [] := by
  induction es generalizing result with
  | nil => simp
  | cons e rest ih =>
    rw [List.foldl_cons, ih, lookup_insert_eq_ite]
    by_cases here : t = t₀
    · subst here
      simp
    · simp [here]

/-- The outer loop of `ListRegistered`: each type's entry lists the keys of its kind map. -/
theorem lookup_foldl_keys (t : DeviceType) (es : List (Sigma fun _ : DeviceType => GoMap H))
    (distinct : es.NodupKeys) (result : AList fun _ : DeviceType => List String) :
    ((es.foldl (fun result entry => entry.2.entries.foldl (fun result kindEntry =>
        result.insert entry.1 (((result.lookup entry.1).getD []) ++ [kindEntry.1])) result)
        result).lookup t).getD [] =
      (result.lookup t).getD [] ++ ((es.dlookup t).map AList.keys).getD [] := by
  induction es generalizing result with
  | nil => simp
  | cons e rest ih =>
    obtain ⟨t₀, kinds⟩ := e
    obtain ⟨fresh, distinct⟩ := List.nodupKeys_cons.mp distinct
    rw [List.foldl_cons, ih distinct, lookup_foldl_append]
    by_cases here : t = t₀
    · subst here
      simp [List.dlookup_eq_none.mpr fresh, AList.keys, List.keys]
    · simp [here, List.dlookup_cons_ne rest (Sigma.mk t₀ kinds) here]

/-- `ListRegistered` lists a kind under a type once if `Get` finds a handler for the pair,
and not at all otherwise. -/
theorem count_listRegistered (r : HandlerRegistry H) (typ : DeviceType) (kind : String) :
    ((r.listRegistered.lookup typ).getD []).count kind =
      if (r.get typ kind).isSome then 1 else 0 := by
  have entries : r.handlers.entries.dlookup typ = r.handlers.lookup typ := rfl
  rw [listRegistered, lookup_foldl_keys _ _ r.handlers.nodupKeys, entries, get_eq_lookup]
  cases r.handlers.lookup typ with
  | none => simp [AList.lookup_empty]
  | some kinds =>
    simp [AList.lookup_empty, List.count_eq_of_nodup kinds.keys_nodup, AList.lookup_isSome,
      AList.mem_keys]

/-- The registry's lookup contract. After any sequence of `Register` calls, `Get` answers
the last registered handler of the type that lists the kind, and nil if none does; and on
every registry, `MustGet` answers `Get`'s handler and fails exactly when `Get` answers nil,
while `ListRegistered` lists a kind under a type once exactly when `Get` answers a handler
for the pair, and not at all otherwise. -/
theorem registry_answers_last_registration (hs : List H) (typ : DeviceType) (kind : String) :
    (hs.foldl (register typeOf kindsOf) empty).get typ kind =
        (hs.filter fun h => typeOf h = typ ∧ kind ∈ kindsOf h).getLast? ∧
      ∀ r : HandlerRegistry H, (∀ h, r.mustGet typ kind = .ok h ↔ r.get typ kind = some h) ∧
        ((∃ err, r.mustGet typ kind = .error err) ↔ r.get typ kind = none) ∧
        ((r.listRegistered.lookup typ).getD []).count kind =
          if (r.get typ kind).isSome then 1 else 0 :=
  ⟨(get_foldl_register_eq typeOf kindsOf hs empty typ kind).trans Option.or_none,
    fun r => ⟨mustGet_eq_ok_iff r typ kind, mustGet_eq_error_iff r typ kind,
      count_listRegistered r typ kind⟩⟩

end HandlerRegistry

end DraMultiDevice
