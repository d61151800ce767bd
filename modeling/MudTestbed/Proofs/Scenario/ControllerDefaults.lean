import MudTestbed.Proofs.Plan.Resolve

/-!
# Default controller endpoints

`Scenario.defaultControllerHost` goes through the controllers bound to the topology's
switches, each once, and gives one whose endpoint list is missing or empty the OpenFlow
endpoint of a host. Looked up by name, the plan changes exactly there
(`Scenario.lookupSorted_defaultControllerHost`): every bound controller then has an endpoint,
every other list is kept, and a second pass changes nothing.

Resolving the plan can then no longer fail for a controller without endpoint
(`AddressPlan.resolve_errorsIn_of_endpoints`): the switches' stage succeeds, and every error of
the stages before it is worded otherwise. `Except.ErrorsIn` carries such a fact about the
errors of a computation through its binds and folds.
-/

namespace MudTestbed

set_option autoImplicit false

/-! ### Sorted association lists -/

section Sorted

variable {α : Type} {k c : String} {v : α}

theorem lookupSorted_cons_of_ne {v' : α} {m : List (String × α)} (h : c ≠ k) :
    lookupSorted c ((k, v') :: m) = lookupSorted c m := by
  have hb : (c == k) = false := by simpa using h
  simp only [lookupSorted, List.lookup_cons, hb]

theorem lookupSorted_cons_self {v' : α} {m : List (String × α)} :
    lookupSorted k ((k, v') :: m) = some v' := List.lookup_cons_self

theorem lookupSorted_insertSorted_self (m : List (String × α)) :
    lookupSorted k (insertSorted k v m) = some v := by
  induction m with
  | nil => exact lookupSorted_cons_self
  | cons p rest ih =>
    unfold insertSorted
    split
    · exact lookupSorted_cons_self
    · split
      · exact lookupSorted_cons_self
      · rename_i hne _
        rw [lookupSorted_cons_of_ne hne, ih]

theorem lookupSorted_insertSorted_of_ne (m : List (String × α)) (h : c ≠ k) :
    lookupSorted c (insertSorted k v m) = lookupSorted c m := by
  induction m with
  | nil => exact lookupSorted_cons_of_ne h
  | cons p rest ih =>
    obtain ⟨k', v'⟩ := p
    unfold insertSorted
    split
    · rename_i heq
      subst heq
      rw [lookupSorted_cons_of_ne h, lookupSorted_cons_of_ne h]
    · split
      · rw [lookupSorted_cons_of_ne h]
      · by_cases hc : c = k'
        · subst hc
          rw [lookupSorted_cons_self, lookupSorted_cons_self]
        · rw [lookupSorted_cons_of_ne hc, lookupSorted_cons_of_ne hc, ih]

end Sorted

/-! ### The controllers bound to a topology -/

namespace Topology

theorem mem_addDistinct {names : List String} {n c : String} :
    c ∈ addDistinct names n ↔ c ∈ names ∨ c = n := by
  unfold addDistinct
  split
  · rename_i hn
    constructor
    · exact Or.inl
    · rintro (hc | rfl)
      · exact hc
      · exact List.contains_iff_mem.mp hn
  · simp

theorem mem_foldl_addDistinct {c : String} (names : List String) :
    ∀ acc : List String, c ∈ names.foldl addDistinct acc ↔ c ∈ acc ∨ c ∈ names := by
  induction names with
  | nil => simp
  | cons n rest ih =>
    intro acc
    rw [List.foldl_cons, ih, mem_addDistinct, List.mem_cons]
    constructor
    · rintro ((h | rfl) | h)
      · exact Or.inl h
      · exact Or.inr (Or.inl rfl)
      · exact Or.inr (Or.inr h)
    · rintro (h | rfl | h)
      · exact Or.inl (Or.inl h)
      · exact Or.inl (Or.inr rfl)
      · exact Or.inr h

theorem mem_controllerNames_iff (t : Topology) (c : String) :
    c ∈ t.controllerNames ↔ ∃ sw ∈ t.switches, c ∈ sw.controllers := by
  suffices h : ∀ (switches : List Switch) (acc : List String),
      c ∈ switches.foldl (fun acc s => s.controllers.foldl addDistinct acc) acc ↔
        c ∈ acc ∨ ∃ sw ∈ switches, c ∈ sw.controllers by
    rw [controllerNames, h, or_iff_right List.not_mem_nil]
  intro switches
  induction switches with
  | nil => simp
  | cons sw rest ih =>
    intro acc
    rw [List.foldl_cons, ih, mem_foldl_addDistinct]
    constructor
    · rintro ((h | h) | ⟨sw', hsw', h⟩)
      · exact Or.inl h
      · exact Or.inr ⟨sw, List.mem_cons_self, h⟩
      · exact Or.inr ⟨sw', List.mem_cons_of_mem _ hsw', h⟩
    · rintro (h | ⟨sw', hsw', h⟩)
      · exact Or.inl (Or.inl h)
      · rcases List.mem_cons.mp hsw' with rfl | hsw'
        · exact Or.inl (Or.inr h)
        · exact Or.inr ⟨sw', hsw', h⟩

end Topology

/-! ### What the errors of a computation say -/

def ErrorsIn {ε α : Type} (P : ε → Prop) (x : Except ε α) : Prop :=
  ∀ e, x = .error e → P e

namespace ErrorsIn

variable {ε α β : Type} {P : ε → Prop}

theorem of_ok (a : α) : ErrorsIn P (Except.ok a : Except ε α) := fun _ h => by cases h

theorem of_pure (a : α) : ErrorsIn P (pure a : Except ε α) := of_ok a

theorem of_error {e : ε} (h : P e) : ErrorsIn P (Except.error e : Except ε α) := by
  intro e' he
  cases he
  exact h

theorem bind {x : Except ε α} {f : α → Except ε β} (hx : ErrorsIn P x)
    (hf : ∀ a, ErrorsIn P (f a)) : ErrorsIn P (x >>= f) := by
  intro e he
  cases x with
  | error e' =>
    cases he
    exact hx e rfl
  | ok a => exact hf a e he

theorem foldlM {l : List α} {g : β → α → Except ε β} (h : ∀ b, ∀ a ∈ l, ErrorsIn P (g b a)) :
    ∀ init, ErrorsIn P (l.foldlM g init) := by
  induction l with
  | nil => exact of_pure
  | cons a rest ih =>
    intro init
    rw [List.foldlM_cons]
    exact bind (h init a List.mem_cons_self)
      (ih fun b a' ha' => h b a' (List.mem_cons_of_mem a ha'))

theorem mapM {l : List α} {f : α → Except ε β} (h : ∀ a ∈ l, ErrorsIn P (f a)) :
    ErrorsIn P (l.mapM f) := by
  induction l with
  | nil => exact of_pure []
  | cons a rest ih =>
    rw [List.mapM_cons]
    exact bind (h a List.mem_cons_self) fun b =>
      bind (ih fun a' ha' => h a' (List.mem_cons_of_mem a ha')) fun bs => of_pure _

theorem forIn {l : List α} {f : α → β → Except ε (ForInStep β)}
    (h : ∀ a ∈ l, ∀ b, ErrorsIn P (f a b)) : ∀ init, ErrorsIn P (forIn l init f) := by
  induction l with
  | nil => exact of_pure
  | cons a rest ih =>
    intro init
    rw [List.forIn_cons]
    refine bind (h a List.mem_cons_self init) fun step => ?_
    cases step with
    | done b => exact of_pure b
    | yield b => exact ih (fun a' ha' => h a' (List.mem_cons_of_mem a ha')) b

end ErrorsIn

/-! ### Errors worded otherwise than a missing endpoint -/

def Error.NoEndpoint (e : Error) : Prop :=
  ∃ c w : String, e = .invalidConfig s!"controller '{c}' bound to switch '{w}' has no endpoint"

theorem String.head?_toList_append {a : String} (b : String) {ch : Char}
    (h : a.toList.head? = some ch) : (a ++ b).toList.head? = some ch := by
  rw [String.toList_append, List.head?_append, h]
  rfl

namespace Error

theorem not_noEndpoint_of_head {d : String} (ch : Char) (hd : d.toList.head? = some ch)
    (hc : ch ≠ 'c') : ¬ (Error.invalidConfig d).NoEndpoint := by
  rintro ⟨c, w, he⟩
  rw [invalidConfig.injEq] at he
  have hhead : (s!"controller '{c}' bound to switch '{w}' has no endpoint").toList.head? =
      some 'c' :=
    String.head?_toList_append _ <| String.head?_toList_append _ <|
      String.head?_toList_append _ <| String.head?_toList_append _ (by decide)
  rw [he, hhead, Option.some.injEq] at hd
  exact hc hd.symm

theorem not_noEndpoint_unknownInterface (host iface : String) :
    ¬ (AddressPlan.unknownInterface host iface).NoEndpoint :=
  not_noEndpoint_of_head 'h' (String.head?_toList_append _ <| String.head?_toList_append _ <|
    String.head?_toList_append _ <| String.head?_toList_append _ (by decide)) (by decide)

theorem not_noEndpoint_unknownEndpoint (name : String) : ¬ (unknownEndpoint name).NoEndpoint :=
  fun ⟨_, _, he⟩ => Error.noConfusion he

theorem not_noEndpoint_duplicateMac (mac : String) : ¬ (duplicateMac mac).NoEndpoint :=
  fun ⟨_, _, he⟩ => Error.noConfusion he

end Error

/-! ### The stages of resolving a plan fail otherwise -/

namespace AddressPlan

section Stages

variable {host : Host} {gw : String}

theorem requireInterface_errorsIn (n : String) :
    ErrorsIn (¬ ·.NoEndpoint) (requireInterface host n) := by
  unfold requireInterface
  split
  · exact ErrorsIn.of_ok ()
  · exact ErrorsIn.of_error (Error.not_noEndpoint_unknownInterface _ _)

theorem sequentialAddress_errorsIn (index : Nat) :
    ErrorsIn (¬ ·.NoEndpoint) (sequentialAddress index) := by
  unfold sequentialAddress
  split
  · exact ErrorsIn.of_ok _
  · exact ErrorsIn.of_error (Error.not_noEndpoint_of_head 't' (by decide) (by decide))

theorem seeded_errorsIn (index : Nat) (plan : HostPlan) (ifs : List InterfaceConfig) :
    ErrorsIn (¬ ·.NoEndpoint) (seeded index plan ifs) := by
  unfold seeded
  split
  · exact ErrorsIn.bind (sequentialAddress_errorsIn index) fun c => ErrorsIn.of_pure _
  · exact ErrorsIn.of_pure ifs

theorem placeAddress_errorsIn (ifs : List InterfaceConfig) (a : InterfaceAddress) :
    ErrorsIn (¬ ·.NoEndpoint) (placeAddress host.name gw ifs a) := by
  unfold placeAddress
  split
  · exact ErrorsIn.of_ok _
  · exact ErrorsIn.of_error (Error.not_noEndpoint_unknownInterface _ _)

theorem defaultRouteOf_errorsIn (plan : HostPlan) :
    ErrorsIn (¬ ·.NoEndpoint) (defaultRouteOf host gw plan) := by
  unfold defaultRouteOf
  split
  · exact ErrorsIn.bind (requireInterface_errorsIn _) fun _ => ErrorsIn.of_pure _
  · split
    · exact ErrorsIn.of_error (Error.not_noEndpoint_of_head 'h'
        (String.head?_toList_append _ <| String.head?_toList_append _ (by decide)) (by decide))
    · exact ErrorsIn.of_ok none

theorem routerOf_errorsIn (plan : HostPlan) : ErrorsIn (¬ ·.NoEndpoint) (routerOf host plan) := by
  unfold routerOf
  split
  · refine ErrorsIn.bind (requireInterface_errorsIn _) fun _ => ?_
    refine ErrorsIn.bind (ErrorsIn.mapM fun route _ => ?_) fun _ => ErrorsIn.of_pure _
    exact ErrorsIn.bind (requireInterface_errorsIn _) fun _ => ErrorsIn.of_pure _
  · exact ErrorsIn.of_ok none

end Stages

theorem resolveHost_errorsIn (index : Nat) (host : Host) (plan : HostPlan) :
    ErrorsIn (¬ ·.NoEndpoint) (resolveHost index host plan) := by
  cases hgw : host.gatewayInterface with
  | none =>
    unfold resolveHost
    rw [hgw]
    exact ErrorsIn.of_error (Error.not_noEndpoint_of_head 'h'
      (String.head?_toList_append _ <| String.head?_toList_append _ (by decide)) (by decide))
  | some gw =>
    rw [resolveHost_eq hgw]
    refine ErrorsIn.bind (seeded_errorsIn _ _ _) fun ifs => ?_
    refine ErrorsIn.bind (ErrorsIn.foldlM (fun _ _ _ => placeAddress_errorsIn _ _) ifs) fun _ => ?_
    refine ErrorsIn.bind (defaultRouteOf_errorsIn plan) fun _ => ?_
    exact ErrorsIn.bind (routerOf_errorsIn plan) fun _ => ErrorsIn.of_pure _

theorem resolveHosts_errorsIn (p : AddressPlan) (hs : List Host) :
    ∀ index seen, ErrorsIn (¬ ·.NoEndpoint) (p.resolveHosts index seen hs) := by
  induction hs with
  | nil => exact fun _ _ => ErrorsIn.of_ok []
  | cons h rest ih =>
    intro index seen
    unfold resolveHosts
    refine ErrorsIn.bind (resolveHost_errorsIn _ _ _) fun config => ?_
    dsimp only
    split
    · exact ErrorsIn.bind (ErrorsIn.of_error (Error.not_noEndpoint_duplicateMac _)) fun _ =>
        ErrorsIn.bind (ih _ _) fun _ => ErrorsIn.of_pure _
    · exact ErrorsIn.bind (ih _ _) fun _ => ErrorsIn.of_pure _

end AddressPlan

theorem Topology.validate_errorsIn (t : Topology) : ErrorsIn (¬ ·.NoEndpoint) t.validate := by
  have hswitch (name : String) :
      ¬ (Error.invalidConfig s!"switch '{name}' has no controller binding").NoEndpoint :=
    Error.not_noEndpoint_of_head 's'
      (String.head?_toList_append _ <| String.head?_toList_append _ (by decide)) (by decide)
  have hhost (name : String) :
      ¬ (Error.invalidConfig s!"host '{name}' is not linked to any switch").NoEndpoint :=
    Error.not_noEndpoint_of_head 'h'
      (String.head?_toList_append _ <| String.head?_toList_append _ (by decide)) (by decide)
  unfold Topology.validate
  dsimp only
  split
  case' h_1 => refine ErrorsIn.bind (ErrorsIn.of_error (hswitch _)) fun _ => ?_
  all_goals
    split
    · exact ErrorsIn.of_error (hhost _)
    · exact ErrorsIn.of_pure ()

theorem AddressPlan.resolve_errorsIn_of_endpoints (p : AddressPlan) (t : Topology)
    (hend : ∀ sw ∈ t.switches, ∀ c ∈ sw.controllers,
      ∃ e es, lookupSorted c p.controllers = some (e :: es)) :
    ErrorsIn (¬ ·.NoEndpoint) (p.resolve t) := by
  obtain ⟨switches, hsw⟩ := (AddressPlan.switchFold_ok_iff p t.switches).mpr hend
  unfold resolve
  refine ErrorsIn.bind t.validate_errorsIn fun _ => ?_
  refine ErrorsIn.bind (ErrorsIn.forIn (fun x _ b => ?_) _) fun _ => ?_
  · obtain ⟨name, _⟩ := x
    dsimp only
    split
    · exact ErrorsIn.bind (ErrorsIn.of_error (Error.not_noEndpoint_unknownEndpoint name)) fun _ =>
        ErrorsIn.of_pure _
    · exact ErrorsIn.of_pure _
  · refine ErrorsIn.bind (AddressPlan.resolveHosts_errorsIn p t.hosts 0 []) fun _ => ?_
    rw [hsw]
    exact ErrorsIn.of_ok _

/-! ### Filling one controller's endpoints -/

def withDefaultEndpoint (e : ControllerEndpoint) (eps : Option (List ControllerEndpoint)) :
    Option (List ControllerEndpoint) :=
  if (eps.getD []).isEmpty then some [e] else eps

section Default

variable {e : ControllerEndpoint} {eps : Option (List ControllerEndpoint)}

theorem withDefaultEndpoint_of_empty (h : eps.getD [] = []) : withDefaultEndpoint e eps = some [e] := by
  rw [withDefaultEndpoint, h, List.isEmpty_nil, if_pos rfl]

theorem withDefaultEndpoint_of_ne_nil (h : eps.getD [] ≠ []) : withDefaultEndpoint e eps = eps := by
  rw [withDefaultEndpoint, if_neg (by simpa using h)]

theorem withDefaultEndpoint_ne_nil : (withDefaultEndpoint e eps).getD [] ≠ [] := by
  by_cases h : eps.getD [] = []
  · rw [withDefaultEndpoint_of_empty h]
    simp
  · rwa [withDefaultEndpoint_of_ne_nil h]

theorem exists_cons_of_getD_ne_nil (h : eps.getD [] ≠ []) : ∃ x xs, eps = some (x :: xs) := by
  cases eps with
  | none => exact absurd rfl h
  | some l =>
    cases l with
    | nil => exact absurd rfl h
    | cons x xs => exact ⟨x, xs, rfl⟩

theorem withDefaultEndpoint_idem : withDefaultEndpoint e (withDefaultEndpoint e eps) = withDefaultEndpoint e eps :=
  withDefaultEndpoint_of_ne_nil withDefaultEndpoint_ne_nil

end Default

namespace AddressPlan

def fillEndpoint (e : ControllerEndpoint) (p : AddressPlan) (name : String) : AddressPlan :=
  if ((lookupSorted name p.controllers).getD []).isEmpty then
    { p with controllers := insertSorted name [e] p.controllers }
  else p

variable {e : ControllerEndpoint} {p : AddressPlan} {n c : String}

theorem fillEndpoint_hosts : (p.fillEndpoint e n).hosts = p.hosts := by
  unfold fillEndpoint
  split <;> rfl

theorem lookupSorted_fillEndpoint_self :
    lookupSorted n (p.fillEndpoint e n).controllers =
      withDefaultEndpoint e (lookupSorted n p.controllers) := by
  unfold fillEndpoint withDefaultEndpoint
  split
  · exact lookupSorted_insertSorted_self _
  · rfl

theorem lookupSorted_fillEndpoint_of_ne (h : c ≠ n) :
    lookupSorted c (p.fillEndpoint e n).controllers = lookupSorted c p.controllers := by
  unfold fillEndpoint
  split
  · exact lookupSorted_insertSorted_of_ne _ h
  · rfl

theorem fillEndpoint_of_ne_nil (h : (lookupSorted n p.controllers).getD [] ≠ []) :
    p.fillEndpoint e n = p := by
  rw [fillEndpoint, if_neg (by simpa using h)]

theorem lookupSorted_foldl_fillEndpoint (names : List String) :
    ∀ p : AddressPlan, lookupSorted c (names.foldl (fillEndpoint e) p).controllers =
      if c ∈ names then withDefaultEndpoint e (lookupSorted c p.controllers)
      else lookupSorted c p.controllers := by
  induction names with
  | nil => simp
  | cons n rest ih =>
    intro p
    rw [List.foldl_cons, ih]
    by_cases hc : c = n
    · subst hc
      rw [lookupSorted_fillEndpoint_self, if_pos List.mem_cons_self]
      split
      · exact withDefaultEndpoint_idem
      · rfl
    · rw [lookupSorted_fillEndpoint_of_ne hc]
      simp only [List.mem_cons, hc, false_or]

theorem foldl_fillEndpoint_hosts (names : List String) :
    ∀ p : AddressPlan, (names.foldl (fillEndpoint e) p).hosts = p.hosts := by
  induction names with
  | nil => exact fun _ => rfl
  | cons n rest ih =>
    intro p
    rw [List.foldl_cons, ih, fillEndpoint_hosts]

theorem foldl_fillEndpoint_of_filled (names : List String) :
    ∀ p : AddressPlan, (∀ n ∈ names, (lookupSorted n p.controllers).getD [] ≠ []) →
      names.foldl (fillEndpoint e) p = p := by
  induction names with
  | nil => exact fun _ _ => rfl
  | cons n rest ih =>
    intro p h
    rw [List.foldl_cons, fillEndpoint_of_ne_nil (h n List.mem_cons_self)]
    exact ih p fun m hm => h m (List.mem_cons_of_mem n hm)

end AddressPlan

namespace Scenario

variable (s : Scenario) (h : IpAddr)

theorem defaultControllerHost_eq :
    s.defaultControllerHost h =
      { s with plan := s.topology.controllerNames.foldl (AddressPlan.fillEndpoint (.ofIp h)) s.plan } := by
  unfold defaultControllerHost
  dsimp only
  congr 2
  funext p name
  unfold AddressPlan.fillEndpoint
  cases lookupSorted name p.controllers with
  | none => rfl
  | some eps => cases eps <;> rfl

@[simp] theorem defaultControllerHost_topology : (s.defaultControllerHost h).topology = s.topology :=
  rfl

theorem lookupSorted_defaultControllerHost (c : String) :
    lookupSorted c (s.defaultControllerHost h).plan.controllers =
      if c ∈ s.topology.controllerNames then
        withDefaultEndpoint (.ofIp h) (lookupSorted c s.plan.controllers)
      else lookupSorted c s.plan.controllers := by
  rw [defaultControllerHost_eq]
  exact AddressPlan.lookupSorted_foldl_fillEndpoint _ _

theorem defaultControllerHost_hosts : (s.defaultControllerHost h).plan.hosts = s.plan.hosts := by
  rw [defaultControllerHost_eq]
  exact AddressPlan.foldl_fillEndpoint_hosts _ _

theorem defaultControllerHost_only_controllers :
    s.defaultControllerHost h =
      { s with plan := { s.plan with controllers := (s.defaultControllerHost h).plan.controllers } } := by
  have hhosts := s.defaultControllerHost_hosts h
  rw [defaultControllerHost_eq] at hhosts ⊢
  generalize s.topology.controllerNames.foldl (AddressPlan.fillEndpoint (.ofIp h)) s.plan = plan
    at hhosts ⊢
  obtain ⟨hosts, controllers⟩ := plan
  dsimp only at hhosts
  subst hhosts
  rfl

theorem defaultControllerHost_bound_filled {c : String} (hc : c ∈ s.topology.controllerNames) :
    (lookupSorted c (s.defaultControllerHost h).plan.controllers).getD [] ≠ [] := by
  rw [lookupSorted_defaultControllerHost, if_pos hc]
  exact withDefaultEndpoint_ne_nil

theorem defaultControllerHost_idem (h' : IpAddr) :
    (s.defaultControllerHost h).defaultControllerHost h' = s.defaultControllerHost h := by
  conv => lhs; rw [defaultControllerHost_eq]
  rw [defaultControllerHost_topology, AddressPlan.foldl_fillEndpoint_of_filled _ _
    fun n hn => s.defaultControllerHost_bound_filled h hn]
  rfl

end Scenario

/-- The default controller host fills exactly the missing endpoints. -/
theorem Scenario.defaultControllerHost_fills_missing_endpoints (s : Scenario) (h : IpAddr) :
    (∀ c, (∃ sw ∈ s.topology.switches, c ∈ sw.controllers) →
      ∃ e es, lookupSorted c (s.defaultControllerHost h).plan.controllers = some (e :: es)) ∧
    (∀ c, (∃ sw ∈ s.topology.switches, c ∈ sw.controllers) →
      (lookupSorted c s.plan.controllers).getD [] = [] →
        lookupSorted c (s.defaultControllerHost h).plan.controllers =
          some [⟨SocketAddr.ofIp h 6653⟩]) ∧
    (∀ c, ((lookupSorted c s.plan.controllers).getD [] ≠ [] ∨
        ¬ ∃ sw ∈ s.topology.switches, c ∈ sw.controllers) →
      lookupSorted c (s.defaultControllerHost h).plan.controllers =
        lookupSorted c s.plan.controllers) ∧
    s.defaultControllerHost h = { s with plan :=
      { s.plan with controllers := (s.defaultControllerHost h).plan.controllers } } ∧
    (∀ h', (s.defaultControllerHost h).defaultControllerHost h' = s.defaultControllerHost h) ∧
    ∀ c w : String, (s.defaultControllerHost h).plan.resolve (s.defaultControllerHost h).topology ≠
      .error (.invalidConfig s!"controller '{c}' bound to switch '{w}' has no endpoint") := by
  have hlookup := s.lookupSorted_defaultControllerHost h
  have hbound := fun c => (Topology.mem_controllerNames_iff s.topology c).symm
  refine ⟨fun c hc => ?_, fun c hc hempty => ?_, fun c hc => ?_,
    s.defaultControllerHost_only_controllers h, s.defaultControllerHost_idem h, fun c w hres => ?_⟩
  · exact exists_cons_of_getD_ne_nil (s.defaultControllerHost_bound_filled h ((hbound c).mp hc))
  · rw [hlookup, if_pos ((hbound c).mp hc), withDefaultEndpoint_of_empty hempty]
    rfl
  · rw [hlookup]
    split
    · rename_i hmem
      rcases hc with hne | hunbound
      · exact withDefaultEndpoint_of_ne_nil hne
      · exact absurd ((hbound c).mpr hmem) hunbound
    · rfl
  · have hend : ∀ sw ∈ s.topology.switches, ∀ c ∈ sw.controllers,
        ∃ e es, lookupSorted c (s.defaultControllerHost h).plan.controllers = some (e :: es) :=
      fun sw hsw c hc => exists_cons_of_getD_ne_nil
        (s.defaultControllerHost_bound_filled h ((hbound c).mp ⟨sw, hsw, hc⟩))
    exact AddressPlan.resolve_errorsIn_of_endpoints _ _ hend _ hres ⟨c, w, rfl⟩

end MudTestbed
