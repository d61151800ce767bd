import Mathlib.Data.List.Nodup
import MudTestbed.Proofs.Scenario.References

/-!
# When a plan resolves

`AddressPlan.resolve` succeeds exactly when the plan fits the topology (`AddressPlan.Fits`):
the topology is valid; every planned host is a host of it; every interface a host's plan
names is one of that host's interfaces, a name without `-` being qualified for the host; a
host without routing duties has a default route; a host without planned addresses still has
a sequential address inside `10.0.0.0/8`; no two hosts get the same MAC address; and every
controller bound to a switch has an endpoint. The order of the checks decides which error a
plan that does not fit gets, never whether it gets one.

`resolveHost_eq` cuts the resolution of one host into stages, each with its own lemma: the
interfaces with the MAC address and, without planned addresses, the sequential address; the
planned addresses, placed by a fold; the default route; the routing duties.

A resolved plan configures the topology's hosts in order, each on its own interfaces with its
MAC address on its first, gateway, interface (`ResolutionSpec`). On the topologies the
topology's operations build, whose interface names are distinct, it is on no other
interface, and the spec holds of every plan (`plan_resolution_meets_spec`).
-/

namespace MudTestbed

set_option autoImplicit false

/-! ### Computations that can fail -/

section Except

variable {ε α β : Type}

theorem bind_eq_ok_iff {x : Except ε α} {f : α → Except ε β} {b : β} :
    x >>= f = .ok b ↔ ∃ a, x = .ok a ∧ f a = .ok b := by
  cases x <;> simp [bind, Except.bind]

theorem exists_bind_eq_ok {x : Except ε α} {f : α → Except ε β} :
    (∃ b, x >>= f = .ok b) ↔ ∃ a, x = .ok a ∧ ∃ b, f a = .ok b := by
  simp only [bind_eq_ok_iff]
  constructor
  · rintro ⟨b, a, hx, hf⟩
    exact ⟨a, hx, b, hf⟩
  · rintro ⟨a, hx, b, hf⟩
    exact ⟨b, a, hx, hf⟩

theorem forIn_eq_foldlM {l : List α} {init : β} {f : α → β → Except ε (ForInStep β)}
    (g : β → α → Except ε β) (h : ∀ a b, f a b = ForInStep.yield <$> g b a) :
    forIn l init f = l.foldlM g init := by
  induction l generalizing init with
  | nil => rfl
  | cons a as ih =>
    rw [List.forIn_cons, List.foldlM_cons, h]
    cases g init a with
    | error e => rfl
    | ok b => exact ih

theorem foldlM_ok_iff {l : List α} {g : β → α → Except ε β} (P : β → Prop) (Q : α → Prop)
    (hg : ∀ a ∈ l, ∀ b, P b → ((∃ b', g b a = .ok b') ↔ Q a) ∧ ∀ b', g b a = .ok b' → P b')
    {init : β} (h0 : P init) :
    (∃ r, l.foldlM g init = .ok r) ↔ ∀ a ∈ l, Q a := by
  induction l generalizing init with
  | nil => simp only [List.foldlM_nil, List.not_mem_nil, false_imp_iff, imp_true_iff, iff_true]
           exact ⟨init, rfl⟩
  | cons a as ih =>
    have hg' := fun x hx => hg x (List.mem_cons_of_mem a hx)
    obtain ⟨hstep, hkeep⟩ := hg a List.mem_cons_self init h0
    rw [List.foldlM_cons, exists_bind_eq_ok, List.forall_mem_cons]
    constructor
    · rintro ⟨b, hb, hr⟩
      exact ⟨hstep.mp ⟨b, hb⟩, (ih hg' (hkeep b hb)).mp hr⟩
    · rintro ⟨ha, has⟩
      obtain ⟨b, hb⟩ := hstep.mpr ha
      exact ⟨b, hb, (ih hg' (hkeep b hb)).mpr has⟩

theorem mapM_ok_iff {l : List α} {f : α → Except ε β} :
    (∃ r, l.mapM f = .ok r) ↔ ∀ a ∈ l, ∃ b, f a = .ok b := by
  induction l with
  | nil => simp only [List.mapM_nil, List.not_mem_nil, false_imp_iff, imp_true_iff, iff_true]
           exact ⟨[], rfl⟩
  | cons a as ih =>
    simp only [List.mapM_cons, exists_bind_eq_ok, List.forall_mem_cons]
    constructor
    · rintro ⟨b, hb, bs, hbs, r, -⟩
      exact ⟨⟨b, hb⟩, ih.mp ⟨bs, hbs⟩⟩
    · rintro ⟨⟨b, hb⟩, has⟩
      obtain ⟨bs, hbs⟩ := ih.mpr has
      exact ⟨b, hb, bs, hbs, b :: bs, rfl⟩

theorem mapM_ok_mem {l : List α} {f : α → Except ε β} {r : List β} (h : l.mapM f = .ok r) :
    ∀ b ∈ r, ∃ a ∈ l, f a = .ok b := by
  induction l generalizing r with
  | nil => cases h; simp
  | cons a as ih =>
    simp only [List.mapM_cons, bind_eq_ok_iff] at h
    obtain ⟨b, hb, bs, hbs, hr⟩ := h
    cases hr
    intro x hx
    rcases List.mem_cons.mp hx with rfl | hx
    · exact ⟨a, List.mem_cons_self, hb⟩
    · obtain ⟨y, hy, hfy⟩ := ih hbs x hx
      exact ⟨y, List.mem_cons_of_mem _ hy, hfy⟩

end Except

/-! ### The stages of resolving a host -/

namespace AddressPlan

def namedInterface (hostName gw : String) : Option String → String
  | some n => qualify hostName n
  | none => gw

def placeAddress (hostName gw : String) (ifs : List InterfaceConfig) (a : InterfaceAddress) :
    Except Error (List InterfaceConfig) :=
  match addAddress ifs (namedInterface hostName gw a.interface) a.cidr with
  | some next => .ok next
  | none => .error (unknownInterface hostName (namedInterface hostName gw a.interface))

def startInterfaces (host : Host) (gw : String) (mac : MacAddr) : List InterfaceConfig :=
  host.interfaces.map fun n => ⟨n, if n == gw then some mac else none, []⟩

def seedFirst (c : Ipv4Cidr) : List InterfaceConfig → List InterfaceConfig
  | i :: rest => { i with addresses := i.addresses ++ [c] } :: rest
  | [] => []

/-- The interfaces with the sequential address on the first, when the plan places none. -/
def seeded (index : Nat) (plan : HostPlan) (ifs : List InterfaceConfig) :
    Except Error (List InterfaceConfig) :=
  if plan.addresses.isEmpty then do
    let c ← sequentialAddress index
    pure (seedFirst c ifs)
  else pure ifs

/-- The default route of a host, which a host without routing duties needs. -/
def defaultRouteOf (host : Host) (gw : String) (plan : HostPlan) :
    Except Error (Option DefaultRoute) :=
  match plan.defaultRoute with
  | some via => do
    let iface := namedInterface host.name gw plan.routeInterface
    requireInterface host iface
    pure (some ⟨via, iface⟩)
  | none =>
    if plan.router.isNone then .error (.invalidConfig s!"host '{host.name}' needs a default route")
    else .ok none

def qualifiedRoute (host : Host) (route : StaticRoute) : Except Error StaticRoute := do
  let iface := qualify host.name route.interface
  requireInterface host iface
  pure { route with interface := iface }

/-- The routing duties of a host, with its interfaces qualified. -/
def routerOf (host : Host) (plan : HostPlan) : Except Error (Option RouterConfig) :=
  match plan.router with
  | some r => do
    let wan := qualify host.name r.wanInterface
    requireInterface host wan
    let routes ← r.routes.mapM (qualifiedRoute host)
    pure (some ⟨r.localSubnet.network, wan, routes⟩)
  | none => .ok none

theorem resolveHost_eq {index : Nat} {host : Host} {plan : HostPlan} {gw : String}
    (hgw : host.gatewayInterface = some gw) :
    resolveHost index host plan = (do
      let mac := plan.mac.getD (MacAddr.sequential index)
      let ifs ← seeded index plan (startInterfaces host gw mac)
      let ifs ← plan.addresses.foldlM (placeAddress host.name gw) ifs
      let route ← defaultRouteOf host gw plan
      let router ← routerOf host plan
      pure ⟨host.name, mac, ifs, route, router, plan.services⟩) := by
  unfold resolveHost seeded
  rw [hgw]
  dsimp only
  by_cases hempty : plan.addresses.isEmpty = true
  case' pos =>
    simp only [hempty, if_true, bind_assoc, pure_bind]
    congr 1
    funext c
  case' neg => simp only [hempty, Bool.false_eq_true, if_false, pure_bind]
  all_goals
    rw [forIn_eq_foldlM (placeAddress host.name gw)]
    · congr 1
      funext ifs
      simp only [defaultRouteOf, routerOf]
      cases plan.defaultRoute <;> cases plan.router <;> cases plan.routeInterface <;>
        simp only [namedInterface, bind_assoc, pure_bind, Option.isNone_none, Option.isNone_some,
          if_true, if_false, Bool.false_eq_true] <;> rfl
    · rintro ⟨_ | n, c⟩ b
      all_goals dsimp only [placeAddress, namedInterface]
      · cases addAddress b gw c <;> rfl
      · cases addAddress b (qualify host.name n) c <;> rfl

section Stages

variable {host : Host} {gw hostName : String}

theorem requireInterface_ok_iff {n : String} :
    (∃ u, requireInterface host n = .ok u) ↔ n ∈ host.interfaces := by
  rw [← List.contains_iff_mem]
  unfold requireInterface
  cases host.interfaces.contains n <;> simp

theorem namedInterface_mem_iff (hgw : gw ∈ host.interfaces) {o : Option String} :
    namedInterface host.name gw o ∈ host.interfaces ↔
      ∀ n, o = some n → qualify host.name n ∈ host.interfaces := by
  cases o <;> simp [namedInterface, hgw]

theorem sequentialAddress_ok_iff {index : Nat} :
    (∃ c, sequentialAddress index = .ok c) ↔ index + 1 < 0x1000000 := by
  unfold sequentialAddress
  split
  · exact ⟨fun _ => ‹_›, fun _ => ⟨_, rfl⟩⟩
  · simp_all

theorem names_of_tags {ifs ifs' : List InterfaceConfig}
    (h : ifs'.map InterfaceConfig.tag = ifs.map InterfaceConfig.tag) :
    ifs'.map (·.name) = ifs.map (·.name) := by
  have := congrArg (List.map Prod.fst) h
  rw [List.map_map, List.map_map] at this
  exact this

theorem seedFirst_tags (c : Ipv4Cidr) (ifs : List InterfaceConfig) :
    (seedFirst c ifs).map InterfaceConfig.tag = ifs.map InterfaceConfig.tag := by
  cases ifs <;> rfl

theorem seeded_ok_iff {index : Nat} {plan : HostPlan} {ifs : List InterfaceConfig} :
    (∃ r, seeded index plan ifs = .ok r) ↔ (plan.addresses = [] → index + 1 < 0x1000000) := by
  unfold seeded
  rw [← List.isEmpty_iff]
  cases plan.addresses.isEmpty
  · simp only [Bool.false_eq_true, if_false, false_imp_iff, iff_true]
    exact ⟨ifs, rfl⟩
  · simp only [if_true, true_imp_iff, exists_bind_eq_ok, sequentialAddress_ok_iff.symm]
    exact ⟨fun ⟨c, hc, _⟩ => ⟨c, hc⟩, fun ⟨c, hc⟩ => ⟨c, hc, _, rfl⟩⟩

theorem seeded_tags {index : Nat} {plan : HostPlan} {ifs r : List InterfaceConfig}
    (h : seeded index plan ifs = .ok r) :
    r.map InterfaceConfig.tag = ifs.map InterfaceConfig.tag := by
  unfold seeded at h
  split at h
  · obtain ⟨c, -, hr⟩ := bind_eq_ok_iff.mp h
    cases hr
    exact seedFirst_tags c ifs
  · cases h
    rfl

theorem addAddress_isSome {ifs : List InterfaceConfig} {name : String} (c : Ipv4Cidr) :
    (addAddress ifs name c).isSome ↔ name ∈ ifs.map (·.name) := by
  unfold addAddress
  split <;> simp_all

theorem placeAddress_ok_iff {ifs : List InterfaceConfig} {a : InterfaceAddress} :
    (∃ r, placeAddress hostName gw ifs a = .ok r) ↔
      namedInterface hostName gw a.interface ∈ ifs.map (·.name) := by
  rw [← addAddress_isSome a.cidr]
  unfold placeAddress
  split <;> simp_all

theorem placeAddress_tags {ifs r : List InterfaceConfig} {a : InterfaceAddress}
    (h : placeAddress hostName gw ifs a = .ok r) :
    r.map InterfaceConfig.tag = ifs.map InterfaceConfig.tag := by
  unfold placeAddress at h
  split at h
  · cases h
    exact addAddress_tags ‹_›
  · cases h

theorem placeAll_ok_iff {addrs : List InterfaceAddress} {ifs : List InterfaceConfig} :
    (∃ r, addrs.foldlM (placeAddress hostName gw) ifs = .ok r) ↔
      ∀ a ∈ addrs, namedInterface hostName gw a.interface ∈ ifs.map (·.name) := by
  refine foldlM_ok_iff (fun r => r.map InterfaceConfig.tag = ifs.map InterfaceConfig.tag) _
    (fun a _ b hb => ⟨?_, fun _ h' => (placeAddress_tags h').trans hb⟩) rfl
  rw [placeAddress_ok_iff, names_of_tags hb]

theorem defaultRouteOf_ok_iff (hgw : gw ∈ host.interfaces) {plan : HostPlan} :
    (∃ r, defaultRouteOf host gw plan = .ok r) ↔
      (∀ via, plan.defaultRoute = some via →
        ∀ n, plan.routeInterface = some n → qualify host.name n ∈ host.interfaces) ∧
      (plan.router = none → plan.defaultRoute.isSome) := by
  unfold defaultRouteOf
  cases plan.defaultRoute with
  | some via =>
    simp only [exists_bind_eq_ok, Option.some.injEq, forall_eq', Option.isSome_some, imp_true_iff,
      and_true]
    rw [← namedInterface_mem_iff hgw, ← requireInterface_ok_iff]
    exact ⟨fun ⟨u, hu, _⟩ => ⟨u, hu⟩, fun ⟨u, hu⟩ => ⟨u, hu, _, rfl⟩⟩
  | none => cases plan.router <;> simp

theorem qualifiedRoute_ok_iff {route : StaticRoute} :
    (∃ r, qualifiedRoute host route = .ok r) ↔
      qualify host.name route.interface ∈ host.interfaces := by
  simp only [qualifiedRoute, exists_bind_eq_ok]
  rw [← requireInterface_ok_iff]
  exact ⟨fun ⟨u, hu, _⟩ => ⟨u, hu⟩, fun ⟨u, hu⟩ => ⟨u, hu, _, rfl⟩⟩

theorem routerOf_ok_iff {plan : HostPlan} :
    (∃ r, routerOf host plan = .ok r) ↔
      ∀ r, plan.router = some r → qualify host.name r.wanInterface ∈ host.interfaces ∧
        ∀ route ∈ r.routes, qualify host.name route.interface ∈ host.interfaces := by
  unfold routerOf
  cases plan.router with
  | none => simp
  | some r =>
    simp only [exists_bind_eq_ok, Option.some.injEq, forall_eq']
    rw [← requireInterface_ok_iff]
    simp only [← qualifiedRoute_ok_iff, ← mapM_ok_iff]
    constructor
    · rintro ⟨u, hwan, routes, hroutes, -⟩
      exact ⟨⟨u, hwan⟩, routes, hroutes⟩
    · rintro ⟨⟨u, hwan⟩, routes, hroutes⟩
      exact ⟨u, hwan, routes, hroutes, _, rfl⟩

theorem defaultRouteOf_interface {plan : HostPlan} {route : Option DefaultRoute}
    (h : defaultRouteOf host gw plan = .ok route) :
    ∀ r, route = some r → r.interface ∈ host.interfaces := by
  unfold defaultRouteOf at h
  split at h
  · obtain ⟨u, hu, hroute⟩ := bind_eq_ok_iff.mp h
    cases hroute
    rintro r ⟨⟩
    exact requireInterface_ok_iff.mp ⟨u, hu⟩
  · split at h <;> cases h
    rintro r ⟨⟩

theorem qualifiedRoute_interface {route r : StaticRoute} (h : qualifiedRoute host route = .ok r) :
    r.interface ∈ host.interfaces := by
  obtain ⟨u, hu, hr⟩ := bind_eq_ok_iff.mp h
  cases hr
  exact requireInterface_ok_iff.mp ⟨u, hu⟩

theorem routerOf_interfaces {plan : HostPlan} {router : Option RouterConfig}
    (h : routerOf host plan = .ok router) :
    ∀ rc, router = some rc → rc.wanInterface ∈ host.interfaces ∧
      ∀ route ∈ rc.routes, route.interface ∈ host.interfaces := by
  unfold routerOf at h
  split at h
  · obtain ⟨u, hu, h⟩ := bind_eq_ok_iff.mp h
    obtain ⟨routes, hroutes, hrc⟩ := bind_eq_ok_iff.mp h
    cases hrc
    rintro rc ⟨⟩
    refine ⟨requireInterface_ok_iff.mp ⟨u, hu⟩, fun route hroute => ?_⟩
    obtain ⟨_, -, hq⟩ := mapM_ok_mem hroutes route hroute
    exact qualifiedRoute_interface hq
  · cases h
    rintro rc ⟨⟩

theorem startInterfaces_names (mac : MacAddr) :
    (startInterfaces host gw mac).map (·.name) = host.interfaces := by
  rw [startInterfaces, List.map_map]
  exact List.map_id _

end Stages

end AddressPlan

/-! ### One host -/

/-- A host's plan fits the host at `index`: its addresses and interfaces exist. -/
structure HostPlan.Fits (plan : HostPlan) (host : Host) (index : Nat) : Prop where
  numbered : plan.addresses = [] → index + 1 < 0x1000000
  addresses_known : ∀ a ∈ plan.addresses, ∀ n, a.interface = some n →
    AddressPlan.qualify host.name n ∈ host.interfaces
  route_known : ∀ via, plan.defaultRoute = some via → ∀ n, plan.routeInterface = some n →
    AddressPlan.qualify host.name n ∈ host.interfaces
  routed : plan.router = none → plan.defaultRoute.isSome
  wan_known : ∀ r, plan.router = some r →
    AddressPlan.qualify host.name r.wanInterface ∈ host.interfaces
  routes_known : ∀ r, plan.router = some r → ∀ route ∈ r.routes,
    AddressPlan.qualify host.name route.interface ∈ host.interfaces

namespace AddressPlan

theorem resolveHost_ok_iff {index : Nat} {host : Host} {plan : HostPlan} :
    (∃ c, resolveHost index host plan = .ok c) ↔ host.interfaces ≠ [] ∧ plan.Fits host index := by
  cases hgw : host.gatewayInterface with
  | none =>
    have hnil : host.interfaces = [] := List.head?_eq_none_iff.mp hgw
    simp only [hnil, ne_eq, not_true_eq_false, false_and, iff_false]
    rintro ⟨c, hc⟩
    unfold resolveHost at hc
    rw [hgw] at hc
    cases hc
  | some gw =>
    have hmem : gw ∈ host.interfaces := List.mem_of_head? hgw
    have hne : host.interfaces ≠ [] := List.ne_nil_of_mem hmem
    rw [resolveHost_eq hgw]
    simp only [exists_bind_eq_ok]
    constructor
    · rintro ⟨ifs, hseed, ifs', hplace, route, hroute, router, hrouter, -⟩
      have hifs : ifs.map (·.name) = host.interfaces :=
        (names_of_tags (seeded_tags hseed)).trans (startInterfaces_names _)
      have haddr := placeAll_ok_iff.mp ⟨ifs', hplace⟩
      obtain ⟨hroute_known, hrouted⟩ := (defaultRouteOf_ok_iff hmem).mp ⟨route, hroute⟩
      have hrouter_known := routerOf_ok_iff.mp ⟨router, hrouter⟩
      refine ⟨hne, seeded_ok_iff.mp ⟨ifs, hseed⟩, fun a ha => ?_, hroute_known, hrouted,
        fun r hr => (hrouter_known r hr).1, fun r hr => (hrouter_known r hr).2⟩
      have hnamed := haddr a ha
      rwa [hifs, namedInterface_mem_iff hmem] at hnamed
    · rintro ⟨-, hfits⟩
      obtain ⟨ifs, hseed⟩ : ∃ r, seeded index plan
          (startInterfaces host gw (plan.mac.getD (MacAddr.sequential index))) = .ok r :=
        seeded_ok_iff.mpr hfits.numbered
      have hifs : ifs.map (·.name) = host.interfaces :=
        (names_of_tags (seeded_tags hseed)).trans (startInterfaces_names _)
      obtain ⟨ifs', hplace⟩ := placeAll_ok_iff.mpr fun a ha => by
        rw [hifs, namedInterface_mem_iff hmem]
        exact hfits.addresses_known a ha
      obtain ⟨route, hroute⟩ := (defaultRouteOf_ok_iff hmem).mpr ⟨hfits.route_known, hfits.routed⟩
      obtain ⟨router, hrouter⟩ :=
        routerOf_ok_iff.mpr fun r hr => ⟨hfits.wan_known r hr, hfits.routes_known r hr⟩
      exact ⟨ifs, hseed, ifs', hplace, route, hroute, router, hrouter, _, rfl⟩

/-! ### All hosts -/

def planFor (p : AddressPlan) (name : String) : HostPlan := (lookupSorted name p.hosts).getD {}

def hostMac (p : AddressPlan) (index : Nat) (host : Host) : MacAddr :=
  (p.planFor host.name).mac.getD (MacAddr.sequential index)

def macsFrom (p : AddressPlan) : Nat → List Host → List MacAddr
  | _, [] => []
  | index, h :: rest => p.hostMac index h :: p.macsFrom (index + 1) rest

theorem resolveHost_mac {index : Nat} {host : Host} {plan : HostPlan} {c : HostConfig}
    (h : resolveHost index host plan = .ok c) :
    c.mac = plan.mac.getD (MacAddr.sequential index) := by
  obtain ⟨-, -, hmac, -⟩ := resolveHost_gateway h
  exact hmac

theorem resolveHosts_ok_iff (p : AddressPlan) {hs : List Host} :
    ∀ {index : Nat} {seen : List MacAddr}, (∃ cs, p.resolveHosts index seen hs = .ok cs) ↔
      (∀ k host, hs[k]? = some host →
        ∃ c, resolveHost (index + k) host (p.planFor host.name) = .ok c) ∧
      (p.macsFrom index hs).Nodup ∧ ∀ m ∈ p.macsFrom index hs, m ∉ seen := by
  induction hs with
  | nil =>
    intro index seen
    simp only [resolveHosts, macsFrom, List.getElem?_nil, reduceCtorEq, false_imp_iff,
      imp_true_iff, List.nodup_nil, List.not_mem_nil, true_and, iff_true]
    exact ⟨[], rfl⟩
  | cons h rest ih =>
    intro index seen
    rw [resolveHosts, exists_bind_eq_ok]
    simp only [macsFrom, List.nodup_cons, List.forall_mem_cons]
    constructor
    · rintro ⟨c, hc, cs, hcs⟩
      rw [resolveHost_mac hc] at hcs
      split at hcs
      · cases hcs
      rename_i hfresh
      obtain ⟨others, hothers, -⟩ := bind_eq_ok_iff.mp hcs
      obtain ⟨hall, hnd, hseen⟩ := ih.mp ⟨others, hothers⟩
      refine ⟨fun k host hk => ?_, ⟨fun hm => (hseen _ hm) List.mem_cons_self, hnd⟩,
        fun hm => hfresh (List.contains_iff_mem.mpr hm),
        fun m hm hms => hseen m hm (List.mem_cons_of_mem _ hms)⟩
      cases k with
      | zero =>
        cases hk
        exact ⟨c, hc⟩
      | succ k =>
        rw [show index + (k + 1) = index + 1 + k by omega]
        exact hall k host hk
    · rintro ⟨hall, ⟨hnew, hnd⟩, hunseen, hseen⟩
      obtain ⟨c, hc⟩ := hall 0 h rfl
      rw [Nat.add_zero] at hc
      obtain ⟨others, hothers⟩ :
          ∃ cs, p.resolveHosts (index + 1) (p.hostMac index h :: seen) rest = .ok cs := ih.mpr
        ⟨fun k host hk => by
          rw [show index + 1 + k = index + (k + 1) by omega]
          exact hall (k + 1) host hk,
        hnd, fun m hm hms => (List.mem_cons.mp hms).elim (fun heq => hnew (heq ▸ hm)) (hseen m hm)⟩
      refine ⟨c, hc, c :: others, ?_⟩
      rw [resolveHost_mac hc, if_neg]
      · exact bind_eq_ok_iff.mpr ⟨others, hothers, rfl⟩
      · exact fun hm => hunseen (List.contains_iff_mem.mp hm)

/-! ### Switches -/

theorem switchEndpoints_ok_iff (p : AddressPlan) (s : Switch) :
    (∃ eps, p.switchEndpoints s = .ok eps) ↔
      ∀ c ∈ s.controllers, ∃ e es, lookupSorted c p.controllers = some (e :: es) := by
  refine foldlM_ok_iff (fun _ => True) _ (fun c _ acc _ => ⟨?_, fun _ _ => trivial⟩) trivial
  cases lookupSorted c p.controllers with
  | none => simp
  | some eps => cases eps <;> simp

theorem switchFold_ok_iff (p : AddressPlan) (switches : List Switch) :
    (∃ r, switches.foldlM (fun acc s => do
        let eps ← p.switchEndpoints s
        pure (insertSorted s.name eps acc)) [] = .ok r) ↔
      ∀ s ∈ switches, ∀ c ∈ s.controllers,
        ∃ e es, lookupSorted c p.controllers = some (e :: es) := by
  refine foldlM_ok_iff (fun _ => True) _ (fun s _ acc _ => ⟨?_, fun _ _ => trivial⟩) trivial
  rw [exists_bind_eq_ok, ← switchEndpoints_ok_iff]
  exact ⟨fun ⟨eps, h, _⟩ => ⟨eps, h⟩, fun ⟨eps, h⟩ => ⟨eps, h, _, rfl⟩⟩

end AddressPlan

namespace Topology

theorem host?_isSome_iff (t : Topology) (name : String) :
    (t.host? name).isSome ↔ name ∈ t.hosts.map (·.name) := by
  rw [host?, List.find?_isSome, List.mem_map]
  simp only [beq_iff_eq]

theorem validate_hosts_linked {t : Topology} (h : t.validate = .ok ()) :
    ∀ host ∈ t.hosts, host.interfaces ≠ [] := by
  unfold validate at h
  simp only [bind, Except.bind, pure, Except.pure, throw, throwThe, MonadExceptOf.throw] at h
  split at h
  · cases h
  split at h
  · cases h
  rename_i hnone
  intro host hh hempty
  exact List.find?_eq_none.mp (Option.eq_none_iff_forall_ne_some.mpr hnone) host hh
    (List.isEmpty_iff.mpr hempty)

end Topology

/-- A plan fits a topology: see the module comment. -/
structure AddressPlan.Fits (p : AddressPlan) (t : Topology) : Prop where
  valid : t.validate = .ok ()
  hosts_known : ∀ name ∈ p.hosts.map Prod.fst, name ∈ t.hosts.map (·.name)
  host_plans : ∀ i host, t.hosts[i]? = some host → (p.planFor host.name).Fits host i
  macs_distinct : (p.macsFrom 0 t.hosts).Nodup
  endpoints : ∀ s ∈ t.switches, ∀ c ∈ s.controllers,
    ∃ e es, lookupSorted c p.controllers = some (e :: es)

namespace AddressPlan

def checkHostName (t : Topology) (_ : Unit) (x : String × HostPlan) : Except Error Unit :=
  if (t.host? x.1).isNone then .error (.unknownEndpoint x.1) else .ok ()

theorem checkHostNames_ok_iff (p : AddressPlan) (t : Topology) :
    (∃ u, p.hosts.foldlM (checkHostName t) () = .ok u) ↔
      ∀ name ∈ p.hosts.map Prod.fst, name ∈ t.hosts.map (·.name) := by
  rw [List.forall_mem_map]
  refine foldlM_ok_iff (fun _ => True) _ (fun x _ _ _ => ⟨?_, fun _ _ => trivial⟩) trivial
  rw [checkHostName, ← Topology.host?_isSome_iff]
  cases t.host? x.1 <;> simp

theorem resolve_ok_iff (p : AddressPlan) (t : Topology) :
    (∃ R, p.resolve t = .ok R) ↔ p.Fits t := by
  unfold resolve
  rw [forIn_eq_foldlM (checkHostName t)]
  · simp only [exists_bind_eq_ok]
    constructor
    · rintro ⟨u, hvalid, v, hnames, hosts, hhosts, sw, hsw, -⟩
      obtain ⟨hall, hnd, -⟩ := p.resolveHosts_ok_iff.mp ⟨hosts, hhosts⟩
      refine ⟨hvalid, (checkHostNames_ok_iff p t).mp ⟨v, hnames⟩, fun i host hi => ?_, hnd,
        (switchFold_ok_iff p t.switches).mp ⟨sw, hsw⟩⟩
      obtain ⟨c, hc⟩ := hall i host hi
      rw [Nat.zero_add] at hc
      exact (resolveHost_ok_iff.mp ⟨c, hc⟩).2
    · intro hfits
      obtain ⟨v, hnames⟩ := (checkHostNames_ok_iff p t).mpr hfits.hosts_known
      obtain ⟨hosts, hhosts⟩ := p.resolveHosts_ok_iff.mpr
        ⟨fun i host hi => by
          rw [Nat.zero_add]
          exact resolveHost_ok_iff.mpr ⟨Topology.validate_hosts_linked hfits.valid host
            (List.mem_of_getElem? hi), hfits.host_plans i host hi⟩,
        hfits.macs_distinct, fun _ _ => List.not_mem_nil⟩
      obtain ⟨sw, hsw⟩ := (switchFold_ok_iff p t.switches).mpr hfits.endpoints
      exact ⟨(), hfits.valid, v, hnames, hosts, hhosts, sw, hsw, _, rfl⟩
  · rintro ⟨name, plan⟩ u
    unfold checkHostName
    dsimp only
    by_cases h : (t.host? name).isNone = true
    · rw [if_pos h, if_pos h]
      rfl
    · rw [if_neg h, if_neg h]
      rfl

/-! ### What a resolved plan holds -/

theorem resolveHosts_getElem? (p : AddressPlan) {hs : List Host} :
    ∀ {index : Nat} {seen : List MacAddr} {cs : List HostConfig},
      p.resolveHosts index seen hs = .ok cs → ∀ k c, cs[k]? = some c →
        ∃ host, hs[k]? = some host ∧
          resolveHost (index + k) host (p.planFor host.name) = .ok c := by
  induction hs with
  | nil =>
    intro index seen cs h k c hc
    cases h
    cases hc
  | cons host rest ih =>
    intro index seen cs h k c hc
    obtain ⟨config, hconfig, h⟩ := bind_eq_ok_iff.mp h
    split at h
    · cases h
    obtain ⟨others, hothers, hcs⟩ := bind_eq_ok_iff.mp h
    cases hcs
    cases k with
    | zero =>
      cases hc
      exact ⟨host, rfl, hconfig⟩
    | succ k =>
      obtain ⟨h', hk, hres⟩ := ih hothers k c hc
      refine ⟨h', hk, ?_⟩
      rwa [show index + (k + 1) = index + 1 + k by omega]

end AddressPlan

/-- `c` configures `host` with MAC address `mac` on the host's own interfaces. -/
structure HostConfig.Configures (c : HostConfig) (host : Host) (mac : MacAddr) : Prop where
  name_eq : c.name = host.name
  interface_names : c.interfaces.map (·.name) = host.interfaces
  mac_eq : c.mac = mac
  gateway_mac : ∀ i ∈ c.interfaces.head?, i.mac = some mac
  others_unset : ∀ i ∈ c.interfaces.tail, i.mac = none
  route_known : ∀ r, c.defaultRoute = some r → r.interface ∈ host.interfaces
  router_known : ∀ rc, c.router = some rc → rc.wanInterface ∈ host.interfaces ∧
    ∀ route ∈ rc.routes, route.interface ∈ host.interfaces

namespace AddressPlan

theorem resolveHost_routes_known {index : Nat} {host : Host} {plan : HostPlan} {c : HostConfig}
    (h : resolveHost index host plan = .ok c) :
    (∀ r, c.defaultRoute = some r → r.interface ∈ host.interfaces) ∧
      ∀ rc, c.router = some rc → rc.wanInterface ∈ host.interfaces ∧
        ∀ route ∈ rc.routes, route.interface ∈ host.interfaces := by
  obtain ⟨gw, hgw, -⟩ := resolveHost_gateway h
  rw [resolveHost_eq hgw] at h
  obtain ⟨_, -, h⟩ := bind_eq_ok_iff.mp h
  obtain ⟨_, -, h⟩ := bind_eq_ok_iff.mp h
  obtain ⟨route, hroute, h⟩ := bind_eq_ok_iff.mp h
  obtain ⟨router, hrouter, hc⟩ := bind_eq_ok_iff.mp h
  cases hc
  exact ⟨defaultRouteOf_interface hroute, routerOf_interfaces hrouter⟩

theorem resolveHost_configures {index : Nat} {host : Host} {plan : HostPlan} {c : HostConfig}
    (hnd : host.interfaces.Nodup) (h : resolveHost index host plan = .ok c) :
    c.Configures host (plan.mac.getD (MacAddr.sequential index)) := by
  obtain ⟨gw, hgw, hmac, htags⟩ := resolveHost_gateway h
  obtain ⟨rest, hifs⟩ : ∃ rest, host.interfaces = gw :: rest :=
    ⟨host.interfaces.tail, (List.cons_head?_tail hgw).symm⟩
  have hfresh : gw ∉ rest := (List.nodup_cons.mp (hifs ▸ hnd)).1
  have hnames : c.interfaces.map (·.name) = host.interfaces := by
    have := congrArg (List.map Prod.fst) htags
    rw [List.map_map, List.map_map] at this
    exact this.trans (List.map_id _)
  obtain ⟨hroute, hrouter⟩ := resolveHost_routes_known h
  refine ⟨resolveHost_name h, hnames, hmac, ?_, ?_, hroute, hrouter⟩
  all_goals
    rw [hifs, List.map_cons] at htags
    obtain ⟨i0, others, hci⟩ : ∃ i0 others, c.interfaces = i0 :: others := by
      cases hc : c.interfaces with
      | nil => rw [hc] at htags; cases htags
      | cons i0 others => exact ⟨i0, others, rfl⟩
    rw [hci, List.map_cons] at htags
    obtain ⟨h0, hrest⟩ := List.cons.inj htags
    rw [hci]
  · intro i hi
    cases hi
    simp only [InterfaceConfig.tag, beq_self_eq_true, if_true, Prod.mk.injEq] at h0
    rw [h0.2, hmac]
  · intro i hi
    have hmem : i.tag ∈ rest.map fun n => (n, if n == gw then some c.mac else none) :=
      hrest ▸ List.mem_map_of_mem hi
    obtain ⟨n, hn, hin⟩ := List.mem_map.mp hmem
    have hne : (n == gw) = false := beq_false_of_ne fun heq => hfresh (heq ▸ hn)
    rw [hne, if_neg Bool.false_ne_true] at hin
    exact (Prod.mk.inj hin).2.symm

end AddressPlan

namespace Topology

theorem WellFormed.host_interfaces_nodup {t : Topology} (hw : t.WellFormed) {h : Host}
    (hh : h ∈ t.hosts) : h.interfaces.Nodup := by
  rw [(hw.host_interfaces h hh).2, interfaceNames]
  refine List.Nodup.map (fun i j hij => ?_) List.nodup_range
  simpa using (interfaceName_inj.mp hij).2

end Topology

/-- What resolving `p` against `t` promises, see the module comment. -/
structure ResolutionSpec (p : AddressPlan) (t : Topology) : Prop where
  succeeds_iff : (∃ R, p.resolve t = .ok R) ↔ p.Fits t
  hosts_in_order : ∀ R, p.resolve t = .ok R → R.hosts.map (·.name) = t.hosts.map (·.name)
  configures : ∀ R, p.resolve t = .ok R → ∀ (i : Nat) (c : HostConfig) (host : Host),
    R.hosts[i]? = some c → t.hosts[i]? = some host → c.Configures host (p.hostMac i host)

theorem AddressPlan.resolve_meets_spec {t : Topology} (hw : t.WellFormed) (p : AddressPlan) :
    ResolutionSpec p t where
  succeeds_iff := p.resolve_ok_iff t
  hosts_in_order _ hR := AddressPlan.resolve_host_names hR
  configures R hR i c host hc hhost := by
    obtain ⟨host', hhost', hres⟩ := p.resolveHosts_getElem? (AddressPlan.resolve_hosts hR) i c hc
    rw [hhost, Option.some.injEq] at hhost'
    subst hhost'
    rw [Nat.zero_add] at hres
    exact AddressPlan.resolveHost_configures
      (hw.host_interfaces_nodup (List.mem_of_getElem? hhost)) hres

/-- Resolving any plan against a built topology meets `ResolutionSpec`. -/
theorem plan_resolution_meets_spec (calls : List Topology.Call) (p : AddressPlan) :
    ResolutionSpec p (Topology.replay calls) :=
  p.resolve_meets_spec (Topology.replay_wellFormed calls)

end MudTestbed
