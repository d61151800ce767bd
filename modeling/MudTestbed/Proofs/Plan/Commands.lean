import MudTestbed.Plan.Commands
import MudTestbed.Proofs.Plan.Resolve

/-!
# What configuring a host touches

The commands `hostCommands` runs inside a host are read here as command lines. A command
names a device by the word after `dev` or `-o` (`HostCommand.devices`); it changes a route
when it starts `ip route add` or `ip route del`, configures a link when it starts `ip link`
or `ip addr`, and masquerades when it is an `iptables -t nat -A POSTROUTING` rule ending in
`-j MASQUERADE`.

`HostCommandsSpec c host` says what the commands of configuration `c` do on topology host
`host`: every device they name is an interface of the host; they start with one block per
interface, in interface order, each setting the MAC (the gateway's only), flushing the
addresses, adding the planned ones and bringing the link up last; a default route is
installed by the last two commands and no other command changes a route; and a router
masquerades its local subnet out of its WAN interface by exactly one rule.

Each piece of `hostCommands` is read on its own (`forInterface_devices`, `forRouter_kind`,
...), `hostCommands_meet_spec` assembles them for any configuration that configures the
host, and `resolve_host_commands` applies it to every host a plan resolves for a well-formed
topology. Interface names are never `dev` or `-o`, so the word after a flag is never read
as a flag itself.
-/

namespace MudTestbed

set_option autoImplicit false

namespace HostCommand

/-! ### Reading a command line -/

def deviceFlags : List String := ["dev", "-o"]

def wordsAfter (flags : List String) : List String → List (Option String)
  | [] => []
  | w :: rest =>
    if flags.contains w then rest.head? :: wordsAfter flags rest else wordsAfter flags rest

def devices (cmd : HostCommand) : List (Option String) := wordsAfter deviceFlags cmd.argv

def ChangesRoute (cmd : HostCommand) : Prop :=
  ["ip", "route", "add"] <+: cmd.argv ∨ ["ip", "route", "del"] <+: cmd.argv

def ConfiguresLink (cmd : HostCommand) : Prop :=
  ["ip", "link"] <+: cmd.argv ∨ ["ip", "addr"] <+: cmd.argv

def Masquerades (cmd : HostCommand) : Prop :=
  ["iptables", "-t", "nat", "-A", "POSTROUTING"] <+: cmd.argv ∧ ["-j", "MASQUERADE"] <:+ cmd.argv

def setMac (n : String) : Option MacAddr → List HostCommand
  | some m => [required ["ip", "link", "set", "dev", n, "down"],
      required ["ip", "link", "set", "dev", n, "address", m.toText]]
  | none => []

def InterfaceBlock (n : String) (mac : Option MacAddr) (block : List HostCommand) : Prop :=
  ∃ adds : List String, block = setMac n mac ++ [required ["ip", "addr", "flush", "dev", n]] ++
    adds.map (fun x => required ["ip", "addr", "add", x, "dev", n]) ++
    [required ["ip", "link", "set", "dev", n, "up"]]

theorem InterfaceBlock.sets_mac {n : String} {mac : Option MacAddr} {block : List HostCommand}
    (hb : InterfaceBlock n mac block) {cmd : HostCommand} {n' m : String} (hcmd : cmd ∈ block)
    (h : cmd.argv = ["ip", "link", "set", "dev", n', "address", m]) :
    n' = n ∧ ∃ mac', mac = some mac' ∧ m = mac'.toText := by
  obtain ⟨adds, rfl⟩ := hb
  simp only [List.mem_append, List.mem_map, List.mem_singleton] at hcmd
  rcases hcmd with ((hset | rfl) | ⟨x, -, rfl⟩) | rfl
  · cases mac with
    | none => simp [setMac] at hset
    | some mac' =>
      simp only [setMac, List.mem_cons, List.not_mem_nil, or_false] at hset
      rcases hset with rfl | rfl <;> simp_all [required]
  all_goals simp [required] at h

/-! ### Texts that are no flags -/

theorem not_flag_of_mem {s : String} {ch : Char} (hs : ch ∈ s.toList)
    (hch : ∀ f ∈ deviceFlags, ch ∉ f.toList) : s ∉ deviceFlags :=
  fun hmem => hch s hmem hs

@[simp] theorem cidr_not_flag (c : Ipv4Cidr) : c.toText ∉ deviceFlags :=
  not_flag_of_mem (by simp [Ipv4Cidr.toText] : '/' ∈ c.toText.toList) (by decide)

@[simp] theorem addr_not_flag (a : Ipv4Addr) : a.toText ∉ deviceFlags :=
  not_flag_of_mem (by simp [Ipv4Addr.toText, Ipv4Addr.octets] : '.' ∈ a.toText.toList)
    (by decide)

theorem colon_mem_toText (m : MacAddr) : ':' ∈ m.toText.toList := by
  rcases m with ⟨_ | ⟨b0, _ | ⟨b1, rest⟩⟩, hl, -⟩
  · simp at hl
  · simp at hl
  · simp [MacAddr.toText, String.toList_intercalate]

@[simp] theorem mac_not_flag (m : MacAddr) : m.toText ∉ deviceFlags :=
  not_flag_of_mem (colon_mem_toText m) (by decide)

theorem interfaceName_not_flag (n : String) (i : Nat) : interfaceName n i ∉ deviceFlags :=
  not_flag_of_mem (by simp [interfaceName_toList] : 'h' ∈ (interfaceName n i).toList)
    (by decide)

/-! ### The pieces of a host's commands -/

section Pieces

variable (i : InterfaceConfig) (r : RouterConfig) (d : DefaultRoute)

theorem forInterface_block : InterfaceBlock i.name i.mac (forInterface i) := by
  refine ⟨i.addresses.map Ipv4Cidr.toText, ?_⟩
  cases hm : i.mac <;> simp [forInterface, setMac, hm, Function.comp_def]

theorem forInterface_devices (hn : i.name ∉ deviceFlags) :
    ∀ cmd ∈ forInterface i, cmd.devices = [some i.name] := by
  cases hm : i.mac <;>
    simp +decide [forInterface, hm, devices, wordsAfter, required, hn, or_imp, forall_and]

theorem forInterface_kind :
    ∀ cmd ∈ forInterface i,
      cmd.ConfiguresLink ∧ ¬ cmd.ChangesRoute ∧ ¬ cmd.Masquerades := by
  cases hm : i.mac <;>
    simp +decide [forInterface, hm, ConfiguresLink, ChangesRoute, Masquerades, required,
      or_imp, forall_and]

theorem forRouter_devices (hwan : r.wanInterface ∉ deviceFlags)
    (hroutes : ∀ route ∈ r.routes, route.interface ∉ deviceFlags) :
    ∀ cmd ∈ forRouter r, ∀ x ∈ cmd.devices,
      x = some r.wanInterface ∨ ∃ route ∈ r.routes, x = some route.interface := by
  intro cmd hcmd x hx
  simp only [forRouter, List.mem_append, List.mem_map, List.mem_cons, List.not_mem_nil,
    or_false] at hcmd
  rcases hcmd with (((rfl | ⟨table, htable, rfl⟩) | rfl | rfl) | ⟨route, hroute, rfl⟩)
  · simp +decide [devices, wordsAfter, required] at hx
  · rcases htable with rfl | rfl | rfl <;> simp +decide [devices, wordsAfter, required] at hx
  · simp +decide [devices, wordsAfter, required] at hx
  · left
    simpa +decide [devices, wordsAfter, required, hwan] using hx
  · right
    refine ⟨route, hroute, ?_⟩
    cases hv : route.via <;>
      simpa +decide [devices, wordsAfter, required, hv, hroutes route hroute] using hx

theorem forRouter_kind :
    ∀ cmd ∈ forRouter r, ¬ cmd.ConfiguresLink ∧ ¬ cmd.ChangesRoute := by
  intro cmd hcmd
  simp only [forRouter, List.mem_append, List.mem_map, List.mem_cons, List.not_mem_nil,
    or_false] at hcmd
  rcases hcmd with (((rfl | ⟨table, -, rfl⟩) | rfl | rfl) | ⟨route, -, rfl⟩) <;>
    simp [ConfiguresLink, ChangesRoute, required]

theorem forRouter_masquerade :
    ∃ pre post, forRouter r = pre ++ required ["iptables", "-t", "nat", "-A", "POSTROUTING",
        "-o", r.wanInterface, "-s", r.localSubnet.toText, "-j", "MASQUERADE"] :: post ∧
      ∀ cmd ∈ pre ++ post, ¬ cmd.Masquerades := by
  refine ⟨[required ["sysctl", "-w", "net.ipv4.ip_forward=1"]] ++
    (["filter", "nat", "mangle"].map fun table => required ["iptables", "-t", table, "-F"]) ++
    [required ["iptables", "-X"]], (forRouter r).drop 6, by simp [forRouter], ?_⟩
  simp [forRouter, Masquerades, required]

theorem forDefaultRoute_devices (hn : d.interface ∉ deviceFlags) :
    ∀ cmd ∈ forDefaultRoute d, ∀ x ∈ cmd.devices, x = some d.interface := by
  simp +decide [forDefaultRoute, devices, wordsAfter, required, hn]

theorem forDefaultRoute_kind :
    ∀ cmd ∈ forDefaultRoute d, ¬ cmd.ConfiguresLink ∧ ¬ cmd.Masquerades := by
  simp [forDefaultRoute, ConfiguresLink, Masquerades, required]

end Pieces

end HostCommand

open HostCommand

/-- What the commands configuring `c` do on the topology host `host`. -/
structure HostCommandsSpec (c : HostConfig) (host : Host) : Prop where
  /-- Every device a command names is an interface of the host. -/
  devices_known :
    ∀ cmd ∈ hostCommands c, ∀ x ∈ cmd.devices, ∃ n ∈ host.interfaces, x = some n
  /-- One block per interface in order, only the gateway's setting the MAC, then no link set. -/
  interface_blocks : ∃ (blocks : List (List HostCommand)) (rest : List HostCommand),
    hostCommands c = blocks.flatten ++ rest ∧
    blocks.length = host.interfaces.length ∧
    (∀ (k : Nat) (n : String) (b : List HostCommand), host.interfaces[k]? = some n →
      blocks[k]? = some b → InterfaceBlock n (if k = 0 then some c.mac else none) b) ∧
    ∀ cmd ∈ rest, ¬ cmd.ConfiguresLink
  /-- A MAC address is set only on the gateway interface, and it is the host's. -/
  mac_on_gateway : ∀ cmd ∈ hostCommands c, ∀ n m : String,
    cmd.argv = ["ip", "link", "set", "dev", n, "address", m] →
      host.gatewayInterface = some n ∧ m = c.mac.toText
  /-- A default route is installed by the last two commands, and no other touches routes. -/
  default_route_last : ∀ r, c.defaultRoute = some r → ∃ pre, hostCommands c = pre ++
    [⟨["ip", "route", "del", "default"], true⟩,
      required ["ip", "route", "add", "default", "via", r.via.toText, "dev", r.interface]] ∧
    ∀ cmd ∈ pre, ¬ cmd.ChangesRoute
  /-- Without a default route no command adds or deletes a route. -/
  no_default_route : c.defaultRoute = none → ∀ cmd ∈ hostCommands c, ¬ cmd.ChangesRoute
  /-- A router masquerades its local subnet out of its WAN interface by exactly one rule. -/
  masquerade_once : ∀ r, c.router = some r → ∃ pre post, hostCommands c = pre ++
    required ["iptables", "-t", "nat", "-A", "POSTROUTING", "-o", r.wanInterface, "-s",
      r.localSubnet.toText, "-j", "MASQUERADE"] :: post ∧
    ∀ cmd ∈ pre ++ post, ¬ cmd.Masquerades
  /-- A host that routes nothing masquerades nothing. -/
  no_masquerade : c.router = none → ∀ cmd ∈ hostCommands c, ¬ cmd.Masquerades

section Assembly

variable {c : HostConfig} {host : Host} {mac : MacAddr}

theorem hostCommands_eq (c : HostConfig) : hostCommands c =
    (c.interfaces.map forInterface).flatten ++ (c.router.map forRouter).getD [] ++
      (c.defaultRoute.map forDefaultRoute).getD [] := by
  rw [hostCommands, List.flatMap_def]

theorem mem_getD_map {α : Type} {o : Option α} {f : α → List HostCommand} {cmd : HostCommand} :
    cmd ∈ (o.map f).getD [] ↔ ∃ a, o = some a ∧ cmd ∈ f a := by
  cases o <;> simp

theorem mem_hostCommands {cmd : HostCommand} : cmd ∈ hostCommands c ↔
    (∃ i ∈ c.interfaces, cmd ∈ forInterface i) ∨
      (∃ r, c.router = some r ∧ cmd ∈ forRouter r) ∨
      ∃ d, c.defaultRoute = some d ∧ cmd ∈ forDefaultRoute d := by
  rw [hostCommands_eq, List.mem_append, List.mem_append, mem_getD_map, mem_getD_map,
    List.mem_flatten, or_assoc]
  simp only [List.mem_map, exists_exists_and_eq_and]

theorem HostConfig.Configures.mac_at (hc : c.Configures host mac) :
    ∀ (k : Nat) (i : InterfaceConfig), c.interfaces[k]? = some i →
      i.mac = if k = 0 then some c.mac else none := by
  intro k i hi
  cases k with
  | zero =>
    rw [← List.head?_eq_getElem?] at hi
    rw [if_pos rfl, hc.gateway_mac i hi, hc.mac_eq]
  | succ k =>
    rw [← List.getElem?_tail] at hi
    exact hc.others_unset i (List.mem_of_getElem? hi)

theorem HostConfig.Configures.gateway_of_mac (hc : c.Configures host mac) {i : InterfaceConfig}
    {m : MacAddr} (hi : i ∈ c.interfaces) (hm : i.mac = some m) :
    host.gatewayInterface = some i.name ∧ m = c.mac := by
  obtain ⟨k, hk⟩ := List.mem_iff_getElem?.mp hi
  have hmac := hc.mac_at k i hk
  cases k with
  | zero =>
    rw [if_pos rfl, hm, Option.some.injEq] at hmac
    refine ⟨?_, hmac⟩
    rw [Host.gatewayInterface, ← hc.interface_names, List.head?_map, List.head?_eq_getElem?,
      hk, Option.map_some]
  | succ k => simp [hm] at hmac

theorem hostCommands_devices (hc : c.Configures host mac)
    (hnames : ∀ n ∈ host.interfaces, n ∉ deviceFlags) :
    ∀ cmd ∈ hostCommands c, ∀ x ∈ cmd.devices, ∃ n ∈ host.interfaces, x = some n := by
  have hname : ∀ i ∈ c.interfaces, i.name ∈ host.interfaces := fun i hi =>
    hc.interface_names ▸ List.mem_map_of_mem hi
  intro cmd hcmd x hx
  rcases mem_hostCommands.mp hcmd with ⟨i, hi, hcmd⟩ | ⟨r, hr, hcmd⟩ | ⟨d, hd, hcmd⟩
  · rw [forInterface_devices i (hnames _ (hname i hi)) cmd hcmd, List.mem_singleton] at hx
    exact ⟨i.name, hname i hi, hx⟩
  · obtain ⟨hwan, hroutes⟩ := hc.router_known r hr
    rcases forRouter_devices r (hnames _ hwan) (fun route h => hnames _ (hroutes route h))
      cmd hcmd x hx with hx | ⟨route, hroute, hx⟩
    · exact ⟨_, hwan, hx⟩
    · exact ⟨_, hroutes route hroute, hx⟩
  · have hd' := hc.route_known d hd
    exact ⟨_, hd', forDefaultRoute_devices d (hnames _ hd') cmd hcmd x hx⟩

theorem hostCommands_mac (hc : c.Configures host mac) {cmd : HostCommand} {n m : String}
    (hcmd : cmd ∈ hostCommands c) (h : cmd.argv = ["ip", "link", "set", "dev", n, "address", m]) :
    host.gatewayInterface = some n ∧ m = c.mac.toText := by
  have hlink : cmd.ConfiguresLink := Or.inl ⟨["set", "dev", n, "address", m], h.symm⟩
  rcases mem_hostCommands.mp hcmd with ⟨i, hi, hcmd⟩ | ⟨r, -, hcmd⟩ | ⟨d, -, hcmd⟩
  · obtain ⟨rfl, mac', hmac', rfl⟩ := (forInterface_block i).sets_mac hcmd h
    obtain ⟨hgw, rfl⟩ := hc.gateway_of_mac hi hmac'
    exact ⟨hgw, rfl⟩
  · exact absurd hlink (forRouter_kind r cmd hcmd).1
  · exact absurd hlink (forDefaultRoute_kind d cmd hcmd).1

theorem hostCommands_routes_first (c : HostConfig) :
    ∀ cmd ∈ (c.interfaces.map forInterface).flatten ++ (c.router.map forRouter).getD [],
      ¬ cmd.ChangesRoute := by
  intro cmd hcmd
  rw [List.mem_append, mem_getD_map, List.mem_flatten] at hcmd
  rcases hcmd with ⟨b, hb, hcmd⟩ | ⟨r, -, hcmd⟩
  · obtain ⟨i, -, rfl⟩ := List.mem_map.mp hb
    exact (forInterface_kind i cmd hcmd).2.1
  · exact (forRouter_kind r cmd hcmd).2

theorem hostCommands_meet_spec (hc : c.Configures host mac)
    (hnames : ∀ n ∈ host.interfaces, n ∉ deviceFlags) : HostCommandsSpec c host where
  devices_known := hostCommands_devices hc hnames
  interface_blocks := by
    refine ⟨c.interfaces.map forInterface, _, by rw [hostCommands_eq, List.append_assoc], ?_, ?_,
      ?_⟩
    · rw [List.length_map, ← hc.interface_names, List.length_map]
    · intro k n b hn hb
      rw [← hc.interface_names, List.getElem?_map] at hn
      rw [List.getElem?_map] at hb
      obtain ⟨i, hi, rfl⟩ := Option.map_eq_some_iff.mp hb
      rw [hi, Option.map_some, Option.some.injEq] at hn
      rw [← hn, ← hc.mac_at k i hi]
      exact forInterface_block i
    · intro cmd hcmd
      rw [List.mem_append, mem_getD_map, mem_getD_map] at hcmd
      rcases hcmd with ⟨r, -, hcmd⟩ | ⟨d, -, hcmd⟩
      · exact (forRouter_kind r cmd hcmd).1
      · exact (forDefaultRoute_kind d cmd hcmd).1
  mac_on_gateway _ hcmd _ _ h := hostCommands_mac hc hcmd h
  default_route_last r hr :=
    ⟨_, by rw [hostCommands_eq, hr]; rfl, hostCommands_routes_first c⟩
  no_default_route hr := by
    rw [hostCommands_eq, hr, Option.map_none, Option.getD_none, List.append_nil]
    exact hostCommands_routes_first c
  masquerade_once r hr := by
    obtain ⟨pre, post, heq, hpre⟩ := forRouter_masquerade r
    refine ⟨(c.interfaces.map forInterface).flatten ++ pre,
      post ++ (c.defaultRoute.map forDefaultRoute).getD [], ?_, ?_⟩
    · rw [hostCommands_eq, hr, Option.map_some, Option.getD_some, heq]
      simp only [List.append_assoc, List.cons_append]
    · intro cmd hcmd
      simp only [List.mem_append, List.mem_flatten, mem_getD_map] at hcmd
      rcases hcmd with (⟨b, hb, hcmd⟩ | hcmd) | hcmd | ⟨d, -, hcmd⟩
      · obtain ⟨i, -, rfl⟩ := List.mem_map.mp hb
        exact (forInterface_kind i cmd hcmd).2.2
      · exact hpre cmd (List.mem_append_left _ hcmd)
      · exact hpre cmd (List.mem_append_right _ hcmd)
      · exact (forDefaultRoute_kind d cmd hcmd).2
  no_masquerade hr cmd hcmd := by
    rcases mem_hostCommands.mp hcmd with ⟨i, -, hcmd⟩ | ⟨r, hr', -⟩ | ⟨d, -, hcmd⟩
    · exact (forInterface_kind i cmd hcmd).2.2
    · simp [hr] at hr'
    · exact (forDefaultRoute_kind d cmd hcmd).2

end Assembly

/-! ### Every resolved host -/

theorem Topology.WellFormed.interfaces_not_flags {t : Topology} (hw : t.WellFormed) {h : Host}
    (hh : h ∈ t.hosts) : ∀ n ∈ h.interfaces, n ∉ deviceFlags := by
  rw [(hw.host_interfaces h hh).2, interfaceNames]
  intro n hn
  obtain ⟨i, -, rfl⟩ := List.mem_map.mp hn
  exact interfaceName_not_flag h.name (i + 0)

theorem AddressPlan.resolve_host_commands {t : Topology} (hw : t.WellFormed) {p : AddressPlan}
    {R : ResolvedPlan} (hR : p.resolve t = .ok R) :
    ∀ c ∈ R.hosts, ∃ host, t.host? c.name = some host ∧ HostCommandsSpec c host := by
  intro c hc
  obtain ⟨k, hk⟩ := List.mem_iff_getElem?.mp hc
  obtain ⟨host, hhost, hres⟩ := p.resolveHosts_getElem? (AddressPlan.resolve_hosts hR) k c hk
  have hmem := List.mem_of_getElem? hhost
  have hconf := AddressPlan.resolveHost_configures (hw.host_interfaces_nodup hmem) hres
  refine ⟨host, ?_, hostCommands_meet_spec hconf (hw.interfaces_not_flags hmem)⟩
  rw [hconf.name_eq]
  exact Topology.host?_of_mem hw.names_nodup hmem

/-- A resolved host's commands use only its interfaces, each in a block of its own. -/
theorem resolved_host_commands_stay_on_host (calls : List Topology.Call) (p : AddressPlan)
    (R : ResolvedPlan) (hR : p.resolve (Topology.replay calls) = .ok R) :
    ∀ c ∈ R.hosts, ∃ host, (Topology.replay calls).host? c.name = some host ∧
      HostCommandsSpec c host :=
  AddressPlan.resolve_host_commands (Topology.replay_wellFormed calls) hR

/-- A router on two switches with routes: its plan resolves and its commands meet the spec. -/
theorem router_commands_stay_on_host :
    let calls : List Topology.Call :=
      [.addHost "r1", .addSwitch "s1" none, .addSwitch "s2" none, .bindController "s1" "c1",
        .bindController "s2" "c1", .link "r1" "s1", .link "r1" "s2"]
    let route : StaticRoute :=
      ⟨⟨⟨0x0a010000⟩, 16, by decide⟩, "eth0", some ⟨0x0a0000fe⟩⟩
    let router : RouterPlan := ⟨⟨⟨0xc0a80001⟩, 24, by decide⟩, "eth1", [route]⟩
    let plan : AddressPlan :=
      { hosts := [("r1", { defaultRoute := some ⟨0x0a0000fe⟩, router := some router })],
        controllers := [("c1", [⟨.v4 ⟨0x7f000001⟩ 6653⟩])] }
    let R := (plan.resolve (Topology.replay calls)).toOption.getD ⟨[], []⟩
    plan.resolve (Topology.replay calls) = .ok R ∧
      ∀ c ∈ R.hosts, ∃ host, (Topology.replay calls).host? c.name = some host ∧
        HostCommandsSpec c host := by
  intro calls route router plan R
  have hR : plan.resolve (Topology.replay calls) = .ok R := by decide
  exact ⟨hR, resolved_host_commands_stay_on_host calls plan R hR⟩

end MudTestbed
