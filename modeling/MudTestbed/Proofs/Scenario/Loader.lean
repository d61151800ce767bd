import MudTestbed.Proofs.Scenario.ControllerDefaults
import MudTestbed.Proofs.Topology.WellFormed

/-!
# Loading a scenario file

`ScenarioFile.buildFrom` turns a file into a scenario one declaration at a time. Its topology
part is a program of builder calls (`ScenarioFile.topologyCalls`): every host, every switch,
every link, then each switch's controller bindings, made by `Topology.applyCalls` until one
fails. Loading makes exactly those calls and gives the file the plan it declares
(`ScenarioFile.assemble_eq`); the documents are then read in file order
(`DocumentEntry.loadFrom`), and the first step that fails gives the error.

In the declared plan an entry replaces the endpoints of an earlier entry with the same
controller name: a controller gets the endpoints of its last entry, which are those of all
its entries together only when no name is repeated.
-/

namespace MudTestbed

set_option autoImplicit false

/-! ### The first failure of a sequence of steps -/

section FirstFailure

variable {ε α β : Type}

theorem bind_eq_error_iff {x : Except ε α} {f : α → Except ε β} {e : ε} :
    x >>= f = .error e ↔ x = .error e ∨ ∃ a, x = .ok a ∧ f a = .error e := by
  cases x <;> simp [bind, Except.bind]

theorem exists_split_cons_iff {P Q : α → Prop} {a : α} {as : List α} :
    (∃ pre x post, a :: as = pre ++ x :: post ∧ (∀ b ∈ pre, P b) ∧ Q x) ↔
      Q a ∨ P a ∧ ∃ pre x post, as = pre ++ x :: post ∧ (∀ b ∈ pre, P b) ∧ Q x := by
  constructor
  · rintro ⟨pre, x, post, hl, hpre, hx⟩
    cases pre with
    | nil =>
      obtain ⟨rfl, -⟩ := List.cons.inj hl
      exact .inl hx
    | cons b pre =>
      obtain ⟨rfl, hrest⟩ := List.cons.inj hl
      exact .inr ⟨hpre a List.mem_cons_self, pre, x, post, hrest,
        fun c hc => hpre c (List.mem_cons_of_mem a hc), hx⟩
  · rintro (ha | ⟨ha, pre, x, post, rfl, hpre, hx⟩)
    · exact ⟨[], a, as, rfl, by simp, ha⟩
    · exact ⟨a :: pre, x, post, rfl, List.forall_mem_cons.mpr ⟨ha, hpre⟩, hx⟩

theorem mapM_eq_error_iff {l : List α} {g : α → Except ε β} {e : ε} :
    l.mapM g = .error e ↔
      ∃ pre a post, l = pre ++ a :: post ∧ (∀ b ∈ pre, ∃ r, g b = .ok r) ∧ g a = .error e := by
  induction l with
  | nil => simp [pure, Except.pure]
  | cons a as ih =>
    rw [exists_split_cons_iff, ← ih, List.mapM_cons, bind_eq_error_iff]
    simp only [bind_eq_error_iff, pure, Except.pure, reduceCtorEq, and_false, exists_false,
      or_false, exists_and_right]

theorem foldlM_eq_error_iff {l : List α} {g : β → α → Except ε β} {init : β} {e : ε} :
    l.foldlM g init = .error e ↔
      ∃ pre a post b, l = pre ++ a :: post ∧ pre.foldlM g init = .ok b ∧ g b a = .error e := by
  induction l generalizing init with
  | nil => simp [pure, Except.pure]
  | cons a as ih =>
    rw [List.foldlM_cons, bind_eq_error_iff]
    constructor
    · rintro (ha | ⟨b, ha, hrest⟩)
      · exact ⟨[], a, as, init, rfl, rfl, ha⟩
      · obtain ⟨pre, x, post, c, rfl, hpre, hx⟩ := ih.mp hrest
        exact ⟨a :: pre, x, post, c, rfl, by rw [List.foldlM_cons, ha]; exact hpre, hx⟩
    · rintro ⟨pre, x, post, c, hl, hpre, hx⟩
      cases pre with
      | nil =>
        obtain ⟨rfl, -⟩ := List.cons.inj hl
        cases hpre
        exact .inl hx
      | cons b pre =>
        obtain ⟨rfl, rfl⟩ := List.cons.inj hl
        rw [List.foldlM_cons] at hpre
        obtain ⟨d, hd, hpre⟩ := bind_eq_ok_iff.mp hpre
        exact .inr ⟨d, hd, ih.mpr ⟨pre, x, post, c, rfl, hpre, hx⟩⟩

theorem mapM_eq_ok_iff_forall₂ {l : List α} {g : α → Except ε β} {r : List β} :
    l.mapM g = .ok r ↔ List.Forall₂ (fun a b => g a = .ok b) l r := by
  induction l generalizing r with
  | nil =>
    cases r <;> simp [pure, Except.pure]
  | cons a as ih =>
    simp only [List.mapM_cons, bind_eq_ok_iff, pure, Except.pure]
    cases r with
    | nil => simp
    | cons b bs =>
      simp only [Except.ok.injEq, List.cons.injEq, List.forall₂_cons, ← ih]
      constructor
      · rintro ⟨b', hb, bs', hbs, rfl, rfl⟩
        exact ⟨hb, hbs⟩
      · rintro ⟨hb, hbs⟩
        exact ⟨b, hb, bs, hbs, rfl, rfl⟩

theorem map_eq_error_iff {x : Except ε α} {f : α → β} {e : ε} :
    f <$> x = .error e ↔ x = .error e := by
  cases x <;> simp [Functor.map, Except.map]

end FirstFailure

/-! ### Association lists built by inserts -/

section Inserts

variable {γ α : Type} (key : γ → String)

theorem lookupSorted_foldl_insertSorted (val : γ → α) (xs : List γ) (m : List (String × α))
    (n : String) :
    lookupSorted n (xs.foldl (fun m x => insertSorted (key x) (val x) m) m) =
      ((xs.reverse.find? (key · == n)).map val).or (lookupSorted n m) := by
  induction xs generalizing m with
  | nil => simp
  | cons x xs ih =>
    rw [List.foldl_cons, ih, List.reverse_cons, List.find?_append]
    cases xs.reverse.find? (key · == n) with
    | some y => rfl
    | none =>
      by_cases hx : key x = n
      · simp [hx, lookupSorted_insertSorted_self]
      · simp [hx, lookupSorted_insertSorted_of_ne _ (Ne.symm hx)]

theorem key_ne_of_not_mem {x : γ} {xs : List γ} {n : String} (hnot : key x ∉ xs.map key)
    (hx : key x = n) : ∀ y ∈ xs, ¬ (key y == n) = true := by
  intro y hy hk
  apply hnot
  rw [hx, ← beq_iff_eq.mp hk]
  exact List.mem_map_of_mem hy

theorem find?_reverse_of_nodup {xs : List γ} (hnd : (xs.map key).Nodup) (n : String) :
    xs.reverse.find? (key · == n) = xs.find? (key · == n) := by
  induction xs with
  | nil => rfl
  | cons x xs ih =>
    rw [List.map_cons, List.nodup_cons] at hnd
    rw [List.reverse_cons, List.find?_append, ih hnd.2]
    by_cases hx : key x = n
    · have hnone : xs.find? (key · == n) = none :=
        List.find?_eq_none.mpr (key_ne_of_not_mem key hnd.1 hx)
      simp [hx, hnone]
    · simp [hx]

theorem getD_find?_eq_flatMap_filter {β : Type} (val : γ → List β) {xs : List γ}
    (hnd : (xs.map key).Nodup) (n : String) :
    ((xs.find? (key · == n)).map val).getD [] = (xs.filter (key · == n)).flatMap val := by
  induction xs with
  | nil => rfl
  | cons x xs ih =>
    rw [List.map_cons, List.nodup_cons] at hnd
    by_cases hx : key x = n
    · have hnone : xs.filter (key · == n) = [] :=
        List.filter_eq_nil_iff.mpr (key_ne_of_not_mem key hnd.1 hx)
      simp [hx, hnone]
    · simp [hx, ih hnd.2]

end Inserts

/-! ### Topologies built by calls -/

namespace Topology

def applyCalls (calls : List Call) (t : Topology) : Except Error Topology :=
  calls.foldlM (fun t c => Prod.snd <$> t.change c.run) t

section Calls

variable {t u : Topology}

@[simp] theorem change_addHost (n : String) :
    Prod.snd <$> t.change (Call.addHost n).run = t.addHost n := rfl

@[simp] theorem change_addSwitch (n : String) (d : Option Dpid) :
    Prod.snd <$> t.change (Call.addSwitch n d).run = t.addSwitch n d := rfl

@[simp] theorem change_bindController (n c : String) :
    Prod.snd <$> t.change (Call.bindController n c).run = t.bindController n c := rfl

@[simp] theorem change_link (a b : String) :
    Prod.snd <$> t.change (Call.link a b).run = Prod.snd <$> t.link a b := by
  simp only [Call.run, link, change]
  rw [StepRun.bind_eq]
  rcases (linkIn a b).run.run t with ⟨e | l, t'⟩ <;> rfl

theorem applyCalls_append (xs ys : List Call) :
    applyCalls (xs ++ ys) t = applyCalls xs t >>= applyCalls ys :=
  List.foldlM_append

theorem applyCalls_map {γ : Type} (g : γ → Call) (xs : List γ) :
    applyCalls (xs.map g) t = xs.foldlM (fun t x => Prod.snd <$> t.change (g x).run) t :=
  List.foldlM_map

theorem applyCalls_flatMap {γ : Type} (g : γ → List Call) (xs : List γ) :
    applyCalls (xs.flatMap g) t = xs.foldlM (fun t x => applyCalls (g x) t) t := by
  induction xs generalizing t with
  | nil => rfl
  | cons x xs ih =>
    rw [List.flatMap_cons, applyCalls_append, List.foldlM_cons]
    exact congrArg _ (funext fun _ => ih)

theorem applyCalls_eq_error_iff {calls : List Call} {e : Error} :
    applyCalls calls t = .error e ↔
      ∃ pre c post u, calls = pre ++ c :: post ∧ applyCalls pre t = .ok u ∧
        u.change c.run = .error e := by
  simp only [applyCalls, foldlM_eq_error_iff, map_eq_error_iff]

theorem change_eq_ok {x : TopologyStep Unit} (h : Prod.snd <$> t.change x = .ok u) :
    x.run.run t = (.ok (), u) := by
  unfold change at h
  rcases hx : x.run.run t with ⟨e | a, t'⟩ <;> simp [hx, Functor.map, Except.map] at h
  simp [h]

theorem applyCalls_eq_ok {calls : List Call} (h : applyCalls calls t = .ok u) :
    u = calls.foldl (fun t c => (c.run.run.run t).2) t := by
  induction calls generalizing t with
  | nil => cases h; rfl
  | cons c cs ih =>
    obtain ⟨t', hc, hrest⟩ := bind_eq_ok_iff.mp h
    have hstep : (c.run.run.run t).2 = t' := by rw [change_eq_ok hc]
    rw [List.foldl_cons, hstep]
    exact ih hrest

theorem WellFormed.applyCalls (hw : t.WellFormed) {calls : List Call}
    (h : Topology.applyCalls calls t = .ok u) : u.WellFormed :=
  applyCalls_eq_ok h ▸ hw.calls calls

theorem addHost_eq_ok {n : String} (h : t.addHost n = .ok u) :
    u = t.withHost n ∧ n ∉ t.nodeNames := by
  have hrun := change_eq_ok (x := addHostIn n) h
  rw [addHostIn_run] at hrun
  cases hc : t.checkNewName n with
  | error e => simp only [hc] at hrun; cases hrun
  | ok _ =>
    simp only [hc] at hrun
    exact ⟨(Prod.mk.inj hrun).2.symm, kindOf_eq_none_iff.mp ((t.checkNewName_eq_ok).mp hc).2⟩

theorem applyCalls_addHosts_nodup {γ : Type} (name : γ → String) {xs : List γ}
    (hnd : (t.hosts.map (·.name)).Nodup)
    (h : applyCalls (xs.map fun x => .addHost (name x)) t = .ok u) :
    (t.hosts.map (·.name) ++ xs.map name).Nodup := by
  induction xs generalizing t with
  | nil => simpa using hnd
  | cons x xs ih =>
    obtain ⟨t', hadd, hrest⟩ := bind_eq_ok_iff.mp h
    obtain ⟨rfl, hnew⟩ := addHost_eq_ok hadd
    have hhost : name x ∉ t.hosts.map (·.name) := fun hm => hnew (List.mem_append_left _ hm)
    have hnd' : ((t.withHost (name x)).hosts.map (·.name)).Nodup := by
      simpa [List.nodup_append, hnd] using hhost
    simpa using ih hnd' hrest

theorem applyCalls_ok_of_append {xs ys : List Call} (h : applyCalls (xs ++ ys) t = .ok u) :
    ∃ v, applyCalls xs t = .ok v := by
  rw [applyCalls_append] at h
  obtain ⟨v, hv, -⟩ := bind_eq_ok_iff.mp h
  exact ⟨v, hv⟩

end Calls

end Topology

/-! ### What a file declares -/

namespace ScenarioFile

def topologyCalls (f : ScenarioFile) : List Topology.Call :=
  f.hosts.map (fun h => .addHost h.name) ++ f.switches.map (fun s => .addSwitch s.name s.dpid) ++
    f.links.map (fun l => .link l.1 l.2) ++
    f.switches.flatMap fun s => s.controllers.map (.bindController s.name)

def declaredPlan (f : ScenarioFile) : AddressPlan where
  hosts := f.hosts.foldl (fun m h => insertSorted h.name h.plan m) []
  controllers := f.controllers.foldl (fun m c => insertSorted c.name c.endpoints m) []

theorem foldlM_pair {γ δ : Type} (F : Topology → γ → Except Error Topology) (G : δ → γ → δ)
    (xs : List γ) (t : Topology) (d : δ) :
    xs.foldlM (fun p x => (fun t' => (t', G p.2 x)) <$> F p.1 x) (t, d) =
      (fun t' => (t', xs.foldl G d)) <$> xs.foldlM F t := by
  induction xs generalizing t d with
  | nil => rfl
  | cons x xs ih =>
    simp only [List.foldlM_cons, List.foldl_cons, bind_map_left, map_bind, ih]

theorem foldl_withHost (xs : List HostEntry) (p : AddressPlan) :
    xs.foldl (fun p h => p.withHost h.name h.plan) p =
      { p with hosts := xs.foldl (fun m h => insertSorted h.name h.plan m) p.hosts } := by
  induction xs generalizing p with
  | nil => rfl
  | cons h xs ih => exact ih _

theorem foldl_withControllerEntry (xs : List ControllerEntry) (p : AddressPlan) :
    xs.foldl (fun p c => { p with controllers := insertSorted c.name c.endpoints p.controllers })
        p =
      { p with
        controllers := xs.foldl (fun m c => insertSorted c.name c.endpoints m) p.controllers } := by
  induction xs generalizing p with
  | nil => rfl
  | cons c xs ih => exact ih _

theorem lookupSorted_declaredPlan_hosts (f : ScenarioFile) (n : String) :
    lookupSorted n f.declaredPlan.hosts = (f.hosts.reverse.find? (·.name == n)).map (·.plan) := by
  show lookupSorted n (f.hosts.foldl _ []) = _
  rw [lookupSorted_foldl_insertSorted HostEntry.name HostEntry.plan]
  exact Option.or_none

theorem lookupSorted_declaredPlan_controllers (f : ScenarioFile) (n : String) :
    lookupSorted n f.declaredPlan.controllers =
      (f.controllers.reverse.find? (·.name == n)).map (·.endpoints) := by
  show lookupSorted n (f.controllers.foldl _ []) = _
  rw [lookupSorted_foldl_insertSorted ControllerEntry.name ControllerEntry.endpoints]
  exact Option.or_none

theorem assemble_eq (f : ScenarioFile) :
    f.assemble = (·, f.declaredPlan) <$> Topology.applyCalls f.topologyCalls {} := by
  unfold assemble
  simp only [bind_pure_comp, map_pure, List.forIn_yield_eq_foldlM, List.forIn_pure_yield_eq_foldl,
    id_map']
  rw [foldlM_pair (fun t (h : HostEntry) => t.addHost h.name)
    fun (p : AddressPlan) h => p.withHost h.name h.plan]
  simp only [topologyCalls, Topology.applyCalls_append, Topology.applyCalls_map,
    Topology.applyCalls_flatMap, Topology.change_addHost, Topology.change_addSwitch,
    Topology.change_link, Topology.change_bindController, bind_map_left, map_bind, bind_assoc]
  rw [foldl_withHost, foldl_withControllerEntry]
  rfl

end ScenarioFile

theorem run_mapM_id {ε γ δ : Type} (g : γ → ExceptT ε Id δ) (xs : List γ) :
    (xs.mapM g).run = xs.mapM (m := Except ε) (fun x => (g x).run) := by
  induction xs with
  | nil => rfl
  | cons x xs ih =>
    simp only [List.mapM_cons, ExceptT.run_bind, ← ih]
    cases (g x).run <;> cases (xs.mapM g).run <;> rfl

def DocumentEntry.loadFrom (store : FileStore) (base : String) (d : DocumentEntry) :
    Except Error ConfigDocument :=
  (d.load (m := Id) (fun p => pure (store.read p)) base).run

namespace DocumentEntry

variable {store : FileStore} {base : String} {d : DocumentEntry}

theorem resourceName_eq_ok {r : String} (h : d.resourceName = .ok r) :
    d.resource.or (d.kind.map DocumentKind.resource) = some r := by
  unfold resourceName at h
  cases hr : d.resource <;> cases hk : d.kind <;> simp [hr, hk] at h ⊢ <;> exact h

theorem loadFrom_eq_ok {c : ConfigDocument} (h : d.loadFrom store base = .ok c) :
    d.resource.or (d.kind.map DocumentKind.resource) = some c.resource ∧
      ∃ text, store.read (joinPath base d.path) = .ok text ∧ Json.parse text = .ok c.body := by
  unfold loadFrom load at h
  simp only [ExceptT.run_bind, ExceptT.run_mk, liftExcept, Except.mapError] at h
  cases hread : store.read (joinPath base d.path) with
  | error e => simp [hread] at h
  | ok text =>
    cases hparse : Json.parse text with
    | error e => simp [hread, hparse] at h
    | ok body =>
      cases hres : d.resourceName with
      | error e => simp [hread, hparse, hres] at h
      | ok r =>
        simp [hread, hparse, hres] at h
        cases h
        exact ⟨resourceName_eq_ok hres, text, rfl, hparse⟩

end DocumentEntry

namespace ScenarioFile

theorem buildFrom_eq (f : ScenarioFile) (store : FileStore) (base : String) :
    f.buildFrom store base = f.assemble >>= fun r =>
      (fun docs => (⟨f.name, r.1, r.2, docs, f.groups, f.timing, f.tools⟩ : Scenario)) <$>
        f.documents.mapM (·.loadFrom store base) := by
  unfold buildFrom build
  cases f.assemble with
  | error e => rfl
  | ok r =>
    simp only [liftExcept, pure_bind, ExceptT.run_bind, run_mapM_id, DocumentEntry.loadFrom]
    cases f.documents.mapM (m := Except Error)
      (fun d => (d.load (m := Id) (fun p => pure (store.read p)) base).run) <;> rfl

theorem hosts_nodup_of_applyCalls (f : ScenarioFile) {t : Topology}
    (h : Topology.applyCalls f.topologyCalls {} = .ok t) : (f.hosts.map (·.name)).Nodup := by
  obtain ⟨_, h⟩ := Topology.applyCalls_ok_of_append h
  obtain ⟨_, h⟩ := Topology.applyCalls_ok_of_append h
  obtain ⟨_, h⟩ := Topology.applyCalls_ok_of_append h
  simpa using Topology.applyCalls_addHosts_nodup HostEntry.name (by simp) h

theorem buildFrom_eq_error_iff (f : ScenarioFile) (store : FileStore) (base : String)
    (e : Error) :
    f.buildFrom store base = .error e ↔
      Topology.applyCalls f.topologyCalls {} = .error e ∨
        ∃ t, Topology.applyCalls f.topologyCalls {} = .ok t ∧
          f.documents.mapM (·.loadFrom store base) = .error e := by
  rw [buildFrom_eq, assemble_eq]
  cases Topology.applyCalls f.topologyCalls {} with
  | error e' => simp [Functor.map, Except.map, bind, Except.bind]
  | ok t =>
    cases f.documents.mapM (·.loadFrom store base) <;>
      simp [Functor.map, Except.map, bind, Except.bind]

theorem buildFrom_eq_ok {f : ScenarioFile} {store : FileStore} {base : String} {s : Scenario}
    (h : f.buildFrom store base = .ok s) :
    Topology.applyCalls f.topologyCalls {} = .ok s.topology ∧ s.plan = f.declaredPlan ∧
      f.documents.mapM (·.loadFrom store base) = .ok s.documents ∧
      s.name = f.name ∧ s.groups = f.groups ∧ s.timing = f.timing ∧ s.tools = f.tools := by
  rw [buildFrom_eq, assemble_eq] at h
  cases ht : Topology.applyCalls f.topologyCalls {} with
  | error e => simp [ht, Functor.map, Except.map, bind, Except.bind] at h
  | ok t =>
    cases hd : f.documents.mapM (·.loadFrom store base) with
    | error e => simp [ht, hd, Functor.map, Except.map, bind, Except.bind] at h
    | ok docs =>
      simp [ht, hd, Functor.map, Except.map, bind, Except.bind] at h
      subst h
      exact ⟨rfl, rfl, rfl, rfl, rfl, rfl, rfl⟩

/-- Loading a file follows its declarations in order, failing at the first error. -/
theorem buildFrom_follows_declarations (f : ScenarioFile) (store : FileStore) (base : String) :
    (∀ e, f.buildFrom store base = .error e ↔
      (∃ pre c post t, f.topologyCalls = pre ++ c :: post ∧
        Topology.applyCalls pre {} = .ok t ∧ t.change c.run = .error e) ∨
      ∃ t, Topology.applyCalls f.topologyCalls {} = .ok t ∧
        ∃ pre d post, f.documents = pre ++ d :: post ∧
          (∀ d' ∈ pre, ∃ c, d'.loadFrom store base = .ok c) ∧ d.loadFrom store base = .error e) ∧
    ∀ s, f.buildFrom store base = .ok s →
      Topology.applyCalls f.topologyCalls {} = .ok s.topology ∧ s.topology.WellFormed ∧
      (∀ n, lookupSorted n s.plan.hosts = (f.hosts.find? (·.name == n)).map (·.plan)) ∧
      (∀ n, lookupSorted n s.plan.controllers =
        (f.controllers.reverse.find? (·.name == n)).map (·.endpoints)) ∧
      ((f.controllers.map (·.name)).Nodup → ∀ n,
        (lookupSorted n s.plan.controllers).getD [] =
          (f.controllers.filter (·.name == n)).flatMap (·.endpoints)) ∧
      List.Forall₂ (fun d c => d.resource.or (d.kind.map DocumentKind.resource) = some c.resource ∧
          ∃ text, store.read (joinPath base d.path) = .ok text ∧ Json.parse text = .ok c.body)
        f.documents s.documents ∧
      s.name = f.name ∧ s.groups = f.groups ∧ s.timing = f.timing ∧ s.tools = f.tools := by
  refine ⟨fun e => ?_, fun s h => ?_⟩
  · rw [buildFrom_eq_error_iff, Topology.applyCalls_eq_error_iff, mapM_eq_error_iff]
  · obtain ⟨ht, hplan, hdocs, hname, hgroups, htiming, htools⟩ := buildFrom_eq_ok h
    refine ⟨ht, Topology.WellFormed.empty.applyCalls ht, fun n => ?_, fun n => ?_, fun hnd n => ?_,
      ?_, hname, hgroups, htiming, htools⟩
    · rw [hplan, lookupSorted_declaredPlan_hosts,
        find?_reverse_of_nodup HostEntry.name (f.hosts_nodup_of_applyCalls ht)]
    · rw [hplan, lookupSorted_declaredPlan_controllers]
    · rw [hplan, lookupSorted_declaredPlan_controllers,
        find?_reverse_of_nodup ControllerEntry.name hnd,
        getD_find?_eq_flatMap_filter ControllerEntry.name ControllerEntry.endpoints hnd]
    · exact (mapM_eq_ok_iff_forall₂.mp hdocs).imp fun _ _ => DocumentEntry.loadFrom_eq_ok

/-- A controller entry given twice keeps only the second entry's endpoints. -/
theorem repeated_controller_entry_replaces_endpoints :
    ((⟨"x", none, [], {}, {}, [], [⟨"s1", none, ["c"]⟩],
        [⟨"c", [⟨.v4 (Ipv4Addr.ofOctets 10 0 0 1) 6653⟩]⟩,
          ⟨"c", [⟨.v4 (Ipv4Addr.ofOctets 10 0 0 2) 6653⟩]⟩],
        [], []⟩ : ScenarioFile).buildFrom ⟨[]⟩ "").map
        (fun s => lookupSorted "c" s.plan.controllers) =
      .ok (some [⟨.v4 (Ipv4Addr.ofOctets 10 0 0 2) 6653⟩]) := by
  decide

end ScenarioFile

end MudTestbed
