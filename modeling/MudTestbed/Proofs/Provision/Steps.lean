import Mathlib.Tactic.SplitIfs
import MudTestbed.Proofs.Provision.Wait
import MudTestbed.Provision.Basic

/-!
# What each step of provisioning does

One lemma per operation of the in-memory backend says when it succeeds and what it
leaves, and one per step of `Bench` evaluates it on a state. Later proofs about whole
provisioning runs cite these and never unfold the operations again.
-/

namespace MudTestbed

set_option autoImplicit false

theorem mem_insertName {x n : String} {l : List String} :
    x ∈ insertName n l ↔ x = n ∨ x ∈ l := by
  induction l with
  | nil => simp [insertName]
  | cons m rest ih =>
    unfold insertName
    split_ifs with heq hlt
    · subst heq
      simp only [List.mem_cons]
      constructor
      · exact Or.inr
      · rintro (h | h) <;> simp [h]
    · simp
    · simp only [List.mem_cons, ih, or_left_comm]

theorem mem_of_mem_insertSorted {α : Type} {k : String} {v : α} {m : List (String × α)}
    {p : String × α} (h : p ∈ insertSorted k v m) : p = (k, v) ∨ p ∈ m := by
  induction m with
  | nil => simpa [insertSorted] using h
  | cons q rest ih =>
    unfold insertSorted at h
    split_ifs at h
    · rcases List.mem_cons.mp h with h | h
      · exact Or.inl h
      · exact Or.inr (List.mem_cons_of_mem q h)
    · simpa using h
    · rcases List.mem_cons.mp h with h | h
      · exact Or.inr (h ▸ List.mem_cons_self)
      · rcases ih h with h | h
        · exact Or.inl h
        · exact Or.inr (List.mem_cons_of_mem q h)

namespace MemoryBackend

variable {b b' : MemoryBackend}

theorem createHost_eq_ok {n : String} :
    b.createHost n = .ok b' ↔
      n ∉ b.failingHosts ∧ n ∉ b.hosts ∧ b' = { b with hosts := insertName n b.hosts } := by
  unfold createHost
  by_cases h1 : n ∈ b.failingHosts
  · simp [h1, throw, throwThe, MonadExceptOf.throw]
  · by_cases h2 : n ∈ b.hosts
    · simp [h1, h2, throw, throwThe, MonadExceptOf.throw]
    · simp [h1, h2, pure, Except.pure]
      exact eq_comm

theorem createSwitch_eq_ok {n : String} {dpid : Option Dpid} :
    b.createSwitch n dpid = .ok b' ↔
      (∀ p ∈ b.switches, p.1 ≠ n) ∧ b' = { b with switches := insertSorted n dpid b.switches } := by
  unfold createSwitch
  by_cases h1 : ∀ p ∈ b.switches, p.1 ≠ n
  · have h1' : b.switches.any (·.1 == n) = false := by
      simp only [List.any_eq_false, beq_iff_eq]
      exact h1
    simp only [h1', Bool.false_eq_true, ↓reduceIte, pure, Except.pure, Except.ok.injEq]
    exact ⟨fun h => ⟨h1, h.symm⟩, fun h => h.2.symm⟩
  · have h1' : b.switches.any (·.1 == n) = true := by simpa using h1
    simp only [h1', ↓reduceIte]
    exact ⟨fun h => (by cases h), fun h => absurd h.1 h1⟩

theorem createLink_eq_ok {l : Link} :
    b.createLink l = .ok b' ↔
      b.hasNode l.a.node ∧ b.hasNode l.b.node ∧ l.key ∉ b.links ∧
        b' = { b with links := b.links ++ [l.key] } := by
  unfold createLink
  by_cases ha : b.hasNode l.a.node
  · by_cases hb : b.hasNode l.b.node
    · by_cases hk : l.key ∈ b.links
      · simp [ha, hb, hk, throw, throwThe, MonadExceptOf.throw]
      · simp [ha, hb, hk, pure, Except.pure]
        exact eq_comm
    · simp [ha, hb, throw, throwThe, MonadExceptOf.throw]
  · simp [ha, throw, throwThe, MonadExceptOf.throw]

theorem startSwitch_eq_ok {n : String} {eps : List ControllerEndpoint} :
    b.startSwitch n eps = .ok b' ↔
      (∃ p ∈ b.switches, p.1 = n) ∧
        b' = { b with controllers := insertSorted n eps b.controllers } := by
  unfold startSwitch
  by_cases h1 : ∃ p ∈ b.switches, p.1 = n
  · have h1' : b.switches.any (·.1 == n) = true := by simpa using h1
    simp only [h1', ↓reduceIte, pure, Except.pure, Except.ok.injEq]
    exact ⟨fun h => ⟨h1, h.symm⟩, fun h => h.2.symm⟩
  · have h1' : b.switches.any (·.1 == n) = false := by
      simp only [List.any_eq_false, beq_iff_eq]
      exact fun p hp h => h1 ⟨p, hp, h⟩
    simp only [h1', Bool.false_eq_true, ↓reduceIte]
    exact ⟨fun h => (by cases h), fun h => absurd h.1 h1⟩

theorem exec_eq_ok {host : String} {argv : List String} {o : CommandOutput} :
    b.exec host argv = .ok (o, b') ↔
      host ∈ b.hosts ∧ b' = { b with commands := b.commands ++ [(host, argv)] } ∧
        o = b.answer host argv := by
  unfold exec
  by_cases hh : host ∈ b.hosts
  · have hh' : (!b.hosts.contains host) = false := by simpa using hh
    simp only [hh', Bool.false_eq_true, ↓reduceIte, pure, Except.pure, Except.ok.injEq,
      Prod.mk.injEq]
    exact ⟨fun ⟨h1, h2⟩ => ⟨hh, h2.symm, h1.symm⟩, fun ⟨_, h2, h3⟩ => ⟨h3.symm, h2.symm⟩⟩
  · simp [hh, throw, throwThe, MonadExceptOf.throw]

theorem spawn_eq_ok {host id : String} {argv : List String} :
    b.spawn host argv = .ok (id, b') ↔
      host ∈ b.hosts ∧ id = s!"{host}-{b.nextService + 1}" ∧
        b' = { b with nextService := b.nextService + 1,
                      services := insertSorted id (host, argv) b.services } := by
  unfold spawn
  by_cases hh : host ∈ b.hosts
  · have hh' : (!b.hosts.contains host) = false := by simpa using hh
    simp only [hh', Bool.false_eq_true, ↓reduceIte, pure, Except.pure, Except.ok.injEq,
      Prod.mk.injEq, hh, true_and]
    constructor
    · rintro ⟨rfl, rfl⟩
      exact ⟨rfl, rfl⟩
    · rintro ⟨rfl, rfl⟩
      exact ⟨rfl, rfl⟩
  · simp [hh, throw, throwThe, MonadExceptOf.throw]

end MemoryBackend

namespace Bench

variable (s : Bench)

theorem apply_run (ctx : String) (f : MemoryBackend → Except Error MemoryBackend) :
    (apply ctx f).run.run s = match f s.backend with
      | .ok b => (.ok (), { s with backend := b })
      | .error e => (.error (e.during ctx), s) := by
  unfold apply
  rw [StepRun.bind_eq, StepRun.get_eq]
  dsimp only
  cases f s.backend <;> rfl

theorem note_run (g : Resources → Resources) :
    (note g).run.run s = (.ok (), { s with resources := g s.resources }) := rfl

theorem apply_note_run (ctx : String) (f : MemoryBackend → Except Error MemoryBackend)
    (g : Resources → Resources) :
    (apply ctx f >>= fun _ => note g).run.run s = match f s.backend with
      | .ok b => (.ok (), { s with backend := b, resources := g s.resources })
      | .error e => (.error (e.during ctx), s) := by
  rw [StepRun.bind_eq, apply_run]
  cases f s.backend <;> rfl

theorem createLink_run (l : Link) :
    (createLink l).run.run s = match s.backend.createLink l with
      | .ok b => (.ok (), { s with backend := b,
                                   resources := { s.resources with links := s.resources.links ++ [l] } })
      | .error e => (.error (e.during s!"linking {l.a.node} and {l.b.node}"), s) :=
  apply_note_run s _ _ _

theorem awaitSwitch_run (settings : ProvisionSettings) (name : String) :
    ∃ halted, (awaitSwitch settings name).run.run s =
      (if s.backend.switchConnected name then (.ok (), { s with halted := halted })
        else (.error (.controllerUnreachable
            s!"switch {name} did not connect within {secondsText settings.connectTimeoutSecs}"),
          { s with clock := s.clock + settings.connectTimeoutSecs * 1000, halted := halted })) ∧
      (Instant.fits (s.clock + settings.connectTimeoutSecs * 1000 + max settings.connectPollMs 1) =
        true → halted = s.halted) ∧
      (Instant.fits (s.clock + settings.connectTimeoutSecs * 1000) = false →
        halted = (s.halted <|> some .instantOverflow)) := by
  unfold awaitSwitch
  rw [StepRun.bind_eq, StepRun.get_eq]
  dsimp only
  have hp : 0 < max settings.connectPollMs 1 := Nat.lt_of_lt_of_le Nat.one_pos (Nat.le_max_right _ _)
  have hout := SwitchSchedule.waitConnected_outcome name hp settings.connectTimeoutSecs
    { answers := fun _ => .ok (s.backend.switchConnected name), clock := s.clock,
      halted := s.halted }
  refine ⟨_, ?_, hout.kept, hout.overflowed⟩
  by_cases h : s.backend.switchConnected name
  · obtain ⟨hresult, hclock⟩ := SwitchSchedule.waitConnected_of_connected name hp
      settings.connectTimeoutSecs { answers := fun _ => .ok (s.backend.switchConnected name),
                                    clock := s.clock, halted := s.halted } fun _ => by rw [h]
    rw [StepRun.bind_eq, StepRun.set_eq]
    dsimp only
    rw [hresult, hclock, if_pos h]
    rfl
  · have hoff : s.backend.switchConnected name = false := by simpa using h
    obtain ⟨hresult, hclock⟩ := SwitchSchedule.waitConnected_of_disconnected name hp
      settings.connectTimeoutSecs { answers := fun _ => .ok (s.backend.switchConnected name),
                                    clock := s.clock, halted := s.halted } fun _ => by rw [hoff]
    rw [StepRun.bind_eq, StepRun.set_eq]
    dsimp only
    rw [hresult, hclock, if_neg h]
    rfl

theorem runCommand_run (host : String) (cmd : HostCommand) :
    (runCommand host cmd).run.run s = match s.backend.exec host cmd.argv with
      | .error e => (.error (e.during s!"configuring {host}"), s)
      | .ok (o, b) =>
        (if o.success || cmd.bestEffort then .ok ()
          else .error (Error.commandFailed host cmd.argv o),
          { s with backend := b }) := by
  unfold runCommand
  rw [StepRun.bind_eq, StepRun.get_eq]
  dsimp only
  rcases s.backend.exec host cmd.argv with e | ⟨o, b⟩
  · rfl
  · by_cases ho : (o.success || cmd.bestEffort) = true
    · simp only [ho, ↓reduceIte]
      rfl
    · simp only [ho, Bool.false_eq_true, ↓reduceIte]
      rfl

end Bench

end MudTestbed
