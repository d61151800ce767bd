import Mathlib.Data.List.Forall2
import MudTestbed.Proofs.Provision.Steps

/-!
# Configuring the hosts

`Bench.configureHosts` runs the configuration commands of every host: host after host, or
in lockstep rounds when the backend delays commands. Either way the run ends as
`Configured` says: only the command record and the clock change, and either every command
passed, or a required command of one host failed (`CommandFailure`) after exactly that
host's commands up to it ran.

Each host's commands form a lane. `LaneProgress` follows one lane: what is left of it is a
suffix of the host's commands, and the record holds the prefix before it, all of which
passed. A command changes only its own host's record, so the lanes of other hosts keep
their progress.
-/

namespace MudTestbed

set_option autoImplicit false

namespace MemoryBackend

def accepts (b : MemoryBackend) (host : String) (c : HostCommand) : Bool :=
  (b.answer host c.argv).success || c.bestEffort

def ran (b : MemoryBackend) (cmds : List (String × List String)) : MemoryBackend :=
  { b with commands := b.commands ++ cmds }

variable (b : MemoryBackend) (xs ys : List (String × List String))

@[simp] theorem ran_nil : b.ran [] = b := by simp [ran]

@[simp] theorem ran_ran : (b.ran xs).ran ys = b.ran (xs ++ ys) := by simp [ran]

@[simp] theorem ran_hosts : (b.ran xs).hosts = b.hosts := rfl

@[simp] theorem answer_ran : (b.ran xs).answer = b.answer := rfl

@[simp] theorem accepts_ran : (b.ran xs).accepts = b.accepts := rfl

theorem commandsFor_ran_self (host : String) (argv : List String) :
    (b.ran [(host, argv)]).commandsFor host = b.commandsFor host ++ [argv] := by
  simp [ran, commandsFor]

theorem commandsFor_ran_of_ne {host n : String} (argv : List String) (h : host ≠ n) :
    (b.ran [(host, argv)]).commandsFor n = b.commandsFor n := by
  simp [ran, commandsFor, h]

end MemoryBackend

theorem Bench.runCommand_run_of_mem (s : Bench) {host : String} (cmd : HostCommand)
    (hh : host ∈ s.backend.hosts) :
    (Bench.runCommand host cmd).run.run s =
      (if s.backend.accepts host cmd then .ok ()
        else .error (Error.commandFailed host cmd.argv (s.backend.answer host cmd.argv)),
        { s with backend := s.backend.ran [(host, cmd.argv)] }) := by
  have hx : s.backend.exec host cmd.argv =
      .ok (s.backend.answer host cmd.argv, s.backend.ran [(host, cmd.argv)]) :=
    MemoryBackend.exec_eq_ok.mpr ⟨hh, rfl, rfl⟩
  rw [Bench.runCommand_run, hx]
  rfl

/-! ### Lanes -/

abbrev Lane := String × List HostCommand

def LaneProgress (b₀ b : MemoryBackend) (lane : Lane) (rest : List HostCommand) : Prop :=
  ∃ k, rest = lane.2.drop k ∧
    b.commandsFor lane.1 = b₀.commandsFor lane.1 ++ (lane.2.take k).map (·.argv) ∧
    ∀ c ∈ lane.2.take k, b₀.accepts lane.1 c = true

def CommandFailure (b₀ : MemoryBackend) (lanes : List Lane) (e : Error) (b : MemoryBackend) :
    Prop :=
  ∃ lane ∈ lanes, ∃ i c, lane.2[i]? = some c ∧ b₀.accepts lane.1 c = false ∧
    e = Error.commandFailed lane.1 c.argv (b₀.answer lane.1 c.argv) ∧
    b.commandsFor lane.1 = b₀.commandsFor lane.1 ++ (lane.2.take (i + 1)).map (·.argv)

def LanesProgress (b₀ b : MemoryBackend) : List Lane → List Lane → Prop :=
  List.Forall₂ fun lane l => l.1 = lane.1 ∧ LaneProgress b₀ b lane l.2

theorem take_succ_of_drop_eq_cons {α : Type} {l cs : List α} {k : Nat} {c : α}
    (h : c :: cs = l.drop k) :
    l[k]? = some c ∧ l.take (k + 1) = l.take k ++ [c] ∧ cs = l.drop (k + 1) := by
  have hget : l[k]? = some c := by rw [← List.head?_drop, ← h]; rfl
  refine ⟨hget, by rw [List.take_add_one, hget]; rfl, ?_⟩
  rw [← List.tail_drop, ← h]
  rfl

namespace LaneProgress

variable {b₀ b : MemoryBackend} {lane : Lane}

theorem start (b₀ : MemoryBackend) (lane : Lane) : LaneProgress b₀ b₀ lane lane.2 :=
  ⟨0, rfl, by simp, by simp⟩

theorem all_accepted (hp : LaneProgress b₀ b lane []) : ∀ c ∈ lane.2, b₀.accepts lane.1 c := by
  obtain ⟨k, hk, -, hacc⟩ := hp
  rwa [List.take_of_length_le (List.drop_eq_nil_iff.mp hk.symm)] at hacc

theorem frame {b' : MemoryBackend} {rest : List HostCommand} (hp : LaneProgress b₀ b lane rest)
    (hb : b'.commandsFor lane.1 = b.commandsFor lane.1) : LaneProgress b₀ b' lane rest := by
  obtain ⟨k, hk, hrec, hacc⟩ := hp
  exact ⟨k, hk, hb.trans hrec, hacc⟩

theorem step {c : HostCommand} {cs : List HostCommand} (hp : LaneProgress b₀ b lane (c :: cs))
    (hc : b₀.accepts lane.1 c = true) : LaneProgress b₀ (b.ran [(lane.1, c.argv)]) lane cs := by
  obtain ⟨k, hk, hrec, hacc⟩ := hp
  obtain ⟨-, htake, hcs⟩ := take_succ_of_drop_eq_cons hk
  refine ⟨k + 1, hcs, ?_, ?_⟩
  · rw [MemoryBackend.commandsFor_ran_self, hrec, htake, List.map_append, List.append_assoc]
    rfl
  · intro c' hc'
    rw [htake] at hc'
    rcases List.mem_append.mp hc' with h | h
    · exact hacc c' h
    · rwa [List.mem_singleton.mp h]

theorem failure {c : HostCommand} {cs : List HostCommand} {lanes : List Lane}
    (hp : LaneProgress b₀ b lane (c :: cs)) (hc : b₀.accepts lane.1 c = false)
    (hmem : lane ∈ lanes) :
    CommandFailure b₀ lanes (Error.commandFailed lane.1 c.argv (b₀.answer lane.1 c.argv))
      (b.ran [(lane.1, c.argv)]) := by
  obtain ⟨k, hk, hrec, -⟩ := hp
  obtain ⟨hget, htake, -⟩ := take_succ_of_drop_eq_cons hk
  refine ⟨lane, hmem, k, c, hget, hc, rfl, ?_⟩
  rw [MemoryBackend.commandsFor_ran_self, hrec, htake, List.map_append, List.append_assoc]
  rfl

end LaneProgress

theorem CommandFailure.mono {b₀ b : MemoryBackend} {lanes lanes' : List Lane} {e : Error}
    (h : CommandFailure b₀ lanes e b) (hsub : ∀ lane ∈ lanes, lane ∈ lanes') :
    CommandFailure b₀ lanes' e b := by
  obtain ⟨lane, hmem, rest⟩ := h
  exact ⟨lane, hsub lane hmem, rest⟩

namespace LanesProgress

variable {b₀ b : MemoryBackend}

theorem start (b₀ : MemoryBackend) (lanes : List Lane) : LanesProgress b₀ b₀ lanes lanes :=
  List.forall₂_same.mpr fun lane _ => ⟨rfl, LaneProgress.start b₀ lane⟩

theorem frame {b' : MemoryBackend} {lanes cur : List Lane} (h : LanesProgress b₀ b lanes cur)
    (hb : ∀ lane ∈ lanes, b'.commandsFor lane.1 = b.commandsFor lane.1) :
    LanesProgress b₀ b' lanes cur := by
  induction h with
  | nil => exact List.Forall₂.nil
  | cons hl _ ih =>
    exact List.Forall₂.cons ⟨hl.1, hl.2.frame (hb _ List.mem_cons_self)⟩
      (ih fun lane hmem => hb lane (List.mem_cons_of_mem _ hmem))

theorem all_accepted {lanes cur : List Lane} (h : LanesProgress b₀ b lanes cur)
    (hempty : ∀ l ∈ cur, l.2 = []) : ∀ lane ∈ lanes, ∀ c ∈ lane.2, b₀.accepts lane.1 c := by
  induction h with
  | nil => intro lane hmem; cases hmem
  | cons hl _ ih =>
    intro lane hmem
    rcases List.mem_cons.mp hmem with rfl | hmem
    · exact (hempty _ List.mem_cons_self ▸ hl.2).all_accepted
    · exact ih (fun l hl' => hempty l (List.mem_cons_of_mem _ hl')) lane hmem

end LanesProgress

def Configured (b₀ : MemoryBackend) (lanes : List Lane) (s : Bench)
    (res : Except Error Unit × Bench) : Prop :=
  (∃ cmds clock, res.2 = { s with backend := s.backend.ran cmds, clock }) ∧
    (res.1 = .ok () → ∀ lane ∈ lanes, ∀ c ∈ lane.2, b₀.accepts lane.1 c) ∧
    ∀ e, res.1 = .error e → CommandFailure b₀ lanes e res.2.backend

namespace Configured

variable {b₀ : MemoryBackend} {lanes : List Lane} {s : Bench} {res : Except Error Unit × Bench}

theorem of_ran {s₁ : Bench} (cmds : List (String × List String)) (clock : Nat)
    (hs₁ : s₁ = { s with backend := s.backend.ran cmds, clock }) (h : Configured b₀ lanes s₁ res) :
    Configured b₀ lanes s res := by
  obtain ⟨⟨cmds', clock', hs⟩, hok, herr⟩ := h
  refine ⟨⟨cmds ++ cmds', clock', ?_⟩, hok, herr⟩
  rw [hs, hs₁, MemoryBackend.ran_ran]

theorem cons {lane : Lane} (hlane : ∀ c ∈ lane.2, b₀.accepts lane.1 c)
    (h : Configured b₀ lanes s res) : Configured b₀ (lane :: lanes) s res := by
  obtain ⟨hs, hok, herr⟩ := h
  refine ⟨hs, fun hr l hl => ?_, fun e he => (herr e he).mono fun l hl => List.mem_cons_of_mem _ hl⟩
  rcases List.mem_cons.mp hl with rfl | hl
  · exact hlane
  · exact hok hr l hl

theorem of_done (hall : ∀ lane ∈ lanes, ∀ c ∈ lane.2, b₀.accepts lane.1 c) :
    Configured b₀ lanes s (.ok (), s) :=
  ⟨⟨[], s.clock, by simp⟩, fun _ => hall, fun _ he => by cases he⟩

theorem of_failure {e : Error} {cmds : List (String × List String)}
    (h : CommandFailure b₀ lanes e (s.backend.ran cmds)) :
    Configured b₀ lanes s (.error e, { s with backend := s.backend.ran cmds }) :=
  ⟨⟨cmds, s.clock, rfl⟩, (fun he => by cases he), fun _ he => by cases he; exact h⟩

end Configured

namespace Bench

section Modes

variable {b₀ : MemoryBackend}

theorem runCommand_run_of_base (s : Bench) {host : String} (cmd : HostCommand)
    {base : List (String × List String)} (hbase : s.backend = b₀.ran base)
    (hh : host ∈ b₀.hosts) :
    (runCommand host cmd).run.run s =
      (if b₀.accepts host cmd then .ok ()
        else .error (Error.commandFailed host cmd.argv (b₀.answer host cmd.argv)),
        { s with backend := s.backend.ran [(host, cmd.argv)] }) := by
  have hhs : host ∈ s.backend.hosts := by rw [hbase]; exact hh
  rw [runCommand_run_of_mem s cmd hhs, hbase]
  rfl

/-! ### Host after host -/

theorem runLane_run (lane : Lane) {lanes : List Lane} (hmem : lane ∈ lanes)
    (hh : lane.1 ∈ b₀.hosts) :
    ∀ (rest : List HostCommand) (s : Bench), LaneProgress b₀ s.backend lane rest →
      (∃ cmds, s.backend = b₀.ran cmds) →
      ∃ cmds, (∀ n ≠ lane.1, (s.backend.ran cmds).commandsFor n = s.backend.commandsFor n) ∧
        ((rest.forM (runCommand lane.1)).run.run s =
            (.ok (), { s with backend := s.backend.ran cmds }) ∧
          LaneProgress b₀ (s.backend.ran cmds) lane [] ∨
        ∃ e, (rest.forM (runCommand lane.1)).run.run s =
            (.error e, { s with backend := s.backend.ran cmds }) ∧
          CommandFailure b₀ lanes e (s.backend.ran cmds))
  | [], s, hp, _ =>
    ⟨[], fun _ _ => by rw [MemoryBackend.ran_nil],
      .inl ⟨by rw [MemoryBackend.ran_nil]; rfl, by rwa [MemoryBackend.ran_nil]⟩⟩
  | c :: cs, s, hp, ⟨base, hbase⟩ => by
    rw [StepRun.forM_cons_eq, runCommand_run_of_base s c hbase hh]
    by_cases hc : b₀.accepts lane.1 c = true
    · simp only [hc, ↓reduceIte]
      obtain ⟨cmds, hframe, hend⟩ := runLane_run lane hmem hh cs
        { s with backend := s.backend.ran [(lane.1, c.argv)] } (hp.step hc)
        ⟨base ++ [(lane.1, c.argv)], by rw [hbase, MemoryBackend.ran_ran]⟩
      refine ⟨[(lane.1, c.argv)] ++ cmds, fun n hn => ?_, ?_⟩
      · rw [← MemoryBackend.ran_ran]
        exact (hframe n hn).trans (MemoryBackend.commandsFor_ran_of_ne _ _ (Ne.symm hn))
      · simpa only [MemoryBackend.ran_ran] using hend
    · have hc' : b₀.accepts lane.1 c = false := by simpa using hc
      simp only [hc', Bool.false_eq_true, ↓reduceIte]
      exact ⟨[(lane.1, c.argv)], fun n hn => MemoryBackend.commandsFor_ran_of_ne _ _ (Ne.symm hn),
        .inr ⟨_, rfl, hp.failure hc' hmem⟩⟩

theorem runLanes_run :
    ∀ (todo : List Lane) (s : Bench), (∀ lane ∈ todo, lane.1 ∈ b₀.hosts) →
      (todo.map (·.1)).Nodup → (∀ lane ∈ todo, LaneProgress b₀ s.backend lane lane.2) →
      (∃ cmds, s.backend = b₀.ran cmds) →
      Configured b₀ todo s ((todo.forM fun lane => lane.2.forM (runCommand lane.1)).run.run s)
  | [], s, _, _, _, _ => Configured.of_done fun _ hmem => by cases hmem
  | lane :: todo, s, hh, hnd, hp, ⟨base, hbase⟩ => by
    rw [StepRun.forM_cons_eq]
    obtain ⟨cmds, hframe, ⟨hrun, hdone⟩ | ⟨e, hrun, hfail⟩⟩ :=
      runLane_run lane List.mem_cons_self (hh lane List.mem_cons_self) lane.2 s
        (hp lane List.mem_cons_self) ⟨base, hbase⟩
    · rw [hrun]
      have hother : ∀ l ∈ todo, l.1 ≠ lane.1 := fun l hl he =>
        (List.nodup_cons.mp hnd).1 (List.mem_map.mpr ⟨l, hl, he⟩)
      refine Configured.of_ran cmds s.clock rfl (Configured.cons hdone.all_accepted ?_)
      exact runLanes_run todo _ (fun l hl => hh l (List.mem_cons_of_mem _ hl))
        (List.nodup_cons.mp hnd).2
        (fun l hl => (hp l (List.mem_cons_of_mem _ hl)).frame (hframe l.1 (hother l hl)))
        ⟨base ++ cmds, by rw [hbase, MemoryBackend.ran_ran]⟩
    · rw [hrun]
      exact Configured.of_failure hfail

/-! ### Lockstep rounds -/

/-- How a round over the lanes `cur` ends from bench `s`. -/
def RoundEnd (b₀ : MemoryBackend) (lanes cur : List Lane) (s : Bench)
    (res : Except Error (List Lane) × Bench) : Prop :=
  ∃ cmds, res.2 = { s with backend := s.backend.ran cmds } ∧
    (∀ n ∉ lanes.map (·.1), (s.backend.ran cmds).commandsFor n = s.backend.commandsFor n) ∧
    (∀ next, res.1 = .ok next → next = cur.map (fun l => (l.1, l.2.tail)) ∧
      LanesProgress b₀ (s.backend.ran cmds) lanes next) ∧
    ∀ e, res.1 = .error e → CommandFailure b₀ lanes e (s.backend.ran cmds)

theorem RoundEnd.cons {lanes cur : List Lane} {lane l : Lane} {s : Bench}
    {pre : List (String × List String)} (hnot : lane.1 ∉ lanes.map (·.1))
    (hpre : ∀ n ≠ lane.1, (s.backend.ran pre).commandsFor n = s.backend.commandsFor n)
    (hname : l.1 = lane.1) (hp : LaneProgress b₀ (s.backend.ran pre) lane l.2.tail)
    {res : Except Error (List Lane) × Bench}
    (h : RoundEnd b₀ lanes cur { s with backend := s.backend.ran pre } res) :
    RoundEnd b₀ (lane :: lanes) (l :: cur) s
      (match res.1 with
        | .ok next => (.ok ((l.1, l.2.tail) :: next), res.2)
        | .error e => (.error e, res.2)) := by
  obtain ⟨cmds, hs, hframe, hok, herr⟩ := h
  refine ⟨pre ++ cmds, ?_, fun n hn => ?_, fun next hnext => ?_, fun e he => ?_⟩
  · rcases res with ⟨_ | _, b⟩ <;> dsimp only at hs ⊢ <;> rw [hs, MemoryBackend.ran_ran]
  · have hn' : n ∉ lanes.map (·.1) := fun h => hn (List.mem_cons_of_mem _ h)
    rw [← MemoryBackend.ran_ran]
    exact (hframe n hn').trans (hpre n fun he => hn (he ▸ List.mem_cons_self))
  · rcases res with ⟨_ | next', _⟩
    · cases hnext
    · cases hnext
      obtain ⟨rfl, hprog⟩ := hok next' rfl
      rw [← MemoryBackend.ran_ran]
      exact ⟨rfl, List.Forall₂.cons ⟨hname, hp.frame (hframe lane.1 hnot)⟩ hprog⟩
  · rcases res with ⟨_ | _, _⟩
    · cases he
      rw [← MemoryBackend.ran_ran]
      exact (herr _ rfl).mono fun l hl => List.mem_cons_of_mem _ hl
    · cases he

theorem configureRound_run :
    ∀ (cur lanes : List Lane) (s : Bench), LanesProgress b₀ s.backend lanes cur →
      (∀ lane ∈ lanes, lane.1 ∈ b₀.hosts) → (lanes.map (·.1)).Nodup →
      (∃ cmds, s.backend = b₀.ran cmds) →
      RoundEnd b₀ lanes cur s ((configureRound cur).run.run s)
  | [], lanes, s, hp, _, _, _ => by
    cases hp
    refine ⟨[], by rw [MemoryBackend.ran_nil]; rfl, fun _ _ => by rw [MemoryBackend.ran_nil],
      fun next h => ?_, fun _ h => by cases h⟩
    cases h
    exact ⟨rfl, by rw [MemoryBackend.ran_nil]; exact .nil⟩
  | (h, cmds) :: cur, lanes, s, hp, hh, hnd, ⟨base, hbase⟩ => by
    obtain _ | ⟨⟨hname, hlane⟩, hrest⟩ := hp
    rename_i lane lanes
    have hnot : lane.1 ∉ lanes.map (·.1) := (List.nodup_cons.mp (List.map_cons ▸ hnd)).1
    cases cmds with
    | nil =>
      have hround := configureRound_run cur lanes { s with backend := s.backend.ran [] }
        (by rw [MemoryBackend.ran_nil]; exact hrest) (fun l hl => hh l (List.mem_cons_of_mem _ hl))
        (List.nodup_cons.mp hnd).2 ⟨base, by rw [MemoryBackend.ran_nil, hbase]⟩
      have hend := RoundEnd.cons hnot (fun _ _ => by rw [MemoryBackend.ran_nil]) hname
        (by rw [MemoryBackend.ran_nil]; exact hlane) hround
      simp only [MemoryBackend.ran_nil] at hend
      simp only [configureRound, StepRun.bind_eq]
      rcases hr : (configureRound cur).run.run s with ⟨_ | _, _⟩ <;> rw [hr] at hend <;> exact hend
    | cons c cs =>
      obtain rfl : h = lane.1 := hname
      have hpre : ∀ n ≠ lane.1, (s.backend.ran [(lane.1, c.argv)]).commandsFor n =
          s.backend.commandsFor n := fun n hn =>
        MemoryBackend.commandsFor_ran_of_ne _ _ (Ne.symm hn)
      simp only [configureRound, StepRun.bind_eq,
        runCommand_run_of_base s c hbase (hh lane List.mem_cons_self)]
      by_cases hc : b₀.accepts lane.1 c = true
      · simp only [hc, ↓reduceIte]
        have hround := configureRound_run cur lanes
          { s with backend := s.backend.ran [(lane.1, c.argv)] }
          (LanesProgress.frame hrest fun l hl => MemoryBackend.commandsFor_ran_of_ne _ _ fun he =>
            hnot (List.mem_map.mpr ⟨l, hl, he.symm⟩))
          (fun l hl => hh l (List.mem_cons_of_mem _ hl)) (List.nodup_cons.mp hnd).2
          ⟨base ++ [(lane.1, c.argv)], by rw [hbase, MemoryBackend.ran_ran]⟩
        have hend := RoundEnd.cons (l := (lane.1, c :: cs)) hnot hpre rfl (hlane.step hc) hround
        rcases hr :
            (configureRound cur).run.run { s with backend := s.backend.ran [(lane.1, c.argv)] }
          with ⟨_ | _, _⟩ <;> rw [hr] at hend <;> exact hend
      · have hc' : b₀.accepts lane.1 c = false := by simpa using hc
        simp only [hc', Bool.false_eq_true, ↓reduceIte]
        refine ⟨[(lane.1, c.argv)], rfl, fun n hn => hpre n fun he => hn (he ▸ List.mem_cons_self),
          (fun _ h => by cases h), fun e he => ?_⟩
        cases he
        exact hlane.failure hc' List.mem_cons_self

def commandsLeft (lanes : List Lane) : Nat := (lanes.map (·.2.length)).foldr (· + ·) 0

theorem commandsLeft_cons (l : Lane) (lanes : List Lane) :
    commandsLeft (l :: lanes) = l.2.length + commandsLeft lanes := rfl

theorem eq_nil_of_commandsLeft_eq_zero :
    ∀ {lanes : List Lane}, commandsLeft lanes = 0 → ∀ l ∈ lanes, l.2 = []
  | [], _, _, hl => by cases hl
  | l :: lanes, h, l', hl' => by
    rw [commandsLeft_cons] at h
    rcases List.mem_cons.mp hl' with rfl | hl'
    · exact List.eq_nil_of_length_eq_zero (by omega)
    · exact eq_nil_of_commandsLeft_eq_zero (by omega) l' hl'

theorem commandsLeft_tails_le (cur : List Lane) :
    commandsLeft (cur.map fun l => (l.1, l.2.tail)) ≤ commandsLeft cur := by
  induction cur with
  | nil => exact Nat.le_refl 0
  | cons l cur ih =>
    simp only [List.map_cons, commandsLeft_cons, List.length_tail] at ih ⊢
    omega

theorem commandsLeft_tails_lt {cur : List Lane} (h : cur.all (·.2.isEmpty) = false) :
    commandsLeft (cur.map fun l => (l.1, l.2.tail)) < commandsLeft cur := by
  induction cur with
  | nil => cases h
  | cons l cur ih =>
    have hle := commandsLeft_tails_le cur
    simp only [List.map_cons, commandsLeft_cons, List.length_tail, List.all_cons,
      Bool.and_eq_false_iff] at h hle ⊢
    rcases h with h | h
    · have : 0 < l.2.length := by simpa [List.isEmpty_iff, List.length_pos_iff] using h
      omega
    · have := ih h
      omega

theorem configureLockstep_run (delay : Nat) {lanes : List Lane}
    (hh : ∀ lane ∈ lanes, lane.1 ∈ b₀.hosts) (hnd : (lanes.map (·.1)).Nodup) :
    ∀ (fuel : Nat) (cur : List Lane) (s : Bench), LanesProgress b₀ s.backend lanes cur →
      (∃ cmds, s.backend = b₀.ran cmds) → commandsLeft cur ≤ fuel →
      Configured b₀ lanes s ((configureLockstep delay fuel cur).run.run s)
  | 0, cur, s, hp, _, hfuel =>
    Configured.of_done (hp.all_accepted (eq_nil_of_commandsLeft_eq_zero (Nat.le_zero.mp hfuel)))
  | fuel + 1, cur, s, hp, ⟨base, hbase⟩, hfuel => by
    rw [configureLockstep]
    by_cases hall : cur.all (·.2.isEmpty) = true
    · simp only [hall, ↓reduceIte]
      exact Configured.of_done (hp.all_accepted fun l hl =>
        List.isEmpty_iff.mp (List.all_eq_true.mp hall l hl))
    · simp only [hall, Bool.false_eq_true, ↓reduceIte, StepRun.bind_eq, StepRun.modify_eq]
      have hclock : { s with clock := s.clock + delay } =
          { s with backend := s.backend.ran [], clock := s.clock + delay } := by
        rw [MemoryBackend.ran_nil]
      refine Configured.of_ran [] (s.clock + delay) hclock ?_
      obtain ⟨cmds, hs, -, hok, herr⟩ :=
        configureRound_run cur lanes { s with clock := s.clock + delay } hp hh hnd ⟨base, hbase⟩
      rcases hr : (configureRound cur).run.run { s with clock := s.clock + delay } with
        ⟨_ | next, s'⟩
      · rw [hr] at hs herr
        dsimp only at hs ⊢
        rw [hs]
        exact Configured.of_failure (herr _ rfl)
      · rw [hr] at hs hok
        dsimp only at hs ⊢
        obtain ⟨rfl, hprog⟩ := hok next rfl
        have hless := commandsLeft_tails_lt (Bool.not_eq_true _ ▸ hall)
        refine Configured.of_ran cmds (s.clock + delay) hs ?_
        exact configureLockstep_run delay hh hnd fuel _ s' (hs ▸ hprog)
          ⟨base ++ cmds, by rw [hs, hbase, MemoryBackend.ran_ran]⟩
          (Nat.le_of_lt_succ (Nat.lt_of_lt_of_le hless hfuel))

theorem configureHosts_run (s : Bench) {hosts : List HostConfig}
    (hh : ∀ h ∈ hosts, h.name ∈ s.backend.hosts) (hnd : (hosts.map (·.name)).Nodup) :
    Configured s.backend (hosts.map fun h => (h.name, hostCommands h)) s
      ((configureHosts hosts).run.run s) := by
  have hh' : ∀ lane ∈ hosts.map (fun h => (h.name, hostCommands h)), lane.1 ∈ s.backend.hosts := by
    intro lane hl
    obtain ⟨h, hmem, rfl⟩ := List.mem_map.mp hl
    exact hh h hmem
  have hnd' : ((hosts.map fun h => (h.name, hostCommands h)).map (·.1)).Nodup := by
    rw [List.map_map]
    exact hnd
  have hbase : ∃ cmds, s.backend = s.backend.ran cmds := ⟨[], by rw [MemoryBackend.ran_nil]⟩
  unfold configureHosts
  rw [StepRun.bind_eq, StepRun.get_eq]
  dsimp only
  split
  · exact configureLockstep_run _ hh' hnd' _ _ s (LanesProgress.start _ _) hbase (Nat.le_refl _)
  · exact runLanes_run _ s hh' hnd' (fun lane _ => LaneProgress.start _ lane) hbase

end Modes

end Bench

end MudTestbed
