import Mathlib.Data.List.Perm.Basic
import Mathlib.Data.String.Basic
import MudTestbed.Proofs.Provision.Probes
import MudTestbed.Proofs.Scenario.Drive
import MudTestbed.Provision.Lanes

/-!
# Probe lanes keep the declared order

A probe reads its session apart from the command record, and adds to the record only the
commands it ran, all in its source host (`Session.runProbe_withCommands`). So its result is
the same whenever it runs, and lanes of different hosts touch different parts of the record.

`SequenceSpec s specs out` says what running `specs` from `s` must come to: one result per
probe in declared order, each what its probe gives on any session that differs from `s` only
in its record (as every session of the run does); nothing but the record changes; and each
host's commands are those of its probes in declared order. Running the probes one after
another meets it (`Session.runSequence_meets_spec`), and so does running them as lanes by
any schedule (`probe_lanes_keep_declared_order`): the lanes agree with the sequential run
on every result and on every host's commands, and so with a scenario's probe step
(`Drive.probe_runs_as_lanes`).

The lanes are followed by an invariant (`LaneRun.Within`): each lane has run a prefix of its
probes, its results are those probes' results, and the record holds, for each host, the
commands of its lane's finished probes in lane order.
-/

namespace MudTestbed

set_option autoImplicit false

/-! ### One probe -/

theorem MemoryBackend.exec_withCommands (b : MemoryBackend) (c : List (String × List String))
    (host : String) (argv : List String) :
    ({ b with commands := c } : MemoryBackend).exec host argv =
      (b.exec host argv).map fun ob => (ob.1, { ob.2 with commands := c ++ [(host, argv)] }) := by
  unfold MemoryBackend.exec
  by_cases h : (!b.hosts.contains host) = true
  · rw [if_pos h, if_pos h]
    rfl
  · rw [if_neg h, if_neg h]
    rfl

theorem MemoryBackend.commandsFor_eq_filter (b : MemoryBackend) (h : String) :
    b.commandsFor h = (b.commands.filter (·.1 == h)).map (·.2) := by
  unfold MemoryBackend.commandsFor
  induction b.commands with
  | nil => rfl
  | cons e rest ih =>
    by_cases he : e.1 = h <;> simp [he, ih]

namespace Session

def withCommands (s : Session) (cmds : List (String × List String)) : Session :=
  { s with backend := { s.backend with commands := cmds } }

@[simp] theorem withCommands_withCommands (s : Session) (c c' : List (String × List String)) :
    (s.withCommands c).withCommands c' = s.withCommands c' := rfl

@[simp] theorem withCommands_self (s : Session) : s.withCommands s.backend.commands = s := rfl

@[simp] theorem withCommands_commands (s : Session) (c : List (String × List String)) :
    (s.withCommands c).backend.commands = c := rfl

def probeRecord (s : Session) (spec : ProbeSpec) : List (String × List String) :=
  ((s.withCommands []).runProbe spec).2.backend.commands

theorem runProbe_record (s : Session) (spec : ProbeSpec) :
    ∃ rec : List (String × List String), (∀ e ∈ rec, e.1 = spec.source) ∧
      ∀ c, (s.withCommands c).runProbe spec = ((s.runProbe spec).1, s.withCommands (c ++ rec)) := by
  unfold runProbe
  simp only [withCommands, MemoryBackend.exec_withCommands]
  split_ifs
  · exact ⟨[], by simp, fun c => by simp⟩
  · exact ⟨[], by simp, fun c => by simp⟩
  · exact ⟨[], by simp, fun c => by simp⟩
  · rcases hexec : s.backend.exec spec.source (s.tools.commandFor spec) with e | ⟨o, b⟩
    · cases e <;> exact ⟨[], by simp, fun c => by simp [Except.map]⟩
    · obtain ⟨-, rfl, -⟩ := MemoryBackend.exec_eq_ok.mp hexec
      refine ⟨[(spec.source, s.tools.commandFor spec)], by simp, fun c => ?_⟩
      simp only [Except.map]
      cases Probe.classify spec.kind o <;> rfl

theorem runProbe_withCommands (s : Session) (spec : ProbeSpec) (c : List (String × List String)) :
    (s.withCommands c).runProbe spec =
      ((s.runProbe spec).1, s.withCommands (c ++ s.probeRecord spec)) := by
  obtain ⟨rec, -, hrec⟩ := s.runProbe_record spec
  simp only [probeRecord, hrec, withCommands_commands, List.nil_append]

@[simp] theorem probeRecord_withCommands (s : Session) (spec : ProbeSpec)
    (c : List (String × List String)) : (s.withCommands c).probeRecord spec = s.probeRecord spec :=
  rfl

theorem probeRecord_source (s : Session) (spec : ProbeSpec) :
    ∀ e ∈ s.probeRecord spec, e.1 = spec.source := by
  obtain ⟨rec, hsrc, hrec⟩ := s.runProbe_record spec
  simpa only [probeRecord, hrec, withCommands_commands, List.nil_append] using hsrc

theorem runProbe_fst_of_withCommands {s t : Session} (h : t.withCommands [] = s.withCommands [])
    (spec : ProbeSpec) : (t.runProbe spec).1 = (s.runProbe spec).1 := by
  have ht := congrArg Prod.fst (t.runProbe_withCommands spec [])
  have hs := congrArg Prod.fst (s.runProbe_withCommands spec [])
  rw [h] at ht
  exact ht.symm.trans hs

theorem probeRecord_filter (s : Session) (spec : ProbeSpec) (h : String) :
    (s.probeRecord spec).filter (·.1 == h) =
      if spec.source = h then s.probeRecord spec else [] := by
  split_ifs with hs
  · exact List.filter_eq_self.mpr fun e he => by simp [probeRecord_source s spec e he, hs]
  · exact List.filter_eq_nil_iff.mpr fun e he => by simp [probeRecord_source s spec e he, hs]

theorem flatMap_probeRecord_filter (s : Session) (specs : List ProbeSpec) (h : String) :
    (specs.flatMap s.probeRecord).filter (·.1 == h) =
      (specs.filter (·.source == h)).flatMap s.probeRecord := by
  induction specs with
  | nil => rfl
  | cons spec rest ih =>
    rw [List.flatMap_cons, List.filter_append, ih, probeRecord_filter, List.filter_cons]
    by_cases hs : spec.source = h <;> simp [hs]

theorem commandsFor_withCommands_append (s : Session) (log : List (String × List String))
    (h : String) :
    (s.withCommands (s.backend.commands ++ log)).backend.commandsFor h =
      s.backend.commandsFor h ++ (log.filter (·.1 == h)).map (·.2) := by
  rw [MemoryBackend.commandsFor_eq_filter, MemoryBackend.commandsFor_eq_filter,
    withCommands_commands, List.filter_append, List.map_append]

/-! ### What a run of probes comes to -/

/-- What running `specs` from `s` must come to, see the module comment. -/
structure SequenceSpec (s : Session) (specs : List ProbeSpec)
    (out : List ProbeResult × Session) : Prop where
  /-- One result per probe, in declared order. -/
  specs_in_order : out.1.map (·.spec) = specs
  /-- Each result is what its probe answers on any session differing from `s` in its record. -/
  results : ∀ t : Session, t.withCommands [] = s.withCommands [] →
    out.1 = specs.map fun spec => (t.runProbe spec).1
  /-- Only the command record changes. -/
  only_records : out.2.withCommands [] = s.withCommands []
  /-- Each host's commands grow by those of its probes, in declared order. -/
  host_commands : ∀ h, out.2.backend.commandsFor h = s.backend.commandsFor h ++
    (specs.filter (·.source == h)).flatMap fun spec => (s.probeRecord spec).map (·.2)

theorem SequenceSpec.of_log {s : Session} {specs : List ProbeSpec}
    {log : List (String × List String)}
    (hlog : ∀ h, log.filter (·.1 == h) = (specs.filter (·.source == h)).flatMap s.probeRecord) :
    SequenceSpec s specs
      (specs.map fun spec => (s.runProbe spec).1, s.withCommands (s.backend.commands ++ log)) where
  specs_in_order := by simp [Function.comp_def, runProbe_spec]
  results _ ht := List.map_congr_left fun spec _ => (runProbe_fst_of_withCommands ht spec).symm
  only_records := rfl
  host_commands h := by rw [commandsFor_withCommands_append, hlog, List.map_flatMap]

theorem runSequence_withCommands (s : Session) (specs : List ProbeSpec)
    (c : List (String × List String)) :
    (s.withCommands c).runSequence specs =
      (specs.map fun spec => (s.runProbe spec).1,
        s.withCommands (c ++ specs.flatMap s.probeRecord)) := by
  induction specs generalizing c with
  | nil => simp [runSequence]
  | cons spec rest ih =>
    rw [runSequence, runProbe_withCommands]
    dsimp only
    rw [ih, List.flatMap_cons, List.append_assoc, List.map_cons]

theorem runSequence_meets_spec (s : Session) (specs : List ProbeSpec) :
    SequenceSpec s specs (s.runSequence specs) := by
  have h := s.runSequence_withCommands specs s.backend.commands
  rw [withCommands_self] at h
  rw [h]
  exact SequenceSpec.of_log (flatMap_probeRecord_filter s specs)

/-! ### The lanes of a sequence -/

theorem insertName_pairwise {n : String} {l : List String} (h : l.Pairwise (· < ·)) :
    (insertName n l).Pairwise (· < ·) := by
  induction l with
  | nil => simp [insertName]
  | cons m rest ih =>
    obtain ⟨hm, hrest⟩ := List.pairwise_cons.mp h
    unfold insertName
    split_ifs with heq hlt
    · exact h
    · refine List.Pairwise.cons (fun x hx => ?_) h
      rcases List.mem_cons.mp hx with rfl | hx
      · exact hlt
      · exact lt_trans hlt (hm x hx)
    · refine List.Pairwise.cons (fun x hx => ?_) (ih hrest)
      rcases mem_insertName.mp hx with rfl | hx
      · exact lt_of_le_of_ne (not_lt.mp hlt) (Ne.symm heq)
      · exact hm x hx

theorem foldl_insertName_pairwise (specs : List ProbeSpec) :
    ∀ init : List String, init.Pairwise (· < ·) →
      (specs.foldl (fun sources spec => insertName spec.source sources) init).Pairwise
        (· < ·) := by
  induction specs with
  | nil => exact fun _ h => h
  | cons spec rest ih => exact fun init h => ih _ (insertName_pairwise h)

theorem mem_foldl_insertName {x : String} (specs : List ProbeSpec) :
    ∀ init : List String, (x ∈ init ∨ ∃ spec ∈ specs, spec.source = x) →
      x ∈ specs.foldl (fun sources spec => insertName spec.source sources) init := by
  induction specs with
  | nil => exact fun init h => h.resolve_right (by simp)
  | cons spec rest ih =>
    intro init h
    refine ih _ ?_
    rcases h with hinit | ⟨spec', hmem, rfl⟩
    · exact .inl (mem_insertName.mpr (.inr hinit))
    · rcases List.mem_cons.mp hmem with rfl | hrest
      · exact .inl (mem_insertName.mpr (.inl rfl))
      · exact .inr ⟨spec', hrest, rfl⟩

theorem laneSources_nodup (specs : List ProbeSpec) : (laneSources specs).Nodup :=
  (foldl_insertName_pairwise specs [] List.Pairwise.nil).imp ne_of_lt

theorem laneSources_index_unique {specs : List ProbeSpec} {j k : Nat} {src : String}
    (hj : (laneSources specs)[j]? = some src) (hk : (laneSources specs)[k]? = some src) :
    j = k :=
  (List.getElem?_inj (List.getElem?_eq_some_iff.mp hj).1 (laneSources_nodup specs)).mp
    (hj.trans hk.symm)

theorem source_mem_laneSources {specs : List ProbeSpec} {spec : ProbeSpec} (h : spec ∈ specs) :
    spec.source ∈ laneSources specs :=
  mem_foldl_insertName specs [] (.inr ⟨spec, h, rfl⟩)

theorem flatMap_filter_perm {α : Type} (key : α → String) (xs : List α) :
    ∀ keys : List String, keys.Nodup →
      (keys.flatMap fun k => xs.filter (key · == k)).Perm (xs.filter (key · ∈ keys)) := by
  intro keys hnd
  induction keys with
  | nil => simp
  | cons k ks ih =>
    obtain ⟨hk, hks⟩ := List.nodup_cons.mp hnd
    rw [List.flatMap_cons]
    refine ((ih hks).append_left _).trans ?_
    have hin : (xs.filter (key · ∈ k :: ks)).filter (key · == k) = xs.filter (key · == k) := by
      rw [List.filter_filter]
      exact List.filter_congr fun x _ => by by_cases hx : key x = k <;> simp [hx]
    have hout : (xs.filter (key · ∈ k :: ks)).filter (fun x => !(key x == k)) =
        xs.filter (key · ∈ ks) := by
      rw [List.filter_filter]
      refine List.filter_congr fun x _ => ?_
      by_cases hx : key x = k
      · simp [hx, hk]
      · simp [hx]
    have hsplit := List.filter_append_perm (key · == k) (xs.filter (key · ∈ k :: ks))
    rwa [hin, hout] at hsplit

theorem lanes_flatten_perm (specs : List ProbeSpec) :
    (lanes specs).flatten.Perm specs.zipIdx := by
  have hall : specs.zipIdx.filter (·.1.source ∈ laneSources specs) = specs.zipIdx :=
    List.filter_eq_self.mpr fun p hp => by
      have hmem : p.1 ∈ specs.zipIdx.map Prod.fst := List.mem_map_of_mem hp
      rw [List.zipIdx_map_fst] at hmem
      simpa using source_mem_laneSources hmem
  rw [lanes, ← List.flatMap_def]
  simpa only [hall] using flatMap_filter_perm (·.1.source) specs.zipIdx _ (laneSources_nodup specs)

/-! ### Lanes part-way -/

namespace LaneRun

theorem step_of_cons {st : LaneRun} {j : Nat} {spec : ProbeSpec} {i : Nat}
    {rest : List (ProbeSpec × Nat)} {results : List (Nat × ProbeResult)}
    (h : st.lanes[j]? = some ⟨(spec, i) :: rest, results⟩) :
    st.step j = ⟨(st.session.runProbe spec).2,
      st.lanes.set j ⟨rest, results ++ [(i, (st.session.runProbe spec).1)]⟩⟩ := by
  rw [step, h]

theorem step_of_idle {st : LaneRun} {j : Nat}
    (h : ∀ lane, st.lanes[j]? = some lane → lane.pending = []) : st.step j = st := by
  unfold step
  split
  · next heq => exact absurd (h _ heq) (List.cons_ne_nil _ _)
  · rfl

@[simp] theorem steps_nil (st : LaneRun) : st.steps [] = st := rfl

@[simp] theorem steps_cons (st : LaneRun) (j : Nat) (rest : List Nat) :
    st.steps (j :: rest) = (st.step j).steps rest := rfl

theorem steps_append (st : LaneRun) (xs ys : List Nat) :
    st.steps (xs ++ ys) = (st.steps xs).steps ys := by
  induction xs generalizing st with
  | nil => rfl
  | cons j rest ih => exact ih (st.step j)

def pendingAt (st : LaneRun) (k : Nat) : List (ProbeSpec × Nat) :=
  (st.lanes[k]?.map (·.pending)).getD []

theorem pendingAt_of_getElem? {st : LaneRun} {k : Nat} {lane : Lane}
    (h : st.lanes[k]? = some lane) : st.pendingAt k = lane.pending := by
  simp [pendingAt, h]

theorem step_cases (st : LaneRun) (j : Nat) :
    (st.pendingAt j = [] ∧ st.step j = st) ∨
      ∃ spec i rest results, st.lanes[j]? = some ⟨(spec, i) :: rest, results⟩ ∧
        st.step j = ⟨(st.session.runProbe spec).2,
          st.lanes.set j ⟨rest, results ++ [(i, (st.session.runProbe spec).1)]⟩⟩ := by
  rcases hj : st.lanes[j]? with _ | ⟨_ | ⟨⟨spec, i⟩, rest⟩, results⟩
  · exact .inl ⟨by simp [pendingAt, hj], step_of_idle (by simp [hj])⟩
  · exact .inl ⟨by simp [pendingAt, hj], step_of_idle (by simp [hj])⟩
  · exact .inr ⟨spec, i, rest, results, rfl, step_of_cons hj⟩

theorem pendingAt_step (st : LaneRun) (j k : Nat) :
    (st.step j).pendingAt k = if k = j then (st.pendingAt k).tail else st.pendingAt k := by
  rcases st.step_cases j with ⟨hidle, hstep⟩ | ⟨spec, i, rest, results, hj, hstep⟩
  · rw [hstep]
    split_ifs with hk
    · rw [hk, hidle]
      rfl
    · rfl
  · rw [hstep]
    have hlen : j < st.lanes.length := (List.getElem?_eq_some_iff.mp hj).1
    unfold pendingAt
    split_ifs with hk
    · subst hk
      rw [List.getElem?_set_self hlen, hj]
      rfl
    · simp [List.getElem?_set_ne (Ne.symm hk)]

theorem pendingAt_steps_replicate (st : LaneRun) (j n k : Nat) :
    (st.steps (List.replicate n j)).pendingAt k =
      if k = j then (st.pendingAt k).drop n else st.pendingAt k := by
  induction n generalizing st with
  | zero => simp
  | succ n ih =>
    rw [List.replicate_succ, steps_cons, ih, pendingAt_step]
    split_ifs <;> simp [List.drop_tail]

theorem pendingAt_steps_flatMap (js : List Nat) (hnd : js.Nodup) (st : LaneRun) (k : Nat) :
    (st.steps (js.flatMap fun j => List.replicate (st.pendingAt j).length j)).pendingAt k =
      if k ∈ js then [] else st.pendingAt k := by
  induction js generalizing st with
  | nil => simp
  | cons j js ih =>
    obtain ⟨hj, hjs⟩ := List.nodup_cons.mp hnd
    set st' := st.steps (List.replicate (st.pendingAt j).length j)
    have hst' : ∀ k, st'.pendingAt k = if k = j then [] else st.pendingAt k := by
      intro k
      rw [pendingAt_steps_replicate]
      split_ifs with hk
      · subst hk; simp
      · rfl
    have hcongr : (js.flatMap fun k => List.replicate (st.pendingAt k).length k) =
        js.flatMap fun k => List.replicate (st'.pendingAt k).length k :=
      List.flatMap_congr fun k hk => by rw [hst' k, if_neg (ne_of_mem_of_not_mem hk hj)]
    rw [List.flatMap_cons, steps_append, hcongr, ih hjs st', hst' k]
    by_cases hkj : k = j
    · simp [hkj]
    · by_cases hk : k ∈ js <;> simp [hkj, hk]

theorem pendingAt_toEnd (st : LaneRun) (k : Nat) : (st.steps st.toEnd).pendingAt k = [] := by
  have htoEnd : st.toEnd =
      (List.range st.lanes.length).flatMap fun j => List.replicate (st.pendingAt j).length j := by
    refine List.flatMap_congr fun j _ => ?_
    rw [pendingAt]
    cases st.lanes[j]? <;> rfl
  rw [htoEnd, pendingAt_steps_flatMap _ List.nodup_range]
  split_ifs with hk
  · rfl
  · simp [pendingAt, List.getElem?_eq_none (not_lt.mp (List.mem_range.not.mp hk))]

/-! ### The invariant of the lanes -/

/-- The lanes of `specs` part-way, `log` being what they have added to the record. -/
structure Within (s : Session) (specs : List ProbeSpec) (st : LaneRun)
    (log : List (String × List String)) : Prop where
  session_eq : st.session = s.withCommands (s.backend.commands ++ log)
  length_eq : st.lanes.length = (laneSources specs).length
  lane_run : ∀ (j : Nat) (lane : Lane), st.lanes[j]? = some lane → ∃ src done,
    (laneSources specs)[j]? = some src ∧
    done ++ lane.pending = specs.zipIdx.filter (·.1.source == src) ∧
    lane.results = done.map (fun p => (p.2, (s.runProbe p.1).1)) ∧
    log.filter (·.1 == src) = (done.map (·.1)).flatMap s.probeRecord
  off_lanes : ∀ h ∉ laneSources specs, log.filter (·.1 == h) = []

theorem within_start (s : Session) (specs : List ProbeSpec) :
    Within s specs ⟨s, (Session.lanes specs).map fun lane => ⟨lane, []⟩⟩ [] where
  session_eq := by simp
  length_eq := by simp [Session.lanes]
  lane_run j lane h := by
    simp only [Session.lanes, List.map_map, List.getElem?_map] at h
    obtain ⟨src, hsrc, rfl⟩ := Option.map_eq_some_iff.mp h
    exact ⟨src, [], hsrc, by simp, rfl, rfl⟩
  off_lanes _ _ := rfl

section Invariant

variable {s : Session} {specs : List ProbeSpec} {st : LaneRun} {log : List (String × List String)}

theorem Within.advance (hw : Within s specs st log) {j : Nat} {spec : ProbeSpec} {i : Nat} {rest : List (ProbeSpec × Nat)}
    {results : List (Nat × ProbeResult)}
    (hj : st.lanes[j]? = some ⟨(spec, i) :: rest, results⟩) :
    Within s specs (st.step j) (log ++ s.probeRecord spec) := by
  obtain ⟨src, done, hsrc, hdone, hres, hlog⟩ := hw.lane_run j _ hj
  dsimp only at hdone hres
  have hspec : spec.source = src := by
    have hmem : (spec, i) ∈ specs.zipIdx.filter (·.1.source == src) := by
      rw [← hdone]
      simp
    simpa using (List.mem_filter.mp hmem).2
  have hrun : st.session.runProbe spec = ((s.runProbe spec).1,
      s.withCommands (s.backend.commands ++ (log ++ s.probeRecord spec))) := by
    rw [hw.session_eq, runProbe_withCommands, List.append_assoc]
  have hlen : j < st.lanes.length := (List.getElem?_eq_some_iff.mp hj).1
  rw [step_of_cons hj, hrun]
  constructor
  · rfl
  · simp [hw.length_eq]
  · intro k lane hk
    by_cases hjk : j = k
    · subst hjk
      rw [List.getElem?_set_self hlen, Option.some.injEq] at hk
      subst hk
      refine ⟨src, done ++ [(spec, i)], hsrc, by simpa using hdone, by simp [hres], ?_⟩
      rw [List.filter_append, hlog, probeRecord_filter, if_pos hspec]
      simp
    · rw [List.getElem?_set_ne hjk] at hk
      obtain ⟨src', done', hsrc', hdone', hres', hlog'⟩ := hw.lane_run k lane hk
      have hne : spec.source ≠ src' := by
        rw [hspec]
        rintro rfl
        exact hjk (laneSources_index_unique hsrc hsrc')
      refine ⟨src', done', hsrc', hdone', hres', ?_⟩
      rw [List.filter_append, hlog', probeRecord_filter, if_neg hne, List.append_nil]
  · intro h hh
    have hne : spec.source ≠ h := fun he => hh (he ▸ hspec ▸ List.mem_of_getElem? hsrc)
    rw [List.filter_append, hw.off_lanes h hh, probeRecord_filter, if_neg hne]
    rfl

theorem Within.step (hw : Within s specs st log) (j : Nat) :
    ∃ log', Within s specs (st.step j) log' := by
  rcases st.step_cases j with ⟨-, hstep⟩ | ⟨spec, i, rest, results, hj, -⟩
  · rw [hstep]
    exact ⟨log, hw⟩
  · exact ⟨_, hw.advance hj⟩

theorem Within.steps (hw : Within s specs st log) (schedule : List Nat) :
    ∃ log', Within s specs (st.steps schedule) log' := by
  induction schedule generalizing st log with
  | nil => exact ⟨log, hw⟩
  | cons j rest ih =>
    obtain ⟨log', hw'⟩ := hw.step j
    exact ih hw'

theorem Within.results_of_ended (hw : Within s specs st log) (hend : ∀ k, st.pendingAt k = []) :
    st.lanes.map (·.results) =
      (Session.lanes specs).map (·.map fun p => (p.2, (s.runProbe p.1).1)) := by
  refine List.ext_getElem? fun k => ?_
  rcases hk : st.lanes[k]? with _ | lane
  · have hlen : (laneSources specs).length ≤ k := by
      rw [← hw.length_eq]
      exact List.getElem?_eq_none_iff.mp hk
    simp [hk, Session.lanes, List.getElem?_eq_none hlen]
  · obtain ⟨src, done, hsrc, hdone, hres, -⟩ := hw.lane_run k lane hk
    rw [← pendingAt_of_getElem? hk, hend k, List.append_nil] at hdone
    simp [hk, Session.lanes, hsrc, hres, hdone]

theorem map_fst_filter_zipIdx (specs : List ProbeSpec) (h : String) :
    (specs.zipIdx.filter (·.1.source == h)).map (·.1) = specs.filter (·.source == h) := by
  have h := List.filter_map (f := Prod.fst) (p := (·.source == h)) (l := specs.zipIdx)
  rw [List.zipIdx_map_fst] at h
  exact h.symm

theorem Within.log_of_ended (hw : Within s specs st log) (hend : ∀ k, st.pendingAt k = [])
    (h : String) :
    log.filter (·.1 == h) = (specs.filter (·.source == h)).flatMap s.probeRecord := by
  by_cases hh : h ∈ laneSources specs
  · obtain ⟨k, hk⟩ := List.mem_iff_getElem?.mp hh
    have hklen : k < st.lanes.length := by
      rw [hw.length_eq]
      exact (List.getElem?_eq_some_iff.mp hk).1
    obtain ⟨src, done, hsrc, hdone, -, hlog⟩ := hw.lane_run k _ (List.getElem?_eq_getElem hklen)
    obtain rfl : src = h := Option.some.inj (hsrc.symm.trans hk)
    rw [← pendingAt_of_getElem? (List.getElem?_eq_getElem hklen), hend k,
      List.append_nil] at hdone
    rw [hlog, hdone, map_fst_filter_zipIdx]
  · have hnone : specs.filter (·.source == h) = [] :=
      List.filter_eq_nil_iff.mpr fun spec hspec he =>
        hh (by simpa using (beq_iff_eq.mp he) ▸ source_mem_laneSources hspec)
    rw [hw.off_lanes h hh, hnone, List.flatMap_nil]

end Invariant

end LaneRun

/-! ### Gathering the results -/

section Gather

variable {α : Type}

theorem length_foldl_set (rs : List (Nat × α)) (init : List (Option α)) :
    (rs.foldl (fun slots ir => slots.set ir.1 (some ir.2)) init).length = init.length := by
  induction rs generalizing init with
  | nil => rfl
  | cons ir rest ih => rw [List.foldl_cons, ih, List.length_set]

theorem getElem?_foldl_set_of_not_mem {rs : List (Nat × α)} {i : Nat} (hi : i ∉ rs.map (·.1))
    (init : List (Option α)) :
    (rs.foldl (fun slots ir => slots.set ir.1 (some ir.2)) init)[i]? = init[i]? := by
  induction rs generalizing init with
  | nil => rfl
  | cons ir rest ih =>
    rw [List.map_cons, List.mem_cons, not_or] at hi
    rw [List.foldl_cons, ih hi.2, List.getElem?_set_ne (Ne.symm hi.1)]

theorem getElem?_foldl_set_of_mem {rs : List (Nat × α)} (hnd : (rs.map (·.1)).Nodup) {i : Nat}
    {r : α} (hmem : (i, r) ∈ rs) {init : List (Option α)} (hi : i < init.length) :
    (rs.foldl (fun slots ir => slots.set ir.1 (some ir.2)) init)[i]? = some (some r) := by
  induction rs generalizing init with
  | nil => cases hmem
  | cons ir rest ih =>
    obtain ⟨hir, hrest⟩ := List.nodup_cons.mp (List.map_cons ▸ hnd)
    rw [List.foldl_cons]
    rcases List.mem_cons.mp hmem with rfl | hmem
    · rw [getElem?_foldl_set_of_not_mem hir, List.getElem?_set_self hi]
    · exact ih hrest hmem (by rwa [List.length_set])

theorem gather_of_perm {specs : List ProbeSpec} {g : ProbeSpec → ProbeResult}
    {rs : List (Nat × ProbeResult)} (h : rs.Perm (specs.zipIdx.map fun p => (p.2, g p.1))) :
    gather specs.length rs = specs.map g := by
  have hnd : (rs.map (·.1)).Nodup := by
    refine (h.map _).nodup_iff.mpr ?_
    simpa [Function.comp_def] using List.nodup_range' (s := 0) (n := specs.length)
  have hslots : rs.foldl (fun slots ir => slots.set ir.1 (some ir.2))
      (List.replicate specs.length none) = specs.map (some ∘ g) := by
    refine List.ext_getElem? fun i => ?_
    by_cases hi : i < specs.length
    · have hmem : (i, g specs[i]) ∈ rs :=
        h.mem_iff.mpr (List.mem_map.mpr
          ⟨(specs[i], i), List.mem_zipIdx_iff_getElem?.mpr (by simp), rfl⟩)
      rw [getElem?_foldl_set_of_mem hnd hmem (by simpa using hi)]
      simp [hi]
    · have hlen : specs.length ≤ i := not_lt.mp hi
      rw [List.getElem?_eq_none (by rwa [length_foldl_set, List.length_replicate]),
        List.getElem?_eq_none (by rwa [List.length_map])]
  rw [gather, hslots, List.filterMap_map]
  simp

end Gather

/-! ### Lanes by any schedule -/

theorem runLanes_eq (s : Session) (specs : List ProbeSpec) (schedule : List Nat) :
    ∃ log, (∀ h, log.filter (·.1 == h) =
        (specs.filter (·.source == h)).flatMap s.probeRecord) ∧
      s.runLanes specs schedule = (specs.map fun spec => (s.runProbe spec).1,
        s.withCommands (s.backend.commands ++ log)) := by
  obtain ⟨log₁, hw₁⟩ := (LaneRun.within_start s specs).steps schedule
  set st := (LaneRun.mk s ((lanes specs).map fun lane => ⟨lane, []⟩)).steps schedule
  obtain ⟨log, hw⟩ := hw₁.steps st.toEnd
  have hend := st.pendingAt_toEnd
  refine ⟨log, hw.log_of_ended hend, ?_⟩
  have hperm := (lanes_flatten_perm specs).map fun p => (p.2, (s.runProbe p.1).1)
  show (gather specs.length ((st.steps st.toEnd).lanes.flatMap (·.results)),
    (st.steps st.toEnd).session) = _
  rw [hw.session_eq, List.flatMap_def, hw.results_of_ended hend, ← List.map_flatten,
    gather_of_perm (g := fun spec => (s.runProbe spec).1) hperm]

theorem runLanes_agrees_with_runSequence (s : Session) (specs : List ProbeSpec)
    (schedule : List Nat) :
    (s.runLanes specs schedule).1 = (s.runSequence specs).1 ∧
      (s.runLanes specs schedule).2.withCommands [] = (s.runSequence specs).2.withCommands [] ∧
      ∀ h, (s.runLanes specs schedule).2.backend.commandsFor h =
        (s.runSequence specs).2.backend.commandsFor h := by
  obtain ⟨log, hlog, hrun⟩ := runLanes_eq s specs schedule
  have hseq := s.runSequence_withCommands specs s.backend.commands
  rw [withCommands_self] at hseq
  rw [hrun, hseq]
  refine ⟨rfl, rfl, fun h => ?_⟩
  rw [commandsFor_withCommands_append, commandsFor_withCommands_append, hlog,
    flatMap_probeRecord_filter]

end Session

/-- Probes run as lanes by any schedule meet the spec of a run of probes. -/
theorem probe_lanes_keep_declared_order (s : Session) (specs : List ProbeSpec)
    (schedule : List Nat) : Session.SequenceSpec s specs (s.runLanes specs schedule) := by
  obtain ⟨log, hlog, hrun⟩ := Session.runLanes_eq s specs schedule
  rw [hrun]
  exact Session.SequenceSpec.of_log hlog

theorem Drive.probe_runs_as_lanes {σ : Type} (ctl : ControllerBehavior σ) (sc : Scenario)
    (live : LiveNetwork) (specs : List ProbeSpec) (schedule : List Nat) (R : ScenarioReport)
    (tb : Testbed σ) :
    let s : Session := ⟨live, (tb.syncQuarantine ctl).backend, sc.tools⟩
    (((probe ctl sc live specs).run.run R).run tb).1.1 = .ok (s.runLanes specs schedule).1 ∧
      ∀ h, (((probe ctl sc live specs).run.run R).run tb).2.backend.commandsFor h =
        (s.runLanes specs schedule).2.backend.commandsFor h := by
  intro s
  obtain ⟨hresults, -, hcommands⟩ := s.runLanes_agrees_with_runSequence specs schedule
  rw [hresults]
  exact ⟨rfl, fun h => (hcommands h).symm⟩

end MudTestbed
