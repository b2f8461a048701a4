import Mathlib
import StompConsole.Client.Runtime

/-!
# Generations keep stale sessions out

Every `connect` and `disconnect` advances the generation counter, and a session changes the
watched state only while its generation is the counter. This file proves what that buys, over
every interleaving of the manager's calls with any number of session tasks (`Runtime`):

* a state report by a session of an older generation changes nothing
  (`setState_stale`);
* the tasks' generations increase in the order the tasks were started and never pass the counter
  (`Ordered`, kept by every step), so only the newest task can hold the current generation
  (`generation_ne_of_mem_dropLast`);
* a runtime that stores no session, as from the return of `disconnect` until a `connect` starts a
  session again, is `closed`, whatever the old sessions do (`Quiet`).

The counter is a 64-bit word, so the last two hold for runs of fewer than `2 ^ 64` calls of
`connect` and `disconnect`: below that, every advance of the counter adds exactly one to its
value (`toNat_add_one_of_lt`), and the counter's value never passes the number of calls
(`Ordered.counted`).

The steps are taken apart once: a task's check, send and end and the consumer's read touch only
the channel (`step_frame`), and a state report goes through the manager's own `updateState`
(`step_setState`). From these, `step_generations`, `step_state` and `step_session` say what any
step does to the generations, to the watched state and to the stored session, and every invariant
below reads those lemmas and never the step function.
-/

namespace StompConsole.Client

namespace Manager

variable {m m' : Manager}

theorem publish_generation (m : Manager) (s : ConnectionState) :
    (m.publish s).generation = m.generation := by
  unfold publish
  split <;> rfl

theorem publish_state (m : Manager) (s : ConnectionState) : (m.publish s).state = s := by
  unfold publish
  split
  · next h => exact h
  · rfl

/-- **What a successful `connect` returns**: no session was active, and the manager is the old
one with the counter advanced, `pending` published and the new generation stored as the session. -/
theorem eq_of_connect (h : m.connect = .ok m') :
    m.state.isActive = false ∧
      m' = { ({ m with generation := m.generation + 1 } : Manager).publish .pending with
             session := some (m.generation + 1) } := by
  unfold connect at h
  split at h
  · cases h
  · next hna =>
    cases hu : m.config.endpointUrl with
    | error e => simp [hu] at h
    | ok u =>
      simp only [hu] at h
      obtain rfl := Except.ok.inj h
      exact ⟨by simpa using hna, by simp only [publish_generation]⟩

/-- A `connect` that starts a session advances the counter by one. -/
theorem generation_of_connect (h : m.connect = .ok m') : m'.generation = m.generation + 1 := by
  obtain ⟨-, rfl⟩ := eq_of_connect h
  exact publish_generation _ _

theorem disconnect_generation (m : Manager) : m.disconnect.2.generation = m.generation + 1 :=
  publish_generation _ _

theorem publish_session (m : Manager) (s : ConnectionState) : (m.publish s).session = m.session := by
  unfold publish
  split <;> rfl

/-- A `connect` that starts a session stores it. -/
theorem session_of_connect (h : m.connect = .ok m') : m'.session = some m'.generation := by
  obtain ⟨-, rfl⟩ := eq_of_connect h
  rw [publish_generation]

theorem disconnect_session (m : Manager) : m.disconnect.2.session = none := publish_session _ _

theorem disconnect_state (m : Manager) : m.disconnect.2.state = .closed := publish_state _ _

theorem updateState_generation (m : Manager) (g : UInt64) (s : ConnectionState) :
    (m.updateState g s).2.generation = m.generation := by
  unfold updateState
  split <;> rfl

theorem updateState_session (m : Manager) (g : UInt64) (s : ConnectionState) :
    (m.updateState g s).2.session = m.session := by
  unfold updateState
  split <;> rfl

/-- **A stale state report changes nothing**: the guard fails for any generation but the
current one. -/
theorem updateState_of_ne {g : UInt64} (h : g ≠ m.generation) (s : ConnectionState) :
    (m.updateState g s).2 = m := by
  have hc : m.isCurrent g = false := by simp [isCurrent, Ne.symm h]
  simp [updateState, hc]

/-- A state report changes the state only for the current generation. -/
theorem updateState_state (m : Manager) (g : UInt64) (s : ConnectionState) :
    (m.updateState g s).2.state = m.state ∨ (g = m.generation ∧ (m.updateState g s).2.state = s) := by
  unfold updateState
  split
  · next h =>
    simp only [Bool.and_eq_true, isCurrent, decide_eq_true_eq] at h
    exact Or.inr ⟨h.1.symm, rfl⟩
  · exact Or.inl rfl

end Manager

/-- **The counter's successor is exact below the top of the word.** -/
theorem toNat_add_one_of_lt {g : UInt64} (h : g.toNat + 1 < 2 ^ 64) : (g + 1).toNat = g.toNat + 1 := by
  rw [UInt64.toNat_add, UInt64.toNat_one, Nat.mod_eq_of_lt h]

theorem map_generation_modify (tasks : List Task) (i : Nat) {f : Task → Task}
    (hf : ∀ t, (f t).generation = t.generation) :
    (tasks.modify i f).map Task.generation = tasks.map Task.generation := by
  induction tasks generalizing i with
  | nil => simp
  | cons t ts ih =>
    cases i with
    | zero => simp [hf]
    | succ i => simp [ih]

namespace Runtime

variable {r r' : Runtime} {n k : Nat}

/-! ## What one step does -/

/-- **The frame of a task's step and of the consumer's read**: a check, a send, a task's end and a
read change at most the manager's channel, never its state, counter or stored session, and no
task's generation. -/
theorem step_frame (r : Runtime) (a : Action) (hc : a.calls = 0) (hs : ∀ i s, a ≠ .setState i s) :
    (r.step a).manager.state = r.manager.state ∧
      (r.step a).manager.generation = r.manager.generation ∧
      (r.step a).manager.session = r.manager.session ∧
      (r.step a).tasks.map Task.generation = r.tasks.map Task.generation := by
  cases a with
  | connect | disconnect => simp [Action.calls] at hc
  | setState i s => exact absurd rfl (hs i s)
  | check i e =>
    simp only [step]
    split
    · split
      · exact ⟨rfl, rfl, rfl, map_generation_modify _ _ fun _ => rfl⟩
      · exact ⟨rfl, rfl, rfl, rfl⟩
    · exact ⟨rfl, rfl, rfl, rfl⟩
  | send i =>
    simp only [step]
    split
    · split
      · split
        · exact ⟨rfl, rfl, rfl, map_generation_modify _ _ fun _ => rfl⟩
        · exact ⟨rfl, rfl, rfl, rfl⟩
      · exact ⟨rfl, rfl, rfl, rfl⟩
    · exact ⟨rfl, rfl, rfl, rfl⟩
  | finish i => exact ⟨rfl, rfl, rfl, map_generation_modify _ _ fun _ => rfl⟩
  | receive =>
    simp only [step]
    split <;> exact ⟨rfl, rfl, rfl, rfl⟩

/-- **A state report** changes nothing, or only the manager, by the manager's own `updateState`
with the reporting task's generation. -/
theorem step_setState (r : Runtime) (i : Nat) (s : ConnectionState) :
    r.step (.setState i s) = r ∨ ∃ t, r.tasks[i]? = some t ∧
      r.step (.setState i s) = { r with manager := (r.manager.updateState t.generation s).2 } := by
  simp only [step]
  split
  · next t ht =>
    split
    · exact Or.inr ⟨t, ht, rfl⟩
    · exact Or.inl rfl
  · exact Or.inl rfl

/-- **What a step does to the generations.** A `connect` that starts a session advances the
counter by one and starts a task with the new value, and a `disconnect` advances the counter by
one; every other step keeps the counter, and no step but that `connect` changes the tasks'
generations. -/
theorem step_generations (r : Runtime) (a : Action) :
    ((r.step a).tasks.map Task.generation = r.tasks.map Task.generation ∧
      ((r.step a).manager.generation = r.manager.generation ∨
        (a = .disconnect ∧ (r.step a).manager.generation = r.manager.generation + 1))) ∨
    (a = .connect ∧ r.connects ∧
      (r.step a).manager.generation = r.manager.generation + 1 ∧
      (r.step a).tasks.map Task.generation = r.tasks.map Task.generation ++ [r.manager.generation + 1]) := by
  cases a with
  | connect =>
    cases hc : r.manager.connect with
    | error e => left; simp [step, hc]
    | ok m =>
      right
      have hg := Manager.generation_of_connect hc
      refine ⟨rfl, ⟨m, hc⟩, by simp [step, hc, hg], ?_⟩
      -- aborting the leftover task keeps its generation
      simp only [step, hc, List.map_append, List.map_map, List.map_cons, List.map_nil, hg]
      congr 1
      apply List.map_congr_left
      intro t _
      simp only [Function.comp]
      split <;> rfl
  | disconnect => exact Or.inl ⟨rfl, Or.inr ⟨rfl, Manager.disconnect_generation _⟩⟩
  | setState i s =>
    left
    rcases step_setState r i s with h | ⟨t, -, h⟩
    · rw [h]
      exact ⟨rfl, Or.inl rfl⟩
    · rw [h]
      exact ⟨rfl, Or.inl (Manager.updateState_generation _ _ _)⟩
  | check _ _ | send _ | finish _ | receive =>
    refine Or.inl ⟨(step_frame r _ ?_ ?_).2.2.2, Or.inl (step_frame r _ ?_ ?_).2.1⟩ <;> simp [Action.calls]

/-- **What a step does to the watched state.** It stays, or a `disconnect` closes it, or a task
of the current generation reports a state, or a `connect` starts a session. -/
theorem step_state (r : Runtime) (a : Action) :
    (r.step a).manager.state = r.manager.state ∨
    (a = .disconnect ∧ (r.step a).manager.state = .closed) ∨
    (∃ i t s, a = .setState i s ∧ r.tasks[i]? = some t ∧ t.generation = r.manager.generation) ∨
    (a = .connect ∧ r.connects) := by
  cases a with
  | connect =>
    cases hc : r.manager.connect with
    | error e => left; simp [step, hc]
    | ok m => right; right; right; exact ⟨rfl, m, hc⟩
  | disconnect => right; left; exact ⟨rfl, Manager.disconnect_state _⟩
  | setState i s =>
    rcases step_setState r i s with h | ⟨t, ht, h⟩
    · left
      rw [h]
    · rw [h]
      rcases Manager.updateState_state r.manager t.generation s with h' | ⟨hg, -⟩
      · exact Or.inl h'
      · exact Or.inr (Or.inr (Or.inl ⟨i, t, s, rfl, ht, hg⟩))
  | check _ _ | send _ | finish _ | receive =>
    refine Or.inl (step_frame r _ ?_ ?_).1 <;> simp [Action.calls]

/-- **What a step does to the stored session.** A `disconnect` clears it and a `connect` that
starts a session stores one; every other step keeps it. -/
theorem step_session (r : Runtime) (a : Action) :
    (a ≠ .disconnect ∧ ¬ (a = .connect ∧ r.connects) ∧
      (r.step a).manager.session = r.manager.session) ∨
    (a = .disconnect ∧ (r.step a).manager.session = none) ∨
    (a = .connect ∧ r.connects ∧ (r.step a).manager.session.isSome) := by
  cases a with
  | connect =>
    cases hc : r.manager.connect with
    | error e =>
      refine Or.inl ⟨nofun, fun ⟨_, m, hm⟩ => ?_, by simp [step, hc]⟩
      rw [hc] at hm
      cases hm
    | ok m =>
      refine Or.inr (Or.inr ⟨rfl, ⟨m, hc⟩, ?_⟩)
      simp [step, hc, Manager.session_of_connect hc]
  | disconnect => exact Or.inr (Or.inl ⟨rfl, Manager.disconnect_session _⟩)
  | setState i s =>
    refine Or.inl ⟨nofun, (fun h => nomatch h.1), ?_⟩
    rcases step_setState r i s with h | ⟨t, -, h⟩
    · rw [h]
    · rw [h]
      exact Manager.updateState_session _ _ _
  | check _ _ | send _ | finish _ | receive =>
    refine Or.inl ⟨nofun, (fun h => nomatch h.1), (step_frame r _ ?_ ?_).2.2.1⟩ <;> simp [Action.calls]

/-- **A state report by a task of an older generation changes nothing.** -/
theorem setState_stale {i : Nat} {t : Task} (ht : r.tasks[i]? = some t)
    (hg : t.generation ≠ r.manager.generation) (s : ConnectionState) :
    r.step (.setState i s) = r := by
  rcases step_setState r i s with h | ⟨t', ht', h⟩
  · exact h
  · obtain rfl : t' = t := Option.some.inj (ht'.symm.trans ht)
    rw [h, Manager.updateState_of_ne hg]

/-! ## Runs -/

theorem Steps.trans {r₁ r₂ r₃ : Runtime} {m : Nat} (h₁ : Steps r₁ n r₂) (h₂ : Steps r₂ m r₃) :
    Steps r₁ (n + m) r₃ := by
  induction h₂ with
  | refl => exact h₁
  | tail a _ ih =>
    rw [← Nat.add_assoc]
    exact .tail a ih

theorem Reachable.steps (h : Reachable n r) (hs : Steps r k r') : Reachable (n + k) r' := by
  obtain ⟨config, hr⟩ := h
  exact ⟨config, hr.trans hs⟩

theorem Reachable.step (h : Reachable n r) (a : Action) : Reachable (n + a.calls) (r.step a) := by
  simpa using h.steps (.tail a .refl)

/-! ## The tasks' generations -/

/-- **The generation invariant** of a run with `n` calls: the tasks' generations increase in the
order the tasks were started, none is past the counter, and the counter has not passed `n`. -/
structure Ordered (n : Nat) (r : Runtime) : Prop where
  increasing : (r.tasks.map Task.generation).Pairwise fun g g' => g.toNat < g'.toNat
  bounded : ∀ g ∈ r.tasks.map Task.generation, g.toNat ≤ r.manager.generation.toNat
  counted : r.manager.generation.toNat ≤ n

theorem ordered_create (config : ConnectConfig) : (create config).Ordered 0 where
  increasing := List.Pairwise.nil
  bounded := by simp [create]
  counted := by simp [create, Manager.create]

/-- Below the top of the word, the counter's advance adds one to its value. -/
theorem Ordered.counter_succ (h : r.Ordered n) (hn : n + 1 < 2 ^ 64) :
    (r.manager.generation + 1).toNat = r.manager.generation.toNat + 1 :=
  toNat_add_one_of_lt (by have := h.counted; omega)

/-- **The counter's value after a step**, in a run that stays below the top of the word: the
same, or one more after a call. -/
theorem Ordered.counter_step (h : r.Ordered n) (a : Action) (hn : n + a.calls < 2 ^ 64) :
    (r.step a).manager.generation.toNat = r.manager.generation.toNat ∨
      (a.calls = 1 ∧ (r.step a).manager.generation.toNat = r.manager.generation.toNat + 1) := by
  rcases step_generations r a with ⟨-, hg | ⟨rfl, hg⟩⟩ | ⟨rfl, -, hg, -⟩
  · exact Or.inl (by rw [hg])
  · exact Or.inr ⟨rfl, by rw [hg, h.counter_succ hn]⟩
  · exact Or.inr ⟨rfl, by rw [hg, h.counter_succ hn]⟩

theorem Ordered.step (h : r.Ordered n) (a : Action) (hn : n + a.calls < 2 ^ 64) :
    (r.step a).Ordered (n + a.calls) := by
  have hcount := h.counted
  have hcounter := h.counter_step a hn
  have hcounted : (r.step a).manager.generation.toNat ≤ n + a.calls := by
    rcases hcounter with hg | ⟨hc, hg⟩ <;> omega
  rcases step_generations r a with ⟨hts, -⟩ | ⟨rfl, -, hg, hts⟩
  · refine ⟨hts ▸ h.increasing, fun g hg' => ?_, hcounted⟩
    rw [hts] at hg'
    have := h.bounded g hg'
    rcases hcounter with hg | ⟨-, hg⟩ <;> omega
  · -- the new task's generation is the advanced counter, past every older one
    have hnew := h.counter_succ hn
    refine ⟨?_, fun g hg' => ?_, hcounted⟩
    · rw [hts, List.pairwise_append]
      refine ⟨h.increasing, List.pairwise_singleton _ _, fun g hg' g' hg'' => ?_⟩
      rw [List.mem_singleton] at hg''
      subst hg''
      have := h.bounded g hg'
      omega
    · rw [hts, List.mem_append, List.mem_singleton] at hg'
      rw [hg, hnew]
      rcases hg' with hg' | rfl
      · have := h.bounded g hg'
        omega
      · omega

/-- Over a run that stays below the top of the word, the invariant holds with the run's calls
added. -/
theorem Ordered.steps (h : r.Ordered n) (hs : Steps r k r') (hk : n + k < 2 ^ 64) :
    r'.Ordered (n + k) := by
  induction hs with
  | refl => exact h
  | tail a _ ih =>
    rw [← Nat.add_assoc] at hk ⊢
    exact (ih (by omega)).step a hk

theorem Reachable.ordered (h : Reachable n r) (hn : n < 2 ^ 64) : r.Ordered n := by
  obtain ⟨config, hr⟩ := h
  simpa using (ordered_create config).steps hr (by simpa using hn)

/-- **Only the newest task can hold the current generation**: every task started before it has
an older one. -/
theorem generation_ne_of_mem_dropLast (h : r.Ordered n) :
    ∀ t ∈ r.tasks.dropLast, t.generation ≠ r.manager.generation := by
  intro t ht
  obtain ⟨last, hlast⟩ : ∃ last, r.tasks.getLast? = some last := by
    cases hl : r.tasks.getLast? with
    | none => rw [List.getLast?_eq_none_iff] at hl; simp [hl] at ht
    | some last => exact ⟨last, rfl⟩
  have hsplit : r.tasks = r.tasks.dropLast ++ [last] := by
    rw [List.dropLast_append_getLast? _ hlast]
  have hinc := h.increasing
  rw [hsplit, List.map_append, List.pairwise_append] at hinc
  have hlt : t.generation.toNat < last.generation.toNat :=
    hinc.2.2 _ (List.mem_map_of_mem ht) _ (by simp)
  have hle : last.generation.toNat ≤ r.manager.generation.toNat :=
    h.bounded _ (List.mem_map_of_mem (List.mem_of_getLast? hlast))
  intro heq
  rw [heq] at hlt
  omega

/-! ## After `disconnect` -/

/-- **Nothing can change the state any more**: it is `closed`, and every task is of an older
generation than the counter. -/
structure Quiet (r : Runtime) : Prop where
  closed : r.manager.state = .closed
  stale : ∀ g ∈ r.tasks.map Task.generation, g.toNat < r.manager.generation.toNat

theorem quiet_create (config : ConnectConfig) : (create config).Quiet where
  closed := rfl
  stale := by simp [create]

/-- `disconnect` closes the state and, below the top of the word, makes every task stale. -/
theorem Ordered.quiet_disconnect (h : r.Ordered n) (hn : n + 1 < 2 ^ 64) :
    (r.step .disconnect).Quiet where
  closed := Manager.disconnect_state _
  stale := by
    intro g hg
    have := h.bounded g hg
    show g.toNat < r.manager.disconnect.2.generation.toNat
    rw [Manager.disconnect_generation, h.counter_succ hn]
    omega

/-- **A step that is no call keeps the runtime quiet**, and so does a refused `connect`: the
counter stays, and a state report is by a stale task, so it changes nothing. -/
theorem Quiet.step (hq : r.Quiet) (a : Action) (hd : a ≠ .disconnect)
    (hna : ¬ (a = .connect ∧ r.connects)) : (r.step a).Quiet := by
  obtain ⟨hts, hg⟩ : (r.step a).tasks.map Task.generation = r.tasks.map Task.generation ∧
      (r.step a).manager.generation = r.manager.generation := by
    rcases step_generations r a with ⟨hts, hg | ⟨ha, -⟩⟩ | ⟨ha, hc, -⟩
    · exact ⟨hts, hg⟩
    · exact absurd ha hd
    · exact absurd ⟨ha, hc⟩ hna
  constructor
  · rcases step_state r a with h | ⟨ha, -⟩ | ⟨i, t, s, rfl, ht, hg'⟩ | hc
    · exact h.trans hq.closed
    · exact absurd ha hd
    · -- the reporting task is stale, so its report cannot have changed the state
      have := hq.stale _ (List.mem_map_of_mem (List.mem_of_getElem? ht))
      rw [hg'] at this
      omega
    · exact absurd hc hna
  · intro g hg'
    rw [hts] at hg'
    rw [hg]
    exact hq.stale g hg'

/-- **With no session stored, the runtime is quiet**, kept by one step of a run below the top of
the word: a `disconnect` makes it quiet, a `connect` that starts a session stores one, and any
other step keeps the session and the quiet. -/
theorem Ordered.quiet_step (h : r.Ordered n) (hq : r.manager.session = none → r.Quiet)
    (a : Action) (hn : n + a.calls < 2 ^ 64) :
    (r.step a).manager.session = none → (r.step a).Quiet := by
  intro hs
  rcases step_session r a with ⟨hd, hna, hkeep⟩ | ⟨rfl, -⟩ | ⟨-, -, hsome⟩
  · exact (hq (hkeep ▸ hs)).step a hd hna
  · exact h.quiet_disconnect hn
  · rw [hs] at hsome
    cases hsome

theorem Reachable.quiet (h : Reachable n r) (hn : n < 2 ^ 64) (hs : r.manager.session = none) :
    r.Quiet := by
  obtain ⟨config, hr⟩ := h
  -- the run from the fresh manager carries both invariants
  have key : ∀ {k : Nat} {r' : Runtime}, Steps (create config) k r' → k < 2 ^ 64 →
      r'.Ordered k ∧ (r'.manager.session = none → r'.Quiet) := by
    intro k r' hsteps
    induction hsteps with
    | refl => exact fun _ => ⟨ordered_create config, fun _ => quiet_create config⟩
    | tail a _ ih =>
      intro hk
      obtain ⟨ho, hq⟩ := ih (by omega)
      exact ⟨ho.step a hk, ho.quiet_step hq a hk⟩
  exact (key hr hn).2 hs

/-- Steps that start no session keep a runtime without a stored session without one. -/
theorem session_of_steps (h : Relation.ReflTransGen StepWithoutConnect r r')
    (hs : r.manager.session = none) : r'.manager.session = none := by
  induction h with
  | refl => exact hs
  | tail _ hstep ih =>
    obtain ⟨a, rfl, hna⟩ := hstep
    rcases step_session _ a with ⟨-, -, hkeep⟩ | ⟨-, hnone⟩ | ⟨ha, hc, -⟩
    · rw [hkeep]
      exact ih
    · exact hnone
    · exact absurd ⟨ha, hc⟩ hna

/-- **Generations keep stale sessions out of the watched state.** A state report by a session
whose generation is not the counter leaves the state as it is; in a run of fewer than `2 ^ 64`
calls of `connect` and `disconnect`, among the started sessions only the most recently started
one can hold the current generation, and from the return of `disconnect` until a `connect` starts
a session again the state stays `closed`, under every interleaving of every session's steps. -/
theorem stale_sessions_leave_state_alone :
    (∀ (r : Runtime) (i : Nat) (t : Task) (s : ConnectionState), r.tasks[i]? = some t →
      t.generation ≠ r.manager.generation →
      (r.step (.setState i s)).manager.state = r.manager.state) ∧
    (∀ (n : Nat) (r : Runtime), Reachable n r → n < 2 ^ 64 →
      ∀ t ∈ r.tasks.dropLast, t.generation ≠ r.manager.generation) ∧
    (∀ r r' : Runtime, Relation.ReflTransGen StepWithoutConnect (r.step .disconnect) r' →
      ∀ n, Reachable n r' → n < 2 ^ 64 → r'.manager.state = .closed) := by
  refine ⟨fun r i t s ht hg => ?_, fun n r hr hn => ?_, fun r r' hsteps n hr' hn => ?_⟩
  · rw [setState_stale ht hg]
  · exact generation_ne_of_mem_dropLast (hr.ordered hn)
  · have hs : r'.manager.session = none :=
      session_of_steps hsteps (Manager.disconnect_session r.manager)
    exact (hr'.quiet hn hs).closed

/-- A session of generation 1 reports `connected` to a manager at generation 2, and a session
started, then disconnected, reports `connected` too: neither report moves the state. -/
theorem stale_reports_after_disconnect :
    ((⟨{ config := {}, generation := 2 }, [{ generation := 1 }], []⟩ : Runtime).tasks[0]? =
        some { generation := 1 } ∧ (1 : UInt64) ≠ 2 ∧
      ((⟨{ config := {}, generation := 2 }, [{ generation := 1 }], []⟩ : Runtime).step
        (.setState 0 .connected)).manager.state = .closed) ∧
    (Reachable 1 ((create {}).step .connect) ∧ 1 < 2 ^ 64 ∧
      ∀ t ∈ ((create {}).step .connect).tasks.dropLast,
        t.generation ≠ ((create {}).step .connect).manager.generation) ∧
    Relation.ReflTransGen StepWithoutConnect (((create {}).step .connect).step .disconnect)
      ((((create {}).step .connect).step .disconnect).step (.setState 0 .connected)) ∧
    Reachable 2 ((((create {}).step .connect).step .disconnect).step (.setState 0 .connected)) ∧
    2 < 2 ^ 64 ∧
    ((((create {}).step .connect).step .disconnect).step (.setState 0 .connected)).manager.state =
      .closed :=
  have hr : Reachable 1 ((create {}).step .connect) := ⟨{}, .tail .connect .refl⟩
  have hs : Relation.ReflTransGen StepWithoutConnect (((create {}).step .connect).step .disconnect)
      ((((create {}).step .connect).step .disconnect).step (.setState 0 .connected)) :=
    .single ⟨_, rfl, fun h => nomatch h.1⟩
  have hr' : Reachable 2
      ((((create {}).step .connect).step .disconnect).step (.setState 0 .connected)) :=
    ⟨{}, .tail (.setState 0 .connected) (.tail .disconnect (.tail .connect .refl))⟩
  ⟨⟨rfl, by decide, stale_sessions_leave_state_alone.1 _ 0 _ .connected rfl (by decide)⟩,
    ⟨hr, by norm_num, stale_sessions_leave_state_alone.2.1 1 _ hr (by norm_num)⟩, hs, hr',
    by norm_num, stale_sessions_leave_state_alone.2.2 _ _ hs 2 hr' (by norm_num)⟩

end Runtime

end StompConsole.Client
