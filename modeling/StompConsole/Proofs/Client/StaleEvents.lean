import Mathlib
import StompConsole.Proofs.Client.Connect

/-!
# What a session can still send once it is stale

A session reports an event in two steps: it checks that its generation is current, then sends the
event into the channel, waiting while the channel is full. A `connect` or `disconnect` may run
between the two. So a session can put one event into the channel after its generation stopped
being current: the one whose check it had already passed. This file proves that this is all it
can do, over every interleaving of the runtime:

* a step keeps a task's place and generation, and changes the event it holds only by its own
  check, which a stale task fails (`step_task`);
* so, over a run of fewer than `2 ^ 64` calls of `connect` and `disconnect`, in which the counter
  only grows, a stale task holds at most the event it held when it went stale, and once it holds
  none it holds none for good (`StaleHolding.steps`), while its state reports and checks change
  nothing;
* its send is then either nothing, or exactly that event, once
  (`stale_task_sends_only_its_checked_event`).

It also shows the event that gets through: after `disconnect`, the consumer reads the stale
`stateChanged connected` of the closed session behind the disconnect's `stateChanged closed`
(`stale_announcement_after_closed`). A `connect` that aborts a leftover task lets its checked
event through in the same way, behind the new session's `stateChanged pending`.
-/

namespace StompConsole.Client

namespace Runtime

variable {r r' : Runtime} {i n k : Nat} {t : Task}

/-- **Task `i` is stale and holds `held`**: its generation is behind the counter, and `held` is
the event that passed its generation check earlier and still waits to enter the channel. -/
def StaleHolding (i : Nat) (held : Option Event) (r : Runtime) : Prop :=
  ∃ t, r.tasks[i]? = some t ∧ t.generation.toNat < r.manager.generation.toNat ∧ t.outgoing = held

/-! ## What one step does to one task -/

/-- In a run below the top of the word, no step moves the counter back. -/
theorem Ordered.generation_le_step (h : r.Ordered n) (a : Action) (hn : n + a.calls < 2 ^ 64) :
    r.manager.generation.toNat ≤ (r.step a).manager.generation.toNat := by
  rcases h.counter_step a hn with hg | ⟨-, hg⟩ <;> omega

/-- Changing one task leaves the others where they were. -/
theorem getElem?_modify_of_ne {f : Task → Task} {j : Nat} (tasks : List Task) (h : j ≠ i) :
    (tasks.modify j f)[i]? = tasks[i]? :=
  List.getElem?_modify_ne f tasks h

theorem getElem?_modify_self {f : Task → Task} (tasks : List Task) (ht : tasks[i]? = some t) :
    (tasks.modify i f)[i]? = some (f t) := by
  simp [List.getElem?_modify_eq, ht]

/-- **What a step does to one task.** The task keeps its place and its generation. The event it
holds stays (an abort keeps it too), is dropped (it was sent, or the task ended), or is set by the
task's own check, which only a task of the current generation passes. -/
theorem step_task (r : Runtime) (a : Action) (ht : r.tasks[i]? = some t) :
    ∃ t', (r.step a).tasks[i]? = some t' ∧ t'.generation = t.generation ∧
      (t'.outgoing = t.outgoing ∨ t'.outgoing = none ∨
        ∃ e, a = .check i e ∧ t.generation = r.manager.generation ∧ t'.outgoing = some e) := by
  have keep : ∃ t', r.tasks[i]? = some t' ∧ t'.generation = t.generation ∧
      (t'.outgoing = t.outgoing ∨ t'.outgoing = none ∨
        ∃ e, a = .check i e ∧ t.generation = r.manager.generation ∧ t'.outgoing = some e) :=
    ⟨t, ht, rfl, Or.inl rfl⟩
  -- a change of task `j`: the task itself when `j = i`, none of its business otherwise
  have modified : ∀ (j : Nat) (f : Task → Task), (f t).generation = t.generation →
      ((f t).outgoing = t.outgoing ∨ (f t).outgoing = none ∨
        ∃ e, a = .check i e ∧ t.generation = r.manager.generation ∧ (f t).outgoing = some e) →
      ∃ t', (r.tasks.modify j f)[i]? = some t' ∧ t'.generation = t.generation ∧
        (t'.outgoing = t.outgoing ∨ t'.outgoing = none ∨
          ∃ e, a = .check i e ∧ t.generation = r.manager.generation ∧ t'.outgoing = some e) := by
    intro j f hg ho
    by_cases hj : j = i
    · subst hj
      exact ⟨f t, getElem?_modify_self _ ht, hg, ho⟩
    · exact ⟨t, by rw [getElem?_modify_of_ne _ hj, ht], rfl, Or.inl rfl⟩
  cases a with
  | connect =>
    cases hc : r.manager.connect with
    | error e => simpa [step, hc] using keep
    | ok m =>
      -- the leftover session's task is aborted and keeps its event; the new task goes after every
      -- old one
      have hlt : i < r.tasks.length := (List.getElem?_eq_some_iff.1 ht).1
      simp only [step, hc]
      rw [List.getElem?_append_left (by simpa using hlt), List.getElem?_map, ht, Option.map_some]
      refine ⟨_, rfl, ?_, ?_⟩ <;> split <;> simp
  | disconnect => simpa [step] using keep
  | setState j s =>
    rcases step_setState r j s with h | ⟨_, -, h⟩ <;> rw [h] <;> exact keep
  | check j e =>
    simp only [step]
    split
    · next t₀ ht₀ =>
      split
      · next hguard =>
        by_cases hj : j = i
        · -- the task's own check: it passed, so its generation is current
          subst hj
          obtain rfl : t₀ = t := Option.some.inj (ht₀.symm.trans ht)
          simp only [Bool.and_eq_true, Manager.isCurrent, decide_eq_true_eq] at hguard
          exact ⟨_, getElem?_modify_self _ ht, rfl, Or.inr (Or.inr ⟨e, rfl, hguard.2.symm, rfl⟩)⟩
        · exact ⟨t, by rw [getElem?_modify_of_ne _ hj, ht], rfl, Or.inl rfl⟩
      · exact keep
    · exact keep
  | send j =>
    simp only [step]
    split
    · split
      · split
        · exact modified j _ rfl (Or.inr (Or.inl rfl))
        · exact keep
      · exact keep
    · exact keep
  | finish j => exact modified j _ rfl (Or.inr (Or.inl rfl))
  | receive =>
    simp only [step]
    split <;> exact keep

/-! ## A stale task -/

/-- **A stale task passes no generation check.** -/
theorem step_check_of_stale (ht : r.tasks[i]? = some t) (hs : t.generation ≠ r.manager.generation)
    (e : Event) : r.step (.check i e) = r := by
  have hc : r.manager.isCurrent t.generation = false := by
    simp [Manager.isCurrent, Ne.symm hs]
  simp [step, ht, hc]

/-- A task that holds no event sends nothing. -/
theorem step_send_of_none (ht : r.tasks[i]? = some t) (ho : t.outgoing = none) :
    r.step (.send i) = r := by
  simp [step, ht, ho]

/-- A task that holds `e` either cannot send yet, or puts exactly `e` into the channel and holds
nothing any more. -/
theorem step_send_of_some {e : Event} (ht : r.tasks[i]? = some t) (ho : t.outgoing = some e) :
    r.step (.send i) = r ∨
      r.step (.send i) =
        { r with
          manager := { r.manager with events := r.manager.events ++ [e] }
          tasks := r.tasks.modify i (fun t => { t with outgoing := none }) } := by
  simp only [step, ht, ho]
  split
  · exact Or.inr rfl
  · exact Or.inl rfl

theorem StaleHolding.stale {held : Option Event} (h : r.StaleHolding i held) :
    ∃ t, r.tasks[i]? = some t ∧ t.generation ≠ r.manager.generation := by
  obtain ⟨t, ht, hlt, -⟩ := h
  refine ⟨t, ht, fun heq => ?_⟩
  rw [heq] at hlt
  omega

/-- **A stale task keeps the event it holds, or drops it**: it can never hold a new one, as long
as the counter does not wrap. -/
theorem StaleHolding.step {held : Option Event} (h : r.StaleHolding i held) (ho : r.Ordered n)
    (a : Action) (hn : n + a.calls < 2 ^ 64) :
    (r.step a).StaleHolding i held ∨ (r.step a).StaleHolding i none := by
  obtain ⟨t, ht, hlt, rfl⟩ := h
  have hle := ho.generation_le_step a hn
  obtain ⟨t', ht', hg, ho' | ho' | ⟨e, -, hcur, -⟩⟩ := step_task r a ht
  · exact Or.inl ⟨t', ht', by rw [hg]; omega, ho'⟩
  · exact Or.inr ⟨t', ht', by rw [hg]; omega, ho'⟩
  · -- its own check would need its generation to be current
    rw [hcur] at hlt
    omega

/-- Over any later run below the top of the word, a stale task holds what it held, or
nothing. -/
theorem StaleHolding.steps {held : Option Event} (h : r.StaleHolding i held) (ho : r.Ordered n)
    (hsteps : Steps r k r') (hk : n + k < 2 ^ 64) :
    r'.StaleHolding i held ∨ r'.StaleHolding i none := by
  induction hsteps with
  | refl => exact Or.inl h
  | tail a hrun ih =>
    rw [← Nat.add_assoc] at hk
    have hord := ho.steps hrun (by omega)
    rcases ih (by omega) with ih | ih
    · exact ih.step hord a hk
    · exact Or.inr ((ih.step hord a hk).elim id id)

theorem StaleHolding.steps_none (h : r.StaleHolding i none) (ho : r.Ordered n)
    (hsteps : Steps r k r') (hk : n + k < 2 ^ 64) : r'.StaleHolding i none :=
  (h.steps ho hsteps hk).elim id id

/-- A task whose generation is not the counter is behind it. -/
theorem staleHolding_of_ne (ho : r.Ordered n) (ht : r.tasks[i]? = some t)
    (hs : t.generation ≠ r.manager.generation) : r.StaleHolding i t.outgoing := by
  have hle : t.generation.toNat ≤ r.manager.generation.toNat :=
    ho.bounded _ (List.mem_map_of_mem (List.mem_of_getElem? ht))
  have hne : t.generation.toNat ≠ r.manager.generation.toNat := fun h => hs (UInt64.toNat_inj.1 h)
  exact ⟨t, ht, by omega, rfl⟩

/-! ## A session that checked an event before `disconnect` -/

/-- **The first `connect`** of a runtime whose endpoint URL is valid: the manager goes pending at
generation 1 and announces it, and the task of generation 1 starts. -/
theorem create_step_connect {c : ConnectConfig} {u : Url.Record} (hu : c.endpointUrl = .ok u) :
    (create c).step .connect =
      ⟨{ config := c, state := .pending, generation := 1, session := some 1,
         events := [.stateChanged .pending] }, [{ generation := 1 }], []⟩ := by
  have hc : (Manager.create c).connect =
      .ok { config := c, state := .pending, generation := 1, session := some 1,
            events := [.stateChanged .pending] } := by
    rw [(Manager.create c).connect_of_endpointUrl_ok rfl hu]
    rfl
  simp [step, create, hc]

/-- The first session of the default configuration sets the state `connected` and passes the
check of its announcement; then `disconnect` runs. The task still holds the announcement, one
generation behind the counter, and the channel holds `pending` and `closed`. -/
theorem checked_then_disconnected :
    ((((create {}).step .connect).step (.setState 0 .connected)).step
      (.check 0 (.stateChanged .connected))).step .disconnect =
      ⟨{ config := {}, state := .closed, generation := 2, session := none,
         events := [.stateChanged .pending, .stateChanged .closed] },
       [⟨1, some (.stateChanged .connected), true⟩], []⟩ := by
  obtain ⟨u, hu⟩ := exists_eq_ok_of_toBool (x := ({} : ConnectConfig).endpointUrl) (by decide +kernel)
  rw [create_step_connect hu]
  rfl

theorem checked_then_disconnected_reachable :
    Reachable 2 (((((create {}).step .connect).step (.setState 0 .connected)).step
      (.check 0 (.stateChanged .connected))).step .disconnect) :=
  ⟨{}, .tail .disconnect (.tail (.check 0 (.stateChanged .connected))
    (.tail (.setState 0 .connected) (.tail .connect .refl)))⟩

/-- **What a session can still do once its generation is not current.** Take any runtime that a
run reaches where task `i` is stale, and any later runtime, the whole run having fewer than
`2 ^ 64` calls of `connect` and `disconnect`. There the task's state reports and generation
checks change nothing, and its send changes nothing either, except that it may put into the
channel the one event it already held when it went stale: after that, none of its sends changes
anything again. -/
theorem stale_task_sends_only_its_checked_event :
    ∀ (n : Nat) (r : Runtime), Reachable n r → ∀ (i : Nat) (t : Task), r.tasks[i]? = some t →
      t.generation ≠ r.manager.generation → ∀ k r₁, Steps r k r₁ → n + k < 2 ^ 64 →
      (∀ s, r₁.step (.setState i s) = r₁) ∧ (∀ e, r₁.step (.check i e) = r₁) ∧
      (r₁.step (.send i) = r₁ ∨
        ∃ e, t.outgoing = some e ∧
          (r₁.step (.send i)).manager.events = r₁.manager.events ++ [e] ∧
          ∀ k₂ r₂, Steps (r₁.step (.send i)) k₂ r₂ → n + k + k₂ < 2 ^ 64 →
            r₂.step (.send i) = r₂) := by
  intro n r hr i t ht hs k r₁ hsteps hk
  have hord := hr.ordered (by omega)
  have hheld := (staleHolding_of_ne hord ht hs).steps hord hsteps hk
  obtain ⟨t₁, ht₁, hs₁⟩ := hheld.elim StaleHolding.stale StaleHolding.stale
  refine ⟨setState_stale ht₁ hs₁, step_check_of_stale ht₁ hs₁, ?_⟩
  rcases hheld with ⟨t₂, ht₂, hlt, ho⟩ | ⟨t₂, ht₂, -, ho⟩
  · cases hto : t.outgoing with
    | none => exact Or.inl (step_send_of_none ht₂ (ho.trans hto))
    | some e =>
      rcases step_send_of_some ht₂ (ho.trans hto) with hsend | hsend
      · exact Or.inl hsend
      · -- the held event went out: the task now holds nothing, for good
        have hnone : (r₁.step (.send i)).StaleHolding i none := by
          rw [hsend]
          exact ⟨{ t₂ with outgoing := none }, getElem?_modify_self _ ht₂, hlt, rfl⟩
        -- a send is no call, so the run up to it still has `n + k` calls
        have hord₁ : (r₁.step (.send i)).Ordered (n + k) :=
          (hord.steps hsteps hk).step (.send i) hk
        refine Or.inr ⟨e, rfl, by rw [hsend], fun k₂ r₂ h₂ hk₂ => ?_⟩
        obtain ⟨t₃, ht₃, -, ho₃⟩ := hnone.steps_none hord₁ h₂ hk₂
        exact step_send_of_none ht₃ ho₃
  · exact Or.inl (step_send_of_none ht₂ ho)

/-- The task of the first session, stale after `disconnect` while it holds its checked
announcement: its next send puts exactly that announcement into the channel. -/
theorem stale_task_after_disconnect :
    let r := ((((create {}).step .connect).step (.setState 0 .connected)).step
      (.check 0 (.stateChanged .connected))).step .disconnect
    Reachable 2 r ∧ r.tasks[0]? = some ⟨1, some (.stateChanged .connected), true⟩ ∧
      (1 : UInt64) ≠ r.manager.generation ∧ Steps r 0 r ∧ 2 + 0 < 2 ^ 64 ∧
      (∀ s, r.step (.setState 0 s) = r) ∧ (∀ e, r.step (.check 0 e) = r) ∧
      (r.step (.send 0) = r ∨
        ∃ e, some (Event.stateChanged .connected) = some e ∧
          (r.step (.send 0)).manager.events = r.manager.events ++ [e] ∧
          ∀ k₂ r₂, Steps (r.step (.send 0)) k₂ r₂ → 2 + 0 + k₂ < 2 ^ 64 →
            r₂.step (.send 0) = r₂) := by
  intro r
  have hr : r = _ := checked_then_disconnected
  have ht : r.tasks[0]? = some ⟨1, some (.stateChanged .connected), true⟩ := by
    rw [hr]
    rfl
  have hs : (1 : UInt64) ≠ r.manager.generation := by
    rw [hr]
    decide
  exact ⟨checked_then_disconnected_reachable, ht, hs, .refl, by norm_num,
    stale_task_sends_only_its_checked_event 2 r checked_then_disconnected_reachable 0 _ ht hs 0 r
      .refl (by norm_num)⟩

/-! ## The event that gets through -/

/-- **A stale state change reaches the consumer after `closed`.** The task of the first session
sets the state `connected` and passes the check of its announcement; `disconnect` runs before the
announcement enters the channel. The task is now stale, yet its send still goes through, and the
consumer reads `stateChanged pending`, the disconnect's `stateChanged closed`, and then the
closed session's `stateChanged connected`. -/
theorem stale_announcement_after_closed :
    ¬ (∀ (n : Nat) (r : Runtime), Reachable n r → n < 2 ^ 64 → ∀ (i : Nat) (t : Task),
        r.tasks[i]? = some t → t.generation ≠ r.manager.generation →
        (r.step (.send i)).manager.events = r.manager.events) ∧
    (((((((((create {}).step .connect).step (.setState 0 .connected)).step
        (.check 0 (.stateChanged .connected))).step .disconnect).step (.send 0)).step .receive).step
        .receive).step .receive).received =
      [.stateChanged .pending, .stateChanged .closed, .stateChanged .connected] := by
  constructor
  · intro hclaim
    have hsend := hclaim 2 _ checked_then_disconnected_reachable (by norm_num) 0
      ⟨1, some (.stateChanged .connected), true⟩ (by rw [checked_then_disconnected]; rfl)
      (by rw [checked_then_disconnected]; decide)
    rw [checked_then_disconnected] at hsend
    simp [step, eventCapacity] at hsend
  · rw [checked_then_disconnected]
    rfl

/-- The abort of a leftover task lets its checked event through too: the first session reports
`failed` and passes the check of its announcement, the next `connect` aborts it and announces
`pending`, and the aborted task's send then puts `failed` behind that. -/
example : (((((((((create {}).step .connect).step (.setState 0 .failed)).step
      (.check 0 (.stateChanged .failed))).step .connect).step (.send 0)).step .receive).step
      .receive).step .receive).received =
    [.stateChanged .pending, .stateChanged .pending, .stateChanged .failed] := by
  obtain ⟨u, hu⟩ := exists_eq_ok_of_toBool (x := ({} : ConnectConfig).endpointUrl) (by decide +kernel)
  rw [create_step_connect hu]
  have hc := Manager.connect_of_endpointUrl_ok
    { config := {}, state := .failed, generation := 1, session := some 1,
      events := [.stateChanged .pending] } rfl hu
  simp [step, idle, Manager.updateState, Manager.isCurrent, hc, eventCapacity]

end Runtime

end StompConsole.Client
