import Mathlib
import StompConsole.Console.App
import StompConsole.Proofs.Client.Controls
import StompConsole.Proofs.Console.Alerts

/-!
# What a key press can do

A key acts only when pressed, and `Ctrl+C` always quits. An alert on screen blocks every other
key but `Esc` and `Enter`, which acknowledge it. Otherwise a key quits, moves the focus, or presses
a button, and a disabled button ignores the press.

The buttons never disagree with the session state (`Client.Controller.ControlsInStep`, kept by
every input the console takes), so a press of the connect button reaches `connect` only when no
session is active, and one of the disconnect button reaches `disconnect` only when one is. In
particular no key press is ever refused as "already active" (`KeyEffect`, and the main statement
`keys_respect_alerts_and_buttons`).
-/

namespace StompConsole.Console

open Client

/-! ## The console's inputs -/

/-- One input of the console: a key, an event, a direct connect or disconnect, an acknowledged
alert, or every waiting event handled. -/
inductive Input where
  | key (k : Key)
  | event (e : Event)
  | connect
  | disconnect
  | dismiss
  | pump

namespace App

variable {a : App}

/-- The console after an input. -/
def feed (a : App) : Input → App
  | .key k => a.handleKey k
  | .event e => a.handleEvent e
  | .connect => a.connect.2
  | .disconnect => a.disconnect
  | .dismiss => a.withScreen fun s => s.dismissAlert.2
  | .pump => a.pump

/-- The consoles that some sequence of inputs leads to from a new one. -/
inductive Reachable : App → Prop
  | create (config : ConnectConfig) : Reachable (create config)
  | feed {a : App} (i : Input) : Reachable a → Reachable (a.feed i)

/-- The console's result of `connect` is its controller's. -/
theorem connect_fst (a : App) : a.connect.1 = a.controller.connect.1 := by
  unfold App.connect
  split
  next r c heq =>
    rw [heq]
    split <;> rfl

/-! ## Pressing a button -/

/-- **The connect button** connects exactly when no session is active. -/
theorem activate_connect (h : a.controller.ControlsInStep) :
    a.activate .connect = if a.state.isActive then a else ({ a with focus := .connect }.connect).2 := by
  unfold activate
  rw [h]
  cases hb : a.controller.manager.state.isActive <;> simp [App.state, hb]

/-- **The disconnect button** disconnects exactly when a session is active. -/
theorem activate_disconnect (h : a.controller.ControlsInStep) :
    a.activate .disconnect = if a.state.isActive then { a with focus := .disconnect }.disconnect
      else a := by
  unfold activate
  rw [h]
  cases hb : a.controller.manager.state.isActive <;> simp [App.state, hb]

/-- **What a key press may do** once no alert is shown: nothing, quit, move the focus, connect
while no session is active (and then never be refused as already active), or disconnect while
one is. -/
inductive KeyEffect (a : App) : App → Prop
  | nothing : KeyEffect a a
  | quit : KeyEffect a { a with shouldQuit := true }
  | moveFocus : KeyEffect a { a with focus := a.focus.toggle }
  | connect : (a.state = .closed ∨ a.state = .failed) →
      (∀ s, ({ a with focus := .connect }.connect).1 ≠ .error (.alreadyActive s)) →
      KeyEffect a ({ a with focus := .connect }.connect).2
  | disconnect : (a.state = .pending ∨ a.state = .connected) →
      KeyEffect a { a with focus := .disconnect }.disconnect

/-- A connect with no session active is never refused as already active. -/
theorem connect_ne_alreadyActive (ha : a.state.isActive = false) (s : ConnectionState) :
    a.connect.1 ≠ .error (.alreadyActive s) := by
  intro hr
  rw [connect_fst] at hr
  rcases Manager.connect_eq_error (Controller.connect_fst_eq_error hr) with ⟨hact, -⟩ | ⟨-, t, ht⟩
  · exact absurd (hact.symm.trans ha) (by decide)
  · cases ht

theorem keyEffect_activate (h : a.controller.ControlsInStep) (t : Focus) :
    KeyEffect a (a.activate t) := by
  cases t with
  | connect =>
    rw [activate_connect h]
    cases hs : a.state.isActive with
    | true => exact .nothing
    | false =>
      exact .connect (ConnectionState.isActive_eq_false_iff.1 hs)
        (connect_ne_alreadyActive (a := { a with focus := .connect }) hs)
  | disconnect =>
    rw [activate_disconnect h]
    cases hs : a.state.isActive with
    | true => exact .disconnect (ConnectionState.isActive_eq_true_iff.1 hs)
    | false => exact .nothing

/-! ## Handling a key -/

section Keys

variable {k : Key}

/-- A key that is not `Ctrl+C`, as the handler tests it. -/
theorem ctrl_c_eq_false (hc : ¬(k.control = true ∧ k.code = .char 'c')) :
    (k.control && decide (k.code = .char 'c')) = false := by
  simpa using hc

theorem handleKey_of_not_press (hk : k.kind ≠ .press) : a.handleKey k = a := by
  simp [handleKey, hk]

theorem handleKey_of_ctrl_c (hk : k.kind = .press) (hc : k.control = true)
    (hcode : k.code = .char 'c') : a.handleKey k = { a with shouldQuit := true } := by
  simp [handleKey, hk, hc, hcode]

/-- **While an alert is shown**, `Esc` and `Enter` take it off and every other key does
nothing. -/
theorem handleKey_of_alert (hk : k.kind = .press) (hc : ¬(k.control = true ∧ k.code = .char 'c'))
    (hal : a.screen.currentAlert.isSome = true) :
    a.handleKey k = if k.code = .esc ∨ k.code = .enter then
      a.withScreen (fun s => { s with alerts := s.alerts.tail }) else a := by
  simp only [handleKey, hk, ctrl_c_eq_false hc, hal, Screen.dismissAlert_snd]
  simp

/-- **Without an alert**, a key press has one of the effects of `KeyEffect`. -/
theorem keyEffect_handleKey (h : a.controller.ControlsInStep) (hk : k.kind = .press)
    (hc : ¬(k.control = true ∧ k.code = .char 'c')) (hal : a.screen.currentAlert = none) :
    KeyEffect a (a.handleKey k) := by
  simp only [handleKey, hk, ctrl_c_eq_false hc, hal]
  simp only [bne_self_eq_false, Bool.false_eq_true, if_false, Option.isSome_none]
  split
  · exact .quit
  · exact keyEffect_activate h .connect
  · exact keyEffect_activate h .disconnect
  -- `Tab`, `BackTab`, `Left` and `Right` move the focus
  · exact .moveFocus
  · exact .moveFocus
  · exact .moveFocus
  · exact .moveFocus
  -- `Enter` and space press the focused button
  · exact keyEffect_activate h a.focus
  · exact keyEffect_activate h a.focus
  · exact .nothing

end Keys

/-! ## The buttons stay in step -/

/-- The console's controller after its own `connect`: the controller's, with a line logged. -/
theorem connect_controller (a : App) :
    ∃ p, a.connect.2.controller = { a.controller.connect.2 with presenter := p } := by
  unfold App.connect
  split
  next r c heq =>
    rw [heq]
    split <;> exact ⟨_, rfl⟩

theorem disconnect_controller (a : App) :
    ∃ p, a.disconnect.controller = { a.controller.disconnect.2 with presenter := p } :=
  ⟨_, rfl⟩

theorem controlsInStep_connect (h : a.controller.ControlsInStep) :
    a.connect.2.controller.ControlsInStep := by
  obtain ⟨p, hp⟩ := connect_controller a
  rw [hp]
  exact h.connect

theorem controlsInStep_disconnect (h : a.controller.ControlsInStep) :
    a.disconnect.controller.ControlsInStep := by
  obtain ⟨p, hp⟩ := disconnect_controller a
  rw [hp]
  exact h.disconnect

theorem KeyEffect.controlsInStep {a' : App} (h : a.controller.ControlsInStep) :
    KeyEffect a a' → a'.controller.ControlsInStep
  | .nothing => h
  | .quit => h
  | .moveFocus => h
  | .connect _ _ => controlsInStep_connect (a := { a with focus := .connect }) h
  | .disconnect _ => controlsInStep_disconnect (a := { a with focus := .disconnect }) h

/-- Handling an event changes the controller as the controller's own handling does, and at most
logs a line. -/
theorem handleEvent_controller (a : App) (e : Event) :
    ∃ p, (a.handleEvent e).controller = { a.controller.handleEvent e with presenter := p } := by
  unfold App.handleEvent
  split
  · dsimp only
    split <;> exact ⟨_, rfl⟩
  · exact ⟨_, rfl⟩

theorem controlsInStep_handleEvent (h : a.controller.ControlsInStep) (e : Event) :
    (a.handleEvent e).controller.ControlsInStep := by
  obtain ⟨p, hp⟩ := handleEvent_controller a e
  rw [hp]
  exact h.handleEvent e

/-- Handling events one after another keeps the buttons in step; the induction follows the
events. -/
theorem controlsInStep_foldl_handleEvent (es : List Event) (h : a.controller.ControlsInStep) :
    (es.foldl handleEvent a).controller.ControlsInStep := by
  induction es generalizing a with
  | nil => exact h
  | cons e es ih => exact ih (controlsInStep_handleEvent h e)

/-- Every key keeps the buttons in step: it quits, acknowledges an alert, or has one of the
effects of `KeyEffect`. -/
theorem controlsInStep_handleKey (h : a.controller.ControlsInStep) (k : Key) :
    (a.handleKey k).controller.ControlsInStep := by
  by_cases hk : k.kind = .press
  case neg => rwa [handleKey_of_not_press hk]
  by_cases hc : k.control = true ∧ k.code = .char 'c'
  case pos => rwa [handleKey_of_ctrl_c hk hc.1 hc.2]
  cases hal : a.screen.currentAlert with
  | some x =>
    rw [handleKey_of_alert hk hc (by simp [hal])]
    split_ifs <;> exact h
  | none => exact (keyEffect_handleKey h hk hc hal).controlsInStep h

/-- Every input keeps the buttons in step. -/
theorem controlsInStep_feed (h : a.controller.ControlsInStep) :
    ∀ i : Input, (a.feed i).controller.ControlsInStep
  | .key k => controlsInStep_handleKey h k
  | .event e => controlsInStep_handleEvent h e
  | .connect => controlsInStep_connect h
  | .disconnect => controlsInStep_disconnect h
  | .dismiss => h
  -- reading the waiting events leaves the state and the buttons alone
  | .pump => controlsInStep_foldl_handleEvent (a := { a with controller := a.controller.drain.2 })
      a.controller.manager.events h

theorem Reachable.controlsInStep (h : a.Reachable) : a.controller.ControlsInStep := by
  induction h with
  | create config => exact Controller.controlsInStep_create config _
  | feed i _ ih => exact controlsInStep_feed ih i

/-- **Keys respect alerts and buttons.** In every console reached by keys, events, connects,
disconnects, acknowledged alerts and handled event queues, a key that is not pressed does
nothing; a pressed `Ctrl+C` only quits; otherwise, while an alert is shown, `Esc` and `Enter`
take exactly the front alert off and every other key does nothing; and with no alert shown, a key
press connects only when the state is closed or failed, and is then never refused as already
active, and disconnects only when the state is pending or connected. -/
theorem keys_respect_alerts_and_buttons (a : App) (ha : a.Reachable) (k : Key) :
    (k.kind ≠ .press → a.handleKey k = a) ∧
    (k.kind = .press → k.control = true → k.code = .char 'c' →
      a.handleKey k = { a with shouldQuit := true }) ∧
    (k.kind = .press → ¬(k.control = true ∧ k.code = .char 'c') →
      a.screen.currentAlert.isSome = true →
      a.handleKey k = if k.code = .esc ∨ k.code = .enter then
        a.withScreen (fun s => { s with alerts := s.alerts.tail }) else a) ∧
    (k.kind = .press → ¬(k.control = true ∧ k.code = .char 'c') →
      a.screen.currentAlert = none → KeyEffect a (a.handleKey k)) :=
  ⟨handleKey_of_not_press, handleKey_of_ctrl_c, handleKey_of_alert,
    keyEffect_handleKey ha.controlsInStep⟩

/-- A console that connected, and the `d` key pressed on it. -/
theorem keys_after_connect :
    ((create {}).feed .connect).Reachable ∧
      let a := (create {}).feed .connect
      let k : Key := { code := .char 'd' }
      (k.kind ≠ .press → a.handleKey k = a) ∧
      (k.kind = .press → k.control = true → k.code = .char 'c' →
        a.handleKey k = { a with shouldQuit := true }) ∧
      (k.kind = .press → ¬(k.control = true ∧ k.code = .char 'c') →
        a.screen.currentAlert.isSome = true →
        a.handleKey k = if k.code = .esc ∨ k.code = .enter then
          a.withScreen (fun s => { s with alerts := s.alerts.tail }) else a) ∧
      (k.kind = .press → ¬(k.control = true ∧ k.code = .char 'c') →
        a.screen.currentAlert = none → KeyEffect a (a.handleKey k)) :=
  have h : ((create {}).feed .connect).Reachable := .feed _ (.create _)
  ⟨h, keys_respect_alerts_and_buttons _ h _⟩

end App

end StompConsole.Console
