import Mathlib
import StompConsole.Proofs.Console.Alerts

/-!
# The console log

Every line the screen logs goes through `Screen.push`, directly or through the presenter's calls
(an alert, a message, a refused payload, a status line); an alert also logs a second line when
it drops an older one from a full queue. `Screen.written` says which lines each call pushes, with
their texts as given, and `Screen.linesWritten` collects them over a sequence of calls.

The log is a window on those lines (`log_run`): it holds the last `maxLogLines` of them, in the
order they were pushed, each with its text sanitized. Sanitizing removes exactly the control
characters (`IsControl`: C0 controls other than tab, DEL, and the C1 controls) and keeps the rest
in order, so no log line holds one. The main statement is `log_keeps_last_pushed_lines`.
-/

namespace StompConsole.Console

open Client

/-! ## Sanitizing -/

/-- **A control character**: below space other than tab, DEL, or in `U+0080..U+009F`. -/
def IsControl (c : Char) : Prop :=
  (c.toNat < 0x20 ∧ c ≠ '\t') ∨ c.toNat = 0x7F ∨ (0x80 ≤ c.toNat ∧ c.toNat ≤ 0x9F)

instance (c : Char) : Decidable (IsControl c) :=
  inferInstanceAs
    (Decidable ((c.toNat < 0x20 ∧ c ≠ '\t') ∨ c.toNat = 0x7F ∨ (0x80 ≤ c.toNat ∧ c.toNat ≤ 0x9F)))

theorem not_isControl_iff {c : Char} : ¬ IsControl c ↔
    (c.toNat < 0x20 → c = '\t') ∧ c.toNat ≠ 0x7F ∧ ¬ (0x80 ≤ c.toNat ∧ c.toNat ≤ 0x9F) := by
  simp only [IsControl, not_or, not_and, not_not]

/-- The screen keeps exactly the characters that are no controls. -/
theorem keepsOnScreen_eq_true_iff (c : Char) : keepsOnScreen c = true ↔ ¬ IsControl c := by
  have htab : ('\t' : Char).toNat = 9 := rfl
  have hinj : c = '\t' ↔ c.toNat = 9 := ⟨fun h => h ▸ htab, fun h => Char.toNat_inj.1 (h.trans htab.symm)⟩
  simp only [keepsOnScreen, IsControl, Bool.or_eq_true, beq_iff_eq, Bool.and_eq_true,
    decide_eq_true_eq, bne_iff_ne, ne_eq, Bool.not_eq_true', Bool.and_eq_false_iff,
    decide_eq_false_iff_not, hinj]
  omega

theorem keepsOnScreen_eq (c : Char) : keepsOnScreen c = !decide (IsControl c) := by
  rw [Bool.eq_iff_iff, keepsOnScreen_eq_true_iff]
  simp

/-- **Sanitizing keeps the characters that are no controls, in order.** -/
theorem toList_sanitize (t : String) :
    (sanitize t).toList = t.toList.filter fun c => !decide (IsControl c) := by
  simp only [sanitize, String.toList_ofList]
  congr 1
  funext c
  exact keepsOnScreen_eq c

theorem not_isControl_of_mem_sanitize {t : String} {c : Char} (h : c ∈ (sanitize t).toList) :
    ¬ IsControl c := by
  rw [toList_sanitize] at h
  simpa using (List.mem_filter.1 h).2

/-- Sanitizing a sanitized text changes nothing. -/
theorem sanitize_sanitize (t : String) : sanitize (sanitize t) = sanitize t := by
  apply String.toList_injective
  rw [toList_sanitize (sanitize t), List.filter_eq_self]
  intro c hc
  simpa using not_isControl_of_mem_sanitize hc

/-! ## The calls that write to the log -/

/-- **A call that writes to the log**: a line pushed directly, one of the presenter's calls, or an
alert dismissed (which writes nothing). -/
inductive LogCall where
  | push (kind : LineKind) (text : String)
  | alert (detail : String)
  | message (m : Json.Value)
  | rejected (destination : String) (e : Payload.PayloadError)
  | status (text : String)
  | dismiss

namespace Screen

/-- The screen after a call. -/
def perform (s : Screen) : LogCall → Screen
  | .push k t => s.push k t
  | .alert d => Presenter.showAlert d s
  | .message m => Presenter.showMessage m s
  | .rejected dest e => Presenter.showRejected dest e s
  | .status t => Presenter.showStatus t s
  | .dismiss => s.dismissAlert.2

/-- **The lines a call pushes**, each with its kind and its text as given. An alert pushes a second
line when the queue it joins is full. -/
def written (s : Screen) : LogCall → List (LineKind × String)
  | .push k t => [(k, t)]
  | .alert d =>
    (.alert, d) :: if maxPendingAlerts ≤ s.alerts.length then [(.error, droppedNotice)] else []
  | .message m => [(.notice, m.compact)]
  | .rejected dest e => [(.error, "Ignored message on " ++ dest ++ ": " ++ e.message)]
  | .status t => [(.info, t)]
  | .dismiss => []

/-- The screen after calls, one after another. -/
def run (s : Screen) (calls : List LogCall) : Screen := calls.foldl perform s

/-- The lines pushed by calls, one after another, oldest first. -/
def linesWritten (s : Screen) : List LogCall → List (LineKind × String)
  | [] => []
  | c :: cs => s.written c ++ (s.perform c).linesWritten cs

/-- A pushed line as the log keeps it: stamped with the clock, its text sanitized. -/
def stamp (clock : String) (l : LineKind × String) : LogLine := ⟨clock, l.1, sanitize l.2⟩

@[simp] theorem run_nil (s : Screen) : s.run [] = s := rfl

@[simp] theorem run_cons (s : Screen) (c : LogCall) (cs : List LogCall) :
    s.run (c :: cs) = (s.perform c).run cs := rfl

theorem clock_perform (s : Screen) (c : LogCall) : (s.perform c).clock = s.clock := by
  cases c with
  | alert d =>
    rw [perform, show Presenter.showAlert d s = s.showAlert d from rfl, showAlert_eq]
    split_ifs <;> rfl
  | dismiss => rw [perform, dismissAlert_snd]
  | _ => rfl

theorem rtake_of_length_le {α : Type} {l : List α} {n : Nat} (h : l.length ≤ n) : l.rtake n = l := by
  simp [List.rtake, Nat.sub_eq_zero_of_le h]

/-- **One call appends its lines to the window.** -/
theorem log_perform (s : Screen) (c : LogCall) (h : s.log.length ≤ maxLogLines) :
    (s.perform c).log = (s.log ++ (s.written c).map (stamp s.clock)).rtake maxLogLines := by
  cases c with
  | push k t => exact push_log s k t h
  | alert d =>
    rw [perform, show Presenter.showAlert d s = s.showAlert d from rfl, log_showAlert s d h]
    -- the drop notice has no control character, so stamping it keeps its text
    simp only [alertLines, written, List.map_cons]
    split_ifs <;> simp [stamp, sanitize_droppedNotice]
  | message m => exact push_log s .notice _ h
  | rejected dest e => exact push_log s .error _ h
  | status t => exact push_log s .info t h
  | dismiss => simp [perform, dismissAlert_snd, written, rtake_of_length_le h]

/-- **Calls, one after another, append their lines to the window.** The induction runs over the
calls; each step appends one call's lines, and two windows in a row are one window. -/
theorem log_run (s : Screen) (calls : List LogCall) (h : s.log.length ≤ maxLogLines) :
    (s.run calls).log = (s.log ++ (s.linesWritten calls).map (stamp s.clock)).rtake maxLogLines := by
  induction calls generalizing s with
  | nil => simp [linesWritten, rtake_of_length_le h]
  | cons c cs ih =>
    have hle : (s.perform c).log.length ≤ maxLogLines := by
      rw [log_perform s c h]
      exact length_rtake_le _ _
    rw [run_cons, ih (s.perform c) hle, log_perform s c h, rtake_append_rtake, clock_perform,
      linesWritten, List.map_append, List.append_assoc]

end Screen

theorem length_rtake {α : Type} (l : List α) (n : Nat) : (l.rtake n).length = min l.length n := by
  simp only [List.rtake, List.length_drop]
  omega

/-- **The log keeps the last lines pushed.** After any sequence of calls on a new screen, with
`t₁ … tₙ` the texts of the lines they pushed, directly or through the presenter:

* the log holds the last `min n maxLogLines` of those lines, in the order they were pushed, each
  with its kind and the text `sanitize tᵢ`;
* no log line holds a control character: nothing below space but tab, no DEL, nothing in
  `U+0080..U+009F`;
* sanitizing keeps every other character, in order, and sanitizing twice is sanitizing once. -/
theorem log_keeps_last_pushed_lines (calls : List LogCall) :
    let s := ({} : Screen).run calls
    let lines := ({} : Screen).linesWritten calls
    s.log = (lines.map fun l => LogLine.mk ({} : Screen).clock l.1 (sanitize l.2)).rtake maxLogLines ∧
    s.log.length = min lines.length maxLogLines ∧
    (∀ l ∈ s.log, ∀ c ∈ l.text.toList,
      (c.toNat < 0x20 → c = '\t') ∧ c.toNat ≠ 0x7F ∧ ¬ (0x80 ≤ c.toNat ∧ c.toNat ≤ 0x9F)) ∧
    (∀ t, (sanitize t).toList = t.toList.filter fun c => !decide (IsControl c)) ∧
    (∀ t, sanitize (sanitize t) = sanitize t) := by
  intro s lines
  have hlog : s.log = (lines.map (Screen.stamp ({} : Screen).clock)).rtake maxLogLines := by
    simpa using Screen.log_run {} calls (by decide)
  refine ⟨hlog, ?_, fun l hl c hc => ?_, toList_sanitize, sanitize_sanitize⟩
  · rw [hlog, length_rtake, List.length_map]
  · -- every line kept is a stamped line, whose text is sanitized
    rw [hlog] at hl
    obtain ⟨p, -, rfl⟩ := List.mem_map.1 (List.mem_of_mem_drop hl)
    exact not_isControl_iff.1 (not_isControl_of_mem_sanitize hc)

/-- Escape sequences lose their `ESC`, and a C1 control goes while a tab stays. -/
example : sanitize "\x1b[31mred" = "[31mred" ∧ sanitize "a\u009bb\tc" = "ab\tc" := by decide

end StompConsole.Console
