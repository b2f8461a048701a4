import Mathlib
import StompConsole.Console.Screen

/-!
# The alert queue

Alerts wait on the screen until they are acknowledged, the front one shown. The queue is
capped: when `maxPendingAlerts` are waiting, a new alert first drops the oldest one *behind* the
shown one, so the alert a reader is looking at never changes under them.

`showAlert_eq` says once what showing an alert does to the screen: it logs the alert, drops the
second queued alert and logs that it did when the queue is full, and queues the new one at the
back. Everything else here reads that lemma.

To say which alerts the queue holds, a history is kept beside the screen (`AlertHistory`): every
alert shown, the places of those dismissed, and the places of those queued, which follow the
screen's own rule (`capPush`). The screen's queue is the queued places read off the history, and
those places are a subsequence of the alerts shown and not dismissed (`Tracks`, kept by every
call). The main statement is `alert_queue_keeps_order`.
-/

namespace StompConsole.Console

/-! ## The capped queue -/

/-- **Queue an item behind a capped queue**: when the queue is full, the item behind the front
one goes first. -/
def capPush {α : Type} (q : List α) (x : α) : List α :=
  (if maxPendingAlerts ≤ q.length then q.eraseIdx 1 else q) ++ [x]

section CapPush

variable {α β : Type} (q : List α) (x : α)

/-- Queueing commutes with renaming the items. -/
theorem capPush_map (f : α → β) : capPush (q.map f) (f x) = (capPush q x).map f := by
  unfold capPush
  split_ifs <;> simp_all [List.eraseIdx_map]

theorem capPush_length_le (h : q.length ≤ maxPendingAlerts) :
    (capPush q x).length ≤ maxPendingAlerts := by
  unfold capPush
  split_ifs with hf
  · -- a full queue loses its second item first
    have h1 : 1 < q.length := lt_of_lt_of_le (by decide) hf
    simp [List.length_eraseIdx, h1]
    omega
  · simp only [List.length_append, List.length_singleton]
    omega

/-- **The front item stays in front.** -/
theorem head?_capPush (h : q ≠ []) : (capPush q x).head? = q.head? := by
  obtain ⟨y, ys, rfl⟩ := List.exists_cons_of_ne_nil h
  unfold capPush
  split_ifs <;> cases ys <;> simp

theorem capPush_sublist {l : List α} (h : q.Sublist l) : (capPush q x).Sublist (l ++ [x]) := by
  unfold capPush
  split_ifs
  · exact ((List.eraseIdx_sublist q 1).trans h).append (List.Sublist.refl _)
  · exact h.append (List.Sublist.refl _)

@[simp] theorem getLast?_capPush : (capPush q x).getLast? = some x := by
  simp [capPush]

end CapPush

/-! ## Keeping the last lines -/

theorem length_rtake_le {α : Type} (l : List α) (n : Nat) : (l.rtake n).length ≤ n := by
  rw [List.rtake_eq_reverse_take_reverse]
  simp

/-- Keeping the last lines twice keeps the last lines of the whole. -/
theorem rtake_append_rtake {α : Type} (l m : List α) (n : Nat) :
    (l.rtake n ++ m).rtake n = (l ++ m).rtake n := by
  simp only [List.rtake_eq_reverse_take_reverse, List.reverse_append, List.reverse_reverse,
    List.take_append, List.take_take]
  congr 3
  simp

/-! ## What showing and dismissing do -/

/-- The line logged when a full queue drops an alert. -/
def droppedNotice : String :=
  "Too many pending alerts; the oldest unread one was dropped (still in the log)."

theorem sanitize_droppedNotice : sanitize droppedNotice = droppedNotice := by
  unfold droppedNotice
  decide

namespace Screen

variable (s : Screen) (d : String)

@[simp] theorem alerts_push (k : LineKind) (t : String) : (s.push k t).alerts = s.alerts := rfl

/-- **Showing an alert**: it is logged; when the queue is full, the alert behind the shown one is
dropped and that is logged too; then the new alert is queued at the back. -/
theorem showAlert_eq : s.showAlert d =
    if maxPendingAlerts ≤ s.alerts.length then
      { (s.push .alert d).push .error droppedNotice with alerts := capPush s.alerts d }
    else { s.push .alert d with alerts := capPush s.alerts d } := by
  by_cases hf : maxPendingAlerts ≤ s.alerts.length
  · -- a full queue has a second alert to drop
    obtain ⟨x, y, rest, hq⟩ : ∃ x y rest, s.alerts = x :: y :: rest := by
      match hq : s.alerts, hf with
      | x :: y :: rest, _ => exact ⟨x, y, rest, rfl⟩
    rw [if_pos hf, capPush, if_pos hf, hq]
    simp only [showAlert, alerts_push, hq, ge_iff_le, if_pos (hq ▸ hf)]
    rfl
  · rw [if_neg hf, capPush, if_neg hf]
    simp only [showAlert, alerts_push, ge_iff_le, if_neg hf]

@[simp] theorem alerts_showAlert : (s.showAlert d).alerts = capPush s.alerts d := by
  rw [showAlert_eq]
  split_ifs <;> rfl

@[simp] theorem clock_push (k : LineKind) (t : String) : (s.push k t).clock = s.clock := rfl

/-- Dismissing takes the front alert off the queue and changes nothing else. -/
theorem dismissAlert_snd : s.dismissAlert.2 = { s with alerts := s.alerts.tail } := by
  obtain ⟨log, alerts, clock⟩ := s
  cases alerts <;> rfl

/-- **A log within its bound keeps its last `maxLogLines` lines** after a push. -/
theorem push_log (k : LineKind) (t : String) (h : s.log.length ≤ maxLogLines) :
    (s.push k t).log = (s.log ++ [LogLine.mk s.clock k (sanitize t)]).rtake maxLogLines := by
  simp only [push, List.rtake]
  split_ifs with hl
  · simp only [List.length_append, List.length_singleton] at hl ⊢
    rw [show s.log.length + 1 - maxLogLines = 1 by omega]
  · simp only [List.length_append, List.length_singleton] at hl ⊢
    rw [show s.log.length + 1 - maxLogLines = 0 by omega, List.drop_zero]

theorem push_log_length_le (k : LineKind) (t : String) (h : s.log.length ≤ maxLogLines) :
    (s.push k t).log.length ≤ maxLogLines := by
  rw [push_log s k t h]
  exact length_rtake_le _ _

/-- The lines that showing an alert logs: the alert, then the notice if one was dropped. -/
def alertLines (s : Screen) (d : String) : List LogLine :=
  LogLine.mk s.clock .alert (sanitize d) ::
    if maxPendingAlerts ≤ s.alerts.length then [LogLine.mk s.clock .error droppedNotice] else []

/-- **Showing an alert appends its lines** to a log within its bound. -/
theorem log_showAlert (h : s.log.length ≤ maxLogLines) :
    (s.showAlert d).log = (s.log ++ alertLines s d).rtake maxLogLines := by
  have h1 := push_log s .alert d h
  rw [showAlert_eq, alertLines]
  split_ifs
  · show ((s.push .alert d).push .error droppedNotice).log = _
    rw [push_log _ .error _ (push_log_length_le s .alert d h), h1, rtake_append_rtake,
      sanitize_droppedNotice]
    simp
  · exact h1

end Screen

/-! ## The history beside the screen -/

/-- What a caller does to the alerts. -/
inductive AlertCall where
  | alert (detail : String)
  | dismiss

namespace Screen

/-- The screen after a call. -/
def answer (s : Screen) : AlertCall → Screen
  | .alert d => s.showAlert d
  | .dismiss => s.dismissAlert.2

end Screen

/-- **The alerts' history**: every alert shown, oldest first; the places (in `shown`) of those
dismissed; and the places of those queued, front first. -/
structure AlertHistory where
  shown : List String := []
  dismissed : List Nat := []
  queued : List Nat := []

namespace AlertHistory

/-- The history after a call: a shown alert takes the next place and is queued as the screen
queues it; a dismissal takes the front place off the queue. -/
def record (h : AlertHistory) : AlertCall → AlertHistory
  | .alert d => { h with shown := h.shown ++ [d], queued := capPush h.queued h.shown.length }
  | .dismiss => { h with dismissed := h.dismissed ++ h.queued.take 1, queued := h.queued.tail }

/-- The places of the alerts shown and not dismissed, in the order they came. -/
def waiting (h : AlertHistory) : List Nat :=
  (List.range h.shown.length).filter (· ∉ h.dismissed)

/-- The alert shown at a place. -/
def detail (h : AlertHistory) (i : Nat) : String := h.shown.getD i ""

variable (h : AlertHistory) (d : String)

/-- A new alert leaves the older places reading the same alerts. -/
theorem detail_record_alert_of_lt {i : Nat} (hi : i < h.shown.length) :
    (h.record (.alert d)).detail i = h.detail i := by
  simp [detail, record, List.getD_eq_getElem?_getD, List.getElem?_append_left hi]

theorem detail_record_alert_self : (h.record (.alert d)).detail h.shown.length = d := by
  simp [detail, record]

/-- A new alert, never dismissed, waits behind every older one. -/
theorem waiting_record_alert (hn : h.shown.length ∉ h.dismissed) :
    (h.record (.alert d)).waiting = h.waiting ++ [h.shown.length] := by
  show (List.range (h.shown ++ [d]).length).filter (· ∉ h.dismissed) =
    (List.range h.shown.length).filter (· ∉ h.dismissed) ++ [h.shown.length]
  rw [List.length_append, List.length_singleton, List.range_succ, List.filter_append]
  simp [hn]

/-- A dismissal stops the front place from waiting. -/
theorem waiting_record_dismiss :
    (h.record .dismiss).waiting = h.waiting.filter (· ∉ h.queued.take 1) := by
  show (List.range h.shown.length).filter (· ∉ h.dismissed ++ h.queued.take 1) =
    ((List.range h.shown.length).filter (· ∉ h.dismissed)).filter (· ∉ h.queued.take 1)
  simp [List.filter_filter, not_or, Bool.and_comm]

end AlertHistory

/-- **The screen's queue is the history's**: it holds the alerts at the queued places, at most
`maxPendingAlerts` of them; the queued places are a subsequence of the places waiting; the
newest alert is at the back unless it was dismissed; and the log is within its bound. -/
structure Tracks (s : Screen) (h : AlertHistory) : Prop where
  alerts : s.alerts = h.queued.map h.detail
  bounded : h.queued.length ≤ maxPendingAlerts
  sub : h.queued.Sublist h.waiting
  dismissed : ∀ i ∈ h.dismissed, i < h.shown.length
  newest : ∀ n, h.shown.length = n + 1 → n ∉ h.dismissed → h.queued.getLast? = some n
  log : s.log.length ≤ maxLogLines

namespace Tracks

variable {s : Screen} {h : AlertHistory}

theorem create : Tracks {} {} where
  alerts := rfl
  bounded := by decide
  sub := List.nil_sublist _
  dismissed := by simp
  newest := by simp
  log := by decide

theorem lt_of_mem_queued (ht : Tracks s h) {i : Nat} (hi : i ∈ h.queued) : i < h.shown.length :=
  List.mem_range.1 (List.mem_of_mem_filter (ht.sub.subset hi))

theorem queued_nodup (ht : Tracks s h) : h.queued.Nodup :=
  ht.sub.nodup (List.nodup_range.filter _)

/-- Showing an alert queues its place, as the screen queues the alert. -/
theorem alert (ht : Tracks s h) (d : String) : Tracks (s.showAlert d) (h.record (.alert d)) where
  alerts := by
    -- the queued places are all older than the new one, so they read the same alerts
    have hold : h.queued.map (h.record (.alert d)).detail = h.queued.map h.detail :=
      List.map_congr_left fun i hi => h.detail_record_alert_of_lt d (ht.lt_of_mem_queued hi)
    rw [Screen.alerts_showAlert, ht.alerts, ← hold]
    show _ = (capPush h.queued h.shown.length).map _
    rw [← capPush_map, h.detail_record_alert_self]
  bounded := capPush_length_le _ _ ht.bounded
  sub := by
    have hn : h.shown.length ∉ h.dismissed := fun hm => absurd (ht.dismissed _ hm) (lt_irrefl _)
    rw [h.waiting_record_alert d hn]
    exact capPush_sublist h.queued h.shown.length ht.sub
  dismissed := fun i hi => by
    simp only [AlertHistory.record, List.length_append, List.length_singleton]
    exact Nat.lt_succ_of_lt (ht.dismissed i hi)
  newest := fun n hn _ => by
    simp only [AlertHistory.record, List.length_append, List.length_singleton] at hn ⊢
    rw [getLast?_capPush, show h.shown.length = n by omega]
  log := by
    rw [Screen.log_showAlert _ _ ht.log]
    exact length_rtake_le _ _

/-- Dismissing takes the front place off the queue and counts it as dismissed. -/
theorem dismiss (ht : Tracks s h) : Tracks s.dismissAlert.2 (h.record .dismiss) where
  alerts := by
    rw [Screen.dismissAlert_snd]
    show s.alerts.tail = h.queued.tail.map h.detail
    rw [ht.alerts, List.map_tail]
  bounded := by
    simp only [AlertHistory.record, List.length_tail]
    have := ht.bounded
    omega
  sub := by
    rw [h.waiting_record_dismiss]
    show h.queued.tail.Sublist _
    match hq : h.queued with
    | [] => exact List.nil_sublist _
    | x :: rest =>
      -- the dismissed place was queued once, so the rest of the queue never names it
      have hx : x ∉ rest := (List.nodup_cons.1 (hq ▸ ht.queued_nodup)).1
      have hsub := ((List.sublist_cons_self x rest).trans (hq ▸ ht.sub)).filter
        (· ∉ (x :: rest).take 1)
      rwa [List.filter_eq_self.2 fun y hy => by simpa using fun e : y = x => hx (e ▸ hy)] at hsub
  dismissed := by
    intro i hi
    simp only [AlertHistory.record, List.mem_append] at hi
    rcases hi with hi | hi
    · exact ht.dismissed i hi
    · exact ht.lt_of_mem_queued (List.mem_of_mem_take hi)
  newest := by
    intro n hn hnd
    simp only [AlertHistory.record, List.mem_append, not_or] at hn hnd ⊢
    have hlast := ht.newest n hn hnd.1
    match hq : h.queued with
    | [] => simp [hq] at hlast
    | [x] =>
      -- the newest alert alone in the queue is the one dismissed
      simp only [hq, List.getLast?_singleton, Option.some.injEq] at hlast
      simp [hq, hlast] at hnd
    | x :: y :: rest => simpa [hq] using hlast
  log := by rw [Screen.dismissAlert_snd]; exact ht.log

theorem answer (ht : Tracks s h) : ∀ c : AlertCall, Tracks (s.answer c) (h.record c)
  | .alert d => ht.alert d
  | .dismiss => ht.dismiss

theorem answerAll (ht : Tracks s h) (calls : List AlertCall) :
    Tracks (calls.foldl Screen.answer s) (calls.foldl AlertHistory.record h) := by
  induction calls generalizing s h with
  | nil => exact ht
  | cons c rest ih => exact ih (ht.answer c)

end Tracks

/-- **The alert queue keeps its order and its bound.** After any sequence of alerts shown and
dismissed on a new screen, with `h` the history of the same calls:

* at most `maxPendingAlerts` alerts wait;
* the queue holds the alerts at the history's queued places, which are a subsequence of the
  places of the alerts shown and not dismissed, in the order they came, the newest at the back
  unless it was dismissed;
* showing an alert on a non-empty queue keeps the alert on screen, and dismissing takes exactly
  the front one off;
* showing an alert drops one only when `maxPendingAlerts` wait, and then the one behind the
  front;
* showing an alert logs it, and logs the drop exactly when there was one. -/
theorem alert_queue_keeps_order (calls : List AlertCall) :
    let s := calls.foldl Screen.answer {}
    let h := calls.foldl AlertHistory.record {}
    s.alerts.length ≤ maxPendingAlerts ∧
    (s.alerts = h.queued.map h.detail ∧ h.queued.Sublist h.waiting ∧
      ∀ n, h.shown.length = n + 1 → n ∉ h.dismissed → h.queued.getLast? = some n) ∧
    (∀ d, s.alerts ≠ [] → (s.showAlert d).currentAlert = s.currentAlert) ∧
    s.dismissAlert.2.alerts = s.alerts.tail ∧
    (∀ d, (s.showAlert d).alerts =
      (if s.alerts.length = maxPendingAlerts then s.alerts.eraseIdx 1 else s.alerts) ++ [d]) ∧
    (∀ d, (s.showAlert d).log = (s.log ++ LogLine.mk s.clock .alert (sanitize d) ::
      if s.alerts.length = maxPendingAlerts then [LogLine.mk s.clock .error droppedNotice] else []).rtake
        maxLogLines) := by
  intro s h
  have ht : Tracks s h := Tracks.create.answerAll calls
  have hlen : s.alerts.length ≤ maxPendingAlerts := by rw [ht.alerts, List.length_map]; exact ht.bounded
  -- within the bound, a full queue is one of exactly `maxPendingAlerts`
  have hfull : (maxPendingAlerts ≤ s.alerts.length) ↔ s.alerts.length = maxPendingAlerts := by
    omega
  refine ⟨hlen, ⟨ht.alerts, ht.sub, ht.newest⟩, fun d hne => ?_, ?_, fun d => ?_, fun d => ?_⟩
  · simp only [Screen.currentAlert, Screen.alerts_showAlert]
    exact head?_capPush _ _ hne
  · rw [Screen.dismissAlert_snd]
  · simp only [Screen.alerts_showAlert, capPush, hfull]
  · simp only [Screen.log_showAlert _ _ ht.log, Screen.alertLines, hfull]

end StompConsole.Console
