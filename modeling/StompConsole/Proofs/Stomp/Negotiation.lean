import Mathlib
import StompConsole.Stomp.Frame

/-!
# Heart-beat negotiation

Each side of a STOMP session offers two intervals. Each direction of the negotiated result is off
when either side turned it off, and otherwise the slower of the two offers for it (`negotiate`).
This file proves the laws that make the two peers' views of one negotiation fit together:

* a direction is off exactly when one of the two offers for it is zero, and otherwise it is the
  larger offer (`pick_eq_zero_iff`, `pick_eq_zero_or_eq_max`);
* both peers arrive at the same intervals, each seeing the other's outgoing interval as its
  incoming one (`negotiate_eq_swap`);
* negotiating the result once more against the same offer changes nothing
  (`negotiate_negotiate`).

Zero is not the unit of `max` here but absorbs it, so none of these is a plain fact about `max`.
-/

namespace StompConsole.Stomp.Heartbeat

/-- The same intervals seen from the peer: what one side sends, the other receives. -/
def swap (h : Heartbeat) : Heartbeat := ⟨h.incoming, h.outgoing⟩

@[simp] theorem swap_outgoing (h : Heartbeat) : h.swap.outgoing = h.incoming := rfl

@[simp] theorem swap_incoming (h : Heartbeat) : h.swap.incoming = h.outgoing := rfl

@[simp] theorem negotiate_outgoing (ours server : Heartbeat) :
    (ours.negotiate server).outgoing = pick ours.outgoing server.incoming := rfl

@[simp] theorem negotiate_incoming (ours server : Heartbeat) :
    (ours.negotiate server).incoming = pick ours.incoming server.outgoing := rfl

/-! ## One direction -/

theorem pick_of_eq_zero {a b : Nat} (h : a = 0 ∨ b = 0) : pick a b = 0 := by
  simp [pick, h]

theorem pick_of_ne_zero {a b : Nat} (ha : a ≠ 0) (hb : b ≠ 0) : pick a b = max a b := by
  simp [pick, ha, hb]

/-- **A direction is off exactly when one side turned it off**: two positive offers never
negotiate to zero. -/
theorem pick_eq_zero_iff {a b : Nat} : pick a b = 0 ↔ a = 0 ∨ b = 0 := by
  constructor
  · intro h
    by_contra hn
    obtain ⟨ha, hb⟩ := not_or.1 hn
    rw [pick_of_ne_zero ha hb] at h
    omega
  · exact pick_of_eq_zero

theorem pick_eq_zero_or_eq_max (a b : Nat) : pick a b = 0 ∨ pick a b = max a b := by
  by_cases h : a = 0 ∨ b = 0
  · exact Or.inl (pick_of_eq_zero h)
  · obtain ⟨ha, hb⟩ := not_or.1 h
    exact Or.inr (pick_of_ne_zero ha hb)

theorem pick_comm (a b : Nat) : pick a b = pick b a := by
  by_cases h : a = 0 ∨ b = 0
  · rw [pick_of_eq_zero h, pick_of_eq_zero h.symm]
  · obtain ⟨ha, hb⟩ := not_or.1 h
    rw [pick_of_ne_zero ha hb, pick_of_ne_zero hb ha, max_comm]

/-- Picking again against the same offer keeps the first pick: an off direction stays off, and
the larger offer is already at least the second one. -/
theorem pick_pick (a b : Nat) : pick (pick a b) b = pick a b := by
  by_cases h : a = 0 ∨ b = 0
  · rw [pick_of_eq_zero h]
    exact pick_of_eq_zero (Or.inl rfl)
  · obtain ⟨ha, hb⟩ := not_or.1 h
    have hm : max a b ≠ 0 := by omega
    rw [pick_of_ne_zero ha hb, pick_of_ne_zero hm hb, max_assoc, max_self]

/-! ## Both directions, both peers -/

/-- **Both peers negotiate the same intervals**: our outgoing interval is the server's incoming one
and the other way round. -/
theorem negotiate_eq_swap (ours server : Heartbeat) :
    ours.negotiate server = (server.negotiate ours).swap := by
  rw [negotiate, negotiate, swap, pick_comm ours.outgoing, pick_comm ours.incoming]

/-- **Negotiation settles at once**: the negotiated intervals, negotiated again against the same
offer, stay as they are. -/
theorem negotiate_negotiate (ours server : Heartbeat) :
    (ours.negotiate server).negotiate server = ours.negotiate server := by
  simp only [negotiate, pick_pick]

/-- **Heart-beat negotiation.** Each negotiated direction is off exactly when our offer or the
server's matching offer is zero, and otherwise it is the larger of the two; both peers negotiate
the same intervals, seen from either side; and negotiating once more against the same offer
changes nothing. -/
theorem negotiation_laws (ours server : Heartbeat) :
    let e := ours.negotiate server
    ((e.outgoing = 0 ↔ ours.outgoing = 0 ∨ server.incoming = 0) ∧
      (e.outgoing = 0 ∨ e.outgoing = max ours.outgoing server.incoming)) ∧
    ((e.incoming = 0 ↔ ours.incoming = 0 ∨ server.outgoing = 0) ∧
      (e.incoming = 0 ∨ e.incoming = max ours.incoming server.outgoing)) ∧
    e = (server.negotiate ours).swap ∧ e.negotiate server = e := by
  intro e
  refine ⟨⟨?_, ?_⟩, ⟨?_, ?_⟩, negotiate_eq_swap ours server,
    negotiate_negotiate ours server⟩
  · exact pick_eq_zero_iff
  · exact pick_eq_zero_or_eq_max _ _
  · exact pick_eq_zero_iff
  · exact pick_eq_zero_or_eq_max _ _

/-- Our offer of `30000,0` against the server's `10000,10000`: we send every 30 s and expect
nothing. -/
example : (⟨30000, 0⟩ : Heartbeat).negotiate ⟨10000, 10000⟩ = ⟨30000, 0⟩ := by decide

end StompConsole.Stomp.Heartbeat
