import Mathlib
import StompConsole.Proofs.Json.Written
import StompConsole.Proofs.Payload.ErrorNotice

/-!
# A published error notice reads back as itself

The server publishes problem details on the error topic inside an envelope, `{"message": ...}`,
with the details written field by field: `detail`, then `instance`, `status`, `title` and `type`
when present, absent ones left out. This file proves that the decoder gives back every valid
details value so published (`decodeErrorNotice_published`): whatever the strings hold, the empty
string included, and whatever status in `100 .. 599` or none.

Three facts meet. The object of the details has its keys in order, each once, and holds only
strings and small integers, so the reader gives it back as it was written
(`Json.parseValue_compact`). What each key of that object reads is what the details hold
(`toValue_get`). And a valid details value passes the decoder's checks (`messageAccepted_toValue`),
whose reading of the members gives the details back (`detailsRead_toValue`).
-/

namespace StompConsole.Payload

open Json Unicode

namespace ProblemDetails

/-- **The object of the details**: members with keys in order, each a string or the status, and
each key reading the field it is written from; absent fields are absent keys. -/
theorem toValue_get (d : ProblemDetails) :
    ∃ ms, d.toValue = .object ms ∧ KeysSorted ms ∧
      (∀ m ∈ ms, (∃ s, m.2 = .string s) ∨ ∃ n, d.status = some n ∧ m.2 = .number (.unsigned n)) ∧
      (Value.object ms).get "detail" = some (.string d.detail) ∧
      (Value.object ms).get "instance" = d.occurrence.map .string ∧
      (Value.object ms).get "status" = d.status.map (fun n => .number (.unsigned n)) ∧
      (Value.object ms).get "title" = d.title.map .string ∧
      (Value.object ms).get "type" = d.problemType.map .string := by
  obtain ⟨detail, occurrence, status, title, problemType⟩ := d
  refine ⟨_, rfl, ?_⟩
  -- one case for each way of leaving optional fields out
  cases occurrence <;> cases status <;> cases title <;> cases problemType <;>
    simp [KeysSorted, Value.get, compareKeys, compareChars]

/-- The details' object holds strings and small integers only, so it is readable at any budget
above one. -/
theorem toValue_readable {d : ProblemDetails} (hv : d.validate = .ok ()) {depth : Nat}
    (hd : 1 < depth) : d.toValue.Readable depth := by
  obtain ⟨ms, hms, hsorted, hvalues, -⟩ := toValue_get d
  have hstatus := ((validate_eq_ok_iff d).1 hv).2
  rw [hms]
  refine .object hd hsorted fun m hm => ?_
  -- every member is a string, or the status, which validation keeps below 600
  rcases hvalues m hm with ⟨s, hs⟩ | ⟨n, hn, hs⟩
  · rw [hs]
    exact .string s
  · rw [hs]
    have hmax : (599 : Nat) ≤ maxU64 := by decide
    exact .unsigned (by have := (hstatus n hn).2; omega)

/-- **The published text**: the envelope's object holding the details' object under `message`. -/
theorem envelope_compact (d : ProblemDetails) :
    (Value.object [("message", d.toValue)]).compact = "\x7b\"message\":" ++ d.serialize ++ "\x7d" := by
  rw [← String.toList_inj]
  simp [Value.compact, serialize, Value.render, renderMembers, quoteJson, escapeJsonChar]

/-- Reading a written text field back gives the field. -/
theorem bind_textOf_map_string (o : Option String) : (o.map Value.string).bind textOf = o := by
  cases o <;> rfl

/-- Reading a written status back gives the status. -/
theorem bind_statusOf_map_unsigned (o : Option Nat) :
    (o.map fun n => Value.number (.unsigned n)).bind statusOf = o := by
  cases o <;> rfl

/-- **A valid details value passes the decoder's checks** on its own object. -/
theorem messageAccepted_toValue {d : ProblemDetails} (hv : d.validate = .ok ())
    {ms : List (String × Value)} (hms : d.toValue = .object ms) : MessageAccepted ms d.detail := by
  obtain ⟨ms', hms', -, -, hdetail, hinstance, hstatus, htitle, htype⟩ := toValue_get d
  obtain rfl : ms' = ms := Value.object.inj (hms'.symm.trans hms)
  obtain ⟨hblank, hrange⟩ := (validate_eq_ok_iff d).1 hv
  have text_accepted : ∀ o : Option String, TextAccepted (o.map .string) := by
    rintro (_ | s)
    · exact Or.inl rfl
    · exact Or.inr (Or.inr ⟨s, rfl⟩)
  refine ⟨hdetail, hblank, ?_, hinstance ▸ text_accepted _, htitle ▸ text_accepted _,
    htype ▸ text_accepted _⟩
  rw [hstatus]
  cases hs : d.status with
  | none => exact Or.inl rfl
  | some n => exact Or.inr (Or.inr ⟨n, rfl, hrange n hs⟩)

/-- The decoder's reading of the details' own object is the details. -/
theorem detailsRead_toValue {d : ProblemDetails} {ms : List (String × Value)}
    (hms : d.toValue = .object ms) : detailsRead ms d.detail = d := by
  obtain ⟨ms', hms', -, -, -, hinstance, hstatus, htitle, htype⟩ := toValue_get d
  obtain rfl : ms' = ms := Value.object.inj (hms'.symm.trans hms)
  simp only [detailsRead, hinstance, hstatus, htitle, htype, bind_textOf_map_string,
    bind_statusOf_map_unsigned]

end ProblemDetails

open ProblemDetails in
/-- **A published notice reads back as itself.** Every details value that passes validation,
written into the envelope as the server publishes it, is decoded to that same value, whatever its
strings hold (the empty string included) and with or without its optional fields. -/
theorem decodeErrorNotice_published (d : ProblemDetails) (hv : d.validate = .ok ()) :
    decodeErrorNotice ("\x7b\"message\":" ++ d.serialize ++ "\x7d") = .ok d := by
  obtain ⟨ms, hms, -⟩ := d.toValue_get
  -- the envelope is an object of one member, the details' object one level down
  have hreadable : (Value.object [("message", d.toValue)]).Readable maxDepth := by
    refine .object (by decide) (List.pairwise_singleton _ _) fun m hm => ?_
    rw [List.mem_singleton] at hm
    subst hm
    exact toValue_readable hv (by decide)
  have hparse := parseValue_compact hreadable
  rw [envelope_compact] at hparse
  refine (decodeErrorNotice_eq_ok_iff d).2 ⟨_, ms, d.detail, hparse, ?_,
    messageAccepted_toValue hv hms, (detailsRead_toValue hms).symm⟩
  rw [get_object_cons, if_pos rfl, hms]

/-- A notice with an empty instance and an empty type, published, reads back as itself. -/
theorem decodeErrorNotice_published_empty_fields :
    (⟨"Upstream down", some "", some 503, some "Service unavailable", some ""⟩ :
      ProblemDetails).validate = .ok () ∧
    decodeErrorNotice ("\x7b\"message\":" ++
      (⟨"Upstream down", some "", some 503, some "Service unavailable", some ""⟩ :
        ProblemDetails).serialize ++ "\x7d") =
      .ok ⟨"Upstream down", some "", some 503, some "Service unavailable", some ""⟩ :=
  ⟨by decide, decodeErrorNotice_published _ (by decide)⟩

end StompConsole.Payload
