import Mathlib
import StompConsole.SockJs.Frame
import StompConsole.Proofs.Json.Written

/-!
# SockJS frames, written and read

A SockJS frame is a type letter followed by JSON, and the JSON of the three frames that carry data
is written by the same writer that wraps the client's payloads. This file proves that the frame
decoder gives back what was written: a message array of any strings, a single message, and a
close frame of any 16-bit code and reason (`decode_written_frames`). In particular a payload the
client wraps for sending, whatever characters it holds, reads back as itself.

The work is in the JSON layer (`Json.readStringArray_text`, `Json.readString_quoteJson`,
`Json.readCodeReason_text`); here the type letter is taken off and the reader must reach the end of
the text.
-/

namespace StompConsole.SockJs

open Json

/-- A frame's JSON, read to its end, is read by `readPayload`. -/
theorem readPayload_of_reader {α : Type} {reader : Cursor → Except Json.Error (α × Cursor)}
    {text : String} {v : α} {p : Pos} (h : reader ⟨text.toList, Pos.origin⟩ = .ok (v, ⟨[], p⟩)) :
    readPayload reader text.toList = .ok v := by
  rw [readPayload, String.ofList_toList, readAll_of_reader h]

/-- **A message array is read back**, whatever its strings hold. -/
theorem decode_messages (ms : List String) :
    decode ("a" ++ stringArrayText ms) = .ok (.messages ms) := by
  obtain ⟨p, h⟩ := readStringArray_text [] ms Pos.origin
  rw [List.append_nil] at h
  have hp := readPayload_of_reader h
  have hletter : ("a" ++ stringArrayText ms).toList = 'a' :: (stringArrayText ms).toList := by
    simp
  rw [decode, hletter]
  simp only [hp]
  rfl

/-- **A single message is read back.** -/
theorem decode_message (m : String) :
    decode ("m" ++ (Value.string m).compact) = .ok (.messages [m]) := by
  obtain ⟨p, h⟩ := readString_quoteJson m [] Pos.origin
  rw [List.append_nil] at h
  have h' : readString ⟨(Value.string m).compact.toList, Pos.origin⟩ = .ok (m, ⟨[], p⟩) := by
    simpa [Value.compact, Value.render] using h
  have hp := readPayload_of_reader h'
  have hletter : ("m" ++ (Value.string m).compact).toList = 'm' :: (Value.string m).compact.toList := by
    simp
  rw [decode, hletter]
  simp only [hp]
  rfl

/-- **A close frame is read back**, for every 16-bit code and every reason. -/
theorem decode_close (code : UInt16) (reason : String) :
    decode ("c" ++ (Value.array [.number (.unsigned code.toNat), .string reason]).compact) =
      .ok (.close code.toNat reason) := by
  have hcode : code.toNat ≤ 65535 := by
    have := code.toNat_lt
    omega
  obtain ⟨p, h⟩ := readCodeReason_text hcode reason [] Pos.origin
  rw [List.append_nil] at h
  have h' : readCodeReason
      ⟨(Value.array [.number (.unsigned code.toNat), .string reason]).compact.toList, Pos.origin⟩ =
        .ok ((code.toNat, reason), ⟨[], p⟩) := by
    simpa [Value.compact] using h
  have hp := readPayload_of_reader h'
  have hletter : ("c" ++ (Value.array [.number (.unsigned code.toNat), .string reason]).compact).toList =
      'c' :: (Value.array [.number (.unsigned code.toNat), .string reason]).compact.toList := by
    simp
  rw [decode, hletter]
  simp only [hp]
  rfl

/-- **What the writer writes, the frame decoder reads.** A payload the client wraps for sending
reads back as a message frame of itself, whatever it holds; so does an array of any messages, and
a single message; and a close frame of any 16-bit code and reason reads back as that code and
reason. -/
theorem decode_written_frames :
    (∀ p : String, decode ("a" ++ encode p) = .ok (.messages [p])) ∧
    (∀ ms : List String, decode ("a" ++ stringArrayText ms) = .ok (.messages ms)) ∧
    (∀ m : String, decode ("m" ++ (Value.string m).compact) = .ok (.messages [m])) ∧
    (∀ (code : UInt16) (reason : String),
      decode ("c" ++ (Value.array [.number (.unsigned code.toNat), .string reason]).compact) =
        .ok (.close code.toNat reason)) :=
  ⟨fun p => decode_messages [p], decode_messages, decode_message, decode_close⟩

end StompConsole.SockJs
