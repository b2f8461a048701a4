import Mathlib
import StompConsole.Payload.Problem
import StompConsole.Proofs.Json.Members

/-!
# Decoding an error notice, check by check

`decodeErrorNotice` accepts a body in seven steps, and the first that fails names the error.
This file states what each step asks of the body in terms of the JSON value alone, and proves
that the decoder accepts exactly the bodies that pass all seven, with the details their members
give, and otherwise fails with the error of the first step that does not pass.

The step that is not plain is the fifth: `detailsOfMembers` walks the members of `message` in
key order and stops at the first one whose value has the wrong type for its field, while the
other steps look members up with `Value.get`. The two views agree because the reader keeps every
object's keys sorted, each once (`Json.parseValue_sorted`): the walk meets each key once, and
what it keeps for a field is what `Value.get` finds.

A type error names the value it met as serde does: a number read as a float is written in the
scientific layout of `BinFloat.scientificText`, whose exponent keeps its sign, so a `detail` of
`1e20` fails with ``invalid type: floating point `1e+20`, expected a string``.
-/

namespace StompConsole

namespace Text

open Unicode

/-- A text trims to nothing exactly when it is all white space. -/
theorem trimWhite_eq_nil_iff (cs : List Char) :
    trimWhite cs = [] ↔ ∀ c ∈ cs, isWhiteSpace c = true := by
  unfold trimWhite
  rw [List.reverse_eq_nil_iff, List.dropWhile_eq_nil_iff (l := (cs.dropWhile isWhiteSpace).reverse)]
  simp only [List.mem_reverse]
  constructor
  · intro h
    rw [← List.dropWhile_eq_nil_iff]
    by_contra hne
    -- what is left after dropping the leading white space starts with a character that is not
    have hw := h _ (List.head_mem hne)
    rw [List.head_dropWhile_not _ hne] at hw
    cases hw
  · intro h c hc
    exact h c ((List.dropWhile_suffix _).subset hc)

theorem trimWhite_isEmpty_iff (cs : List Char) :
    (trimWhite cs).isEmpty = true ↔ ∀ c ∈ cs, isWhiteSpace c = true := by
  rw [List.isEmpty_iff, trimWhite_eq_nil_iff]

theorem trimWhite_isEmpty_eq_false_iff (cs : List Char) :
    (trimWhite cs).isEmpty = false ↔ ∃ c ∈ cs, isWhiteSpace c = false := by
  rw [← Bool.not_eq_true, trimWhite_isEmpty_iff]
  simp

end Text

namespace Payload

open Json Unicode

/-! ## What each member of `message` carries -/

/-- The text a member carries: a string's, none for anything else (null included). -/
def textOf : Value → Option String
  | .string s => some s
  | _ => none

/-- The status a member carries: an unsigned integer's value, none for anything else. -/
def statusOf : Value → Option Nat
  | .number (.unsigned n) => some n
  | _ => none

/-- The complaint about a value read as a string. -/
def stringError : Value → Option ErrorCode
  | .string _ => none
  | v => some (invalidType v.unexpected "a string")

/-- The complaint about a value read as a string that may be null. -/
def optionalStringError : Value → Option ErrorCode
  | .null => none
  | v => stringError v

/-- The complaint about a value read as an unsigned 16-bit integer that may be null. -/
def statusError : Value → Option ErrorCode
  | .null => none
  | .number (.unsigned n) => if n ≤ 65535 then none else some (invalidValue (.unsigned n) "u16")
  | .number (.negative n) => some (invalidValue (.signed n) "u16")
  | v => some (invalidType v.unexpected "u16")

/-- **The type check of one member**, with the reader's complaint in its own words: `detail` takes
a string; `instance`, `title` and `type` a string or null; `status` null or an integer in
`0 .. 65535`. A member no field reads is never wrong. -/
def fieldError (k : String) (v : Value) : Option ErrorCode :=
  if k = "detail" then stringError v
  else if k = "status" then statusError v
  else if k = "instance" ∨ k = "title" ∨ k = "type" then optionalStringError v
  else none

theorem fieldError_detail_eq_none_iff {v : Value} :
    fieldError "detail" v = none ↔ ∃ s, v = .string s := by
  cases v <;> simp [fieldError, stringError]

theorem fieldError_status_eq_none_iff {v : Value} :
    fieldError "status" v = none ↔ v = .null ∨ ∃ n, v = .number (.unsigned n) ∧ n ≤ 65535 := by
  rcases v with _ | _ | (n | n | x) | _ | _ | _ <;> simp [fieldError, statusError]

theorem fieldError_text_eq_none_iff {k : String} {v : Value}
    (hk : k = "instance" ∨ k = "title" ∨ k = "type") :
    fieldError k v = none ↔ v = .null ∨ ∃ s, v = .string s := by
  rcases hk with rfl | rfl | rfl <;> cases v <;> simp [fieldError, optionalStringError, stringError]

theorem fieldError_of_unread {k : String} (v : Value)
    (hk : k ≠ "detail" ∧ k ≠ "instance" ∧ k ≠ "status" ∧ k ≠ "title" ∧ k ≠ "type") :
    fieldError k v = none := by
  simp [fieldError, hk]

/-! ## The walk over the members -/

/-- The details once member `(k, v)`, of the right type, is read: its field set to what it
carries. -/
def absorb (k : String) (v : Value) (d : ProblemDetails) : ProblemDetails where
  detail := d.detail
  occurrence := if k = "instance" then textOf v else d.occurrence
  status := if k = "status" then statusOf v else d.status
  title := if k = "title" then textOf v else d.title
  problemType := if k = "type" then textOf v else d.problemType

/-- **One member of the walk**: a member of the wrong type stops it with its complaint; any
other sets what its field says and the walk goes on. -/
theorem go_cons (k : String) (v : Value) (ms : List (String × Value)) (det : Option String)
    (d : ProblemDetails) :
    detailsOfMembers.go ((k, v) :: ms) det d =
      match fieldError k v with
      | some e => .error e
      | none => detailsOfMembers.go ms (if k = "detail" then textOf v else det) (absorb k v d) := by
  rw [detailsOfMembers.go]
  -- one case per field the walk reads, then one per shape of value
  by_cases h₁ : k = "detail"
  · subst h₁
    cases v <;> simp [fieldError, stringError, stringField, textOf, absorb]
  by_cases h₂ : k = "instance"
  · subst h₂
    cases v <;> simp [fieldError, optionalStringError, stringError, optionalStringField, stringField,
      textOf, absorb, Except.map]
  by_cases h₃ : k = "status"
  · subst h₃
    cases v with
    | number n =>
      cases n with
      | unsigned n =>
        by_cases hn : n ≤ 65535 <;>
          simp [fieldError, statusError, optionalStatusField, Number.toU16, statusOf, absorb,
            Except.map, hn]
      | _ => simp [fieldError, statusError, optionalStatusField, Number.toU16, Value.unexpected,
          Number.unexpected, Except.map]
    | _ => simp [fieldError, statusError, optionalStatusField, statusOf, absorb]
  by_cases h₄ : k = "title"
  · subst h₄
    cases v <;> simp [fieldError, optionalStringError, stringError, optionalStringField, stringField,
      textOf, absorb, Except.map]
  by_cases h₅ : k = "type"
  · subst h₅
    cases v <;> simp [fieldError, optionalStringError, stringError, optionalStringField, stringField,
      textOf, absorb, Except.map]
  simp [fieldError, absorb, h₁, h₂, h₃, h₄, h₅]

/-- The walk stops at the first member of the wrong type, with its complaint. -/
theorem go_of_first_error {k : String} {v : Value} {e : ErrorCode} (he : fieldError k v = some e)
    (post : List (String × Value)) :
    ∀ (pre : List (String × Value)), (∀ m ∈ pre, fieldError m.1 m.2 = none) →
      ∀ det d, detailsOfMembers.go (pre ++ (k, v) :: post) det d = .error e
  | [], _, det, d => by rw [List.nil_append, go_cons, he]
  | (k', v') :: pre, hpre, det, d => by
    rw [List.cons_append, go_cons, hpre _ List.mem_cons_self]
    exact go_of_first_error he post pre (fun m hm => hpre m (List.mem_cons_of_mem _ hm)) _ _

/-- A walk that ends with details met no member of the wrong type. -/
theorem typed_of_go_eq_ok :
    ∀ {ms : List (String × Value)} {det : Option String} {d d' : ProblemDetails},
      detailsOfMembers.go ms det d = .ok d' → ∀ m ∈ ms, fieldError m.1 m.2 = none
  | [], _, _, _, _ => by simp
  | (k, v) :: ms, det, d, d', h => by
    rw [go_cons] at h
    cases hf : fieldError k v with
    | some e => simp [hf] at h
    | none =>
      simp only [hf] at h
      intro m hm
      rcases List.mem_cons.1 hm with rfl | hm
      · exact hf
      · exact typed_of_go_eq_ok h m hm

/-- Where the keys are distinct, a field after one more member reads as the member sets it. -/
theorem elim_get_cons {k : String} {v : Value} {ms : List (String × Value)}
    (hk : k ∉ ms.map Prod.fst) (f : String) {α : Type} (x : Option α) (r : Value → Option α) :
    ((Value.object ((k, v) :: ms)).get f).elim x r =
      ((Value.object ms).get f).elim (if k = f then r v else x) r := by
  rw [get_object_cons]
  by_cases h : k = f
  · subst h
    simp [get_object_eq_none hk]
  · simp [h]

/-- **The walk over well-typed members with distinct keys**: each field reads what `Value.get`
finds for its key, or keeps its value from before the walk when the key is absent. -/
theorem go_of_typed :
    ∀ {ms : List (String × Value)}, (ms.map Prod.fst).Nodup → (∀ m ∈ ms, fieldError m.1 m.2 = none) →
      ∀ det d, detailsOfMembers.go ms det d =
        match ((Value.object ms).get "detail").elim det textOf with
        | some s => .ok
            { detail := s
              occurrence := ((Value.object ms).get "instance").elim d.occurrence textOf
              status := ((Value.object ms).get "status").elim d.status statusOf
              title := ((Value.object ms).get "title").elim d.title textOf
              problemType := ((Value.object ms).get "type").elim d.problemType textOf }
        | none => .error (.data "missing field `detail`")
  | [], _, _, det, d => by
    cases det <;> rfl
  | (k, v) :: ms, hk, ht, det, d => by
    obtain ⟨hk₁, hk₂⟩ := List.nodup_cons.1 hk
    rw [go_cons, ht _ List.mem_cons_self,
      go_of_typed hk₂ (fun m hm => ht m (List.mem_cons_of_mem _ hm))]
    simp only [elim_get_cons hk₁]
    rfl

/-! ## The details an accepted `message` gives -/

/-- A text member that passes: absent, null, or a string. -/
def TextAccepted (o : Option Value) : Prop :=
  o = none ∨ o = some .null ∨ ∃ s, o = some (.string s)

/-- A status member that passes: absent, null, or an integer in `100 .. 599`. -/
def StatusAccepted (o : Option Value) : Prop :=
  o = none ∨ o = some .null ∨ ∃ n, o = some (.number (.unsigned n)) ∧ 100 ≤ n ∧ n ≤ 599

/-- **An accepted `message` object**, with members `ms` and detail `s`: the detail a string with
a character that is not white space, the status absent, null or in `100 .. 599`, and the other
three fields absent, null or strings. No other member matters. -/
structure MessageAccepted (ms : List (String × Value)) (s : String) : Prop where
  detail : (Value.object ms).get "detail" = some (.string s)
  notBlank : ∃ c ∈ s.toList, isWhiteSpace c = false
  status : StatusAccepted ((Value.object ms).get "status")
  occurrence : TextAccepted ((Value.object ms).get "instance")
  title : TextAccepted ((Value.object ms).get "title")
  problemType : TextAccepted ((Value.object ms).get "type")

/-- The details an accepted `message` object gives: the detail `s`, every other field what its
member carries, absent or null read as none. -/
def detailsRead (ms : List (String × Value)) (s : String) : ProblemDetails where
  detail := s
  occurrence := ((Value.object ms).get "instance").bind textOf
  status := ((Value.object ms).get "status").bind statusOf
  title := ((Value.object ms).get "title").bind textOf
  problemType := ((Value.object ms).get "type").bind textOf

theorem elim_none_eq_bind {α β : Type} (o : Option α) (f : α → Option β) :
    o.elim none f = o.bind f := by
  cases o <;> rfl

/-- With distinct keys, well-typed members and a string detail, the walk gives the details the
members read as. -/
theorem detailsOfMembers_of_typed {ms : List (String × Value)} {s : String}
    (hk : (ms.map Prod.fst).Nodup) (ht : ∀ m ∈ ms, fieldError m.1 m.2 = none)
    (hd : (Value.object ms).get "detail" = some (.string s)) :
    detailsOfMembers ms = .ok (detailsRead ms s) := by
  rw [detailsOfMembers, go_of_typed hk ht, hd]
  simp only [elim_none_eq_bind]
  rfl

theorem get_object_of_mem {ms : List (String × Value)} (hk : (ms.map Prod.fst).Nodup)
    {k : String} {v : Value} (hm : (k, v) ∈ ms) : (Value.object ms).get k = some v := by
  induction ms with
  | nil => cases hm
  | cons m ms ih =>
    obtain ⟨hk₁, hk₂⟩ := List.nodup_cons.1 hk
    rw [get_object_cons]
    rcases List.mem_cons.1 hm with rfl | hm
    · simp
    · have hne : m.1 ≠ k := fun h => hk₁ (h ▸ List.mem_map_of_mem hm)
      rw [if_neg hne, ih hk₂ hm]

/-- Members are all well typed when every key that `Value.get` finds is. -/
theorem typed_of_get {ms : List (String × Value)} (hk : (ms.map Prod.fst).Nodup)
    (h : ∀ k v, (Value.object ms).get k = some v → fieldError k v = none) :
    ∀ m ∈ ms, fieldError m.1 m.2 = none :=
  fun m hm => h m.1 m.2 (get_object_of_mem hk hm)

/-- An accepted `message` object has no member of the wrong type. -/
theorem MessageAccepted.typed {ms : List (String × Value)} {s : String}
    (hk : (ms.map Prod.fst).Nodup) (ha : MessageAccepted ms s) :
    ∀ m ∈ ms, fieldError m.1 m.2 = none := by
  refine typed_of_get hk fun k v hv => ?_
  have text_ok : ∀ {o}, TextAccepted o → o = some v → v = .null ∨ ∃ s, v = .string s := by
    rintro o (rfl | rfl | ⟨t, rfl⟩) hov <;> cases hov <;> simp
  -- one case per field read; a member no field reads is never wrong
  by_cases h₁ : k = "detail"
  · subst h₁
    rw [ha.detail] at hv
    cases hv
    simp [fieldError, stringError]
  by_cases h₂ : k = "status"
  · subst h₂
    rcases ha.status with ho | ho | ⟨n, ho, hlo, hhi⟩ <;> rw [ho] at hv <;> cases hv
    · simp [fieldError, statusError]
    · exact fieldError_status_eq_none_iff.2 (Or.inr ⟨n, rfl, by omega⟩)
  by_cases h₃ : k = "instance"
  · subst h₃
    exact (fieldError_text_eq_none_iff (Or.inl rfl)).2 (text_ok ha.occurrence hv)
  by_cases h₄ : k = "title"
  · subst h₄
    exact (fieldError_text_eq_none_iff (Or.inr (Or.inl rfl))).2 (text_ok ha.title hv)
  by_cases h₅ : k = "type"
  · subst h₅
    exact (fieldError_text_eq_none_iff (Or.inr (Or.inr rfl))).2 (text_ok ha.problemType hv)
  exact fieldError_of_unread v ⟨h₁, h₃, h₂, h₄, h₅⟩

/-- A text field of well-typed members passes. -/
theorem textAccepted_of_typed {ms : List (String × Value)} (ht : ∀ m ∈ ms, fieldError m.1 m.2 = none)
    {k : String} (hk : k = "instance" ∨ k = "title" ∨ k = "type") :
    TextAccepted ((Value.object ms).get k) := by
  cases hv : (Value.object ms).get k with
  | none => exact Or.inl rfl
  | some v =>
    rcases (fieldError_text_eq_none_iff hk).1 (ht _ (mem_of_get_object_eq_some hv)) with rfl | ⟨s, rfl⟩
    · exact Or.inr (Or.inl rfl)
    · exact Or.inr (Or.inr ⟨s, rfl⟩)

/-- A blank detail fails validation, whatever the status. -/
theorem validate_of_blank {d : ProblemDetails} (h : ∀ c ∈ d.detail.toList, isWhiteSpace c = true) :
    d.validate = .error (.invalid "message.detail" "must not be blank") := by
  simp [ProblemDetails.validate, (Text.trimWhite_isEmpty_iff _).2 h]

/-- Past a detail that is not blank, a given status decides validation by its range. -/
theorem validate_of_status {d : ProblemDetails} {n : Nat}
    (hb : ∃ c ∈ d.detail.toList, isWhiteSpace c = false) (hs : d.status = some n) :
    d.validate = if 100 ≤ n ∧ n ≤ 599 then .ok ()
      else .error (.invalid "message.status" (toString n ++ " is not between 100 and 599")) := by
  simp [ProblemDetails.validate, (Text.trimWhite_isEmpty_eq_false_iff _).2 hb, hs]

/-- **Validation**: it passes exactly when the detail has a character that is not white space
and any status is in `100 .. 599`. -/
theorem validate_eq_ok_iff (d : ProblemDetails) :
    d.validate = .ok () ↔ (∃ c ∈ d.detail.toList, isWhiteSpace c = false) ∧
      ∀ n, d.status = some n → 100 ≤ n ∧ n ≤ 599 := by
  unfold ProblemDetails.validate
  cases hb : (Text.trimWhite d.detail.toList).isEmpty
  · -- a detail that is not blank: the status decides
    have hsome := (Text.trimWhite_isEmpty_eq_false_iff _).1 hb
    cases hs : d.status with
    | none => simp [hsome]
    | some n => by_cases hr : 100 ≤ n ∧ n ≤ 599 <;> simp [hsome, hr]
  · have hall := (Text.trimWhite_isEmpty_iff _).1 hb
    simp only [if_true, reduceCtorEq, false_iff, not_and]
    rintro ⟨c, hc, hw⟩
    simp [hall c hc] at hw

/-- **The members of an accepted `message`**: the walk and validation pass, giving `d`, exactly
when the object is accepted and `d` is what its members read as. -/
theorem members_accepted_iff {ms : List (String × Value)} (hk : (ms.map Prod.fst).Nodup)
    (d : ProblemDetails) :
    (detailsOfMembers ms = .ok d ∧ d.validate = .ok ()) ↔
      ∃ s, MessageAccepted ms s ∧ d = detailsRead ms s := by
  constructor
  · rintro ⟨hw, hv⟩
    have ht := typed_of_go_eq_ok hw
    -- the walk ended with a detail, so `detail` is present, and a string since it is well typed
    obtain ⟨s, hd⟩ : ∃ s, (Value.object ms).get "detail" = some (.string s) := by
      cases hd : (Value.object ms).get "detail" with
      | none =>
        rw [detailsOfMembers, go_of_typed hk ht, hd] at hw
        cases hw
      | some x =>
        obtain ⟨s, rfl⟩ := fieldError_detail_eq_none_iff.1 (ht _ (mem_of_get_object_eq_some hd))
        exact ⟨s, rfl⟩
    rw [detailsOfMembers_of_typed hk ht hd, Except.ok.injEq] at hw
    subst hw
    obtain ⟨hblank, hstatus⟩ := (validate_eq_ok_iff _).1 hv
    refine ⟨s, ⟨hd, hblank, ?_, textAccepted_of_typed ht (Or.inl rfl),
      textAccepted_of_typed ht (Or.inr (Or.inl rfl)), textAccepted_of_typed ht (Or.inr (Or.inr rfl))⟩, rfl⟩
    cases hs : (Value.object ms).get "status" with
    | none => exact Or.inl rfl
    | some v =>
      rcases fieldError_status_eq_none_iff.1 (ht _ (mem_of_get_object_eq_some hs)) with
        rfl | ⟨n, rfl, -⟩
      · exact Or.inr (Or.inl rfl)
      · exact Or.inr (Or.inr ⟨n, rfl, hstatus n (by simp [detailsRead, hs, statusOf])⟩)
  · rintro ⟨s, ha, rfl⟩
    refine ⟨detailsOfMembers_of_typed hk (ha.typed hk) ha.detail, (validate_eq_ok_iff _).2
      ⟨ha.notBlank, fun n hn => ?_⟩⟩
    rcases ha.status with ho | ho | ⟨m, ho, hm⟩ <;> simp [detailsRead, ho, statusOf] at hn
    exact hn ▸ hm

/-! ## The seven checks -/

section Decode

variable {body : String} {v : Value} {ms : List (String × Value)}

/-- The `message` object of a parsed body has distinct keys, as every object the reader builds. -/
theorem message_keys_nodup (hp : parseValue body = .ok v)
    (hm : v.get "message" = some (.object ms)) : (ms.map Prod.fst).Nodup := by
  cases v with
  | object top =>
    have hs := (parseValue_sorted hp).members.2 _ (mem_of_get_object_eq_some hm)
    exact hs.members.1.nodup
  | _ => simp [Value.get] at hm

theorem decodeErrorNotice_of_parse_error {e : Json.Error} (hp : parseValue body = .error e) :
    decodeErrorNotice body = .error (.invalidJson e.message) := by
  simp [decodeErrorNotice, hp]

theorem decodeErrorNotice_of_missing_message (hp : parseValue body = .ok v)
    (hm : v.get "message" = none ∨ v.get "message" = some .null) :
    decodeErrorNotice body = .error (.missingField "message") := by
  rcases hm with hm | hm <;> simp [decodeErrorNotice, hp, hm]

theorem decodeErrorNotice_of_not_object {m : Value} (hp : parseValue body = .ok v)
    (hm : v.get "message" = some m) (hn : m ≠ .null) (ho : m.isObject = false) :
    decodeErrorNotice body = .error (.invalid "message" "expected an object") := by
  cases m <;> simp_all [decodeErrorNotice, Value.isObject]

theorem decodeErrorNotice_of_missing_detail (hp : parseValue body = .ok v)
    (hm : v.get "message" = some (.object ms))
    (hd : (Value.object ms).get "detail" = none ∨ (Value.object ms).get "detail" = some .null) :
    decodeErrorNotice body = .error (.missingField "message.detail") := by
  rcases hd with hd | hd <;> simp [decodeErrorNotice, hp, hm, hd]

/-- Past the first four checks, the walk over the members and validation decide. -/
theorem decodeErrorNotice_of_members {x : Value} (hp : parseValue body = .ok v)
    (hm : v.get "message" = some (.object ms)) (hd : (Value.object ms).get "detail" = some x)
    (hx : x ≠ .null) :
    decodeErrorNotice body =
      ((detailsOfMembers ms).mapError fun code => .invalid "message" code.text).bind
        fun d => d.validate.map fun _ => d := by
  cases x
  case null => exact absurd rfl hx
  all_goals
    simp only [decodeErrorNotice, hp, hm, hd]
    cases detailsOfMembers ms <;> rfl

/-- Check five: the first member of `message`, in key order, of the wrong type names the error. -/
theorem decodeErrorNotice_of_first_error {x : Value} (hp : parseValue body = .ok v)
    (hm : v.get "message" = some (.object ms)) (hd : (Value.object ms).get "detail" = some x)
    (hx : x ≠ .null) {pre post : List (String × Value)} {k : String} {y : Value} {e : ErrorCode}
    (hms : ms = pre ++ (k, y) :: post) (hpre : ∀ m ∈ pre, fieldError m.1 m.2 = none)
    (he : fieldError k y = some e) :
    decodeErrorNotice body = .error (.invalid "message" e.text) := by
  rw [decodeErrorNotice_of_members hp hm hd hx, detailsOfMembers, hms,
    go_of_first_error he post pre hpre]
  rfl

/-- Checks six and seven: with every member well typed, validation decides. -/
theorem decodeErrorNotice_of_typed {s : String} (hp : parseValue body = .ok v)
    (hm : v.get "message" = some (.object ms)) (ht : ∀ m ∈ ms, fieldError m.1 m.2 = none)
    (hd : (Value.object ms).get "detail" = some (.string s)) :
    decodeErrorNotice body = ((detailsRead ms s).validate).map fun _ => detailsRead ms s := by
  rw [decodeErrorNotice_of_members hp hm hd (by simp),
    detailsOfMembers_of_typed (message_keys_nodup hp hm) ht hd]
  rfl

/-- **Accepted bodies**: the decoder gives `d` exactly when the body is JSON whose `message` is an
accepted object and `d` is what its members read as. -/
theorem decodeErrorNotice_eq_ok_iff (d : ProblemDetails) :
    decodeErrorNotice body = .ok d ↔
      ∃ v ms s, parseValue body = .ok v ∧ v.get "message" = some (.object ms) ∧
        MessageAccepted ms s ∧ d = detailsRead ms s := by
  constructor
  · intro h
    -- follow the decoder down the one path that can end in `ok`
    unfold decodeErrorNotice at h
    split at h
    · cases h
    next v hp =>
    split at h
    · cases h
    · cases h
    · next ms hm =>
      split at h
      · cases h
      · cases h
      · next x hd hx =>
        split at h
        · cases h
        · next d₀ hw =>
          have hv : d₀.validate = .ok () ∧ d₀ = d := by
            cases hval : d₀.validate <;> simp_all [Except.map]
          obtain ⟨s, ha, hs⟩ := (members_accepted_iff (message_keys_nodup hp hm) d₀).1 ⟨hw, hv.1⟩
          exact ⟨v, ms, s, hp, hm, ha, hv.2 ▸ hs⟩
    · cases h
  · rintro ⟨v, ms, s, hp, hm, ha, rfl⟩
    have hk := message_keys_nodup hp hm
    have hw := (members_accepted_iff hk _).2 ⟨s, ha, rfl⟩
    rw [decodeErrorNotice_of_typed hp hm (ha.typed hk) ha.detail, hw.2]
    rfl

end Decode

/-- **Decoding an error notice, check by check.** A key given twice keeps its last value, since
each member read replaces one of the same key. The decoder accepts a body exactly when it is JSON
whose `message` is an accepted object, and gives the details its members read as. Otherwise it
fails with the error of the first check that does not pass: the body is not JSON; `message` is
absent or null (as it is when the body is not an object); `message` is not an object; its `detail`
is absent or null; a member of the wrong type, the first in key order, with the reader's
complaint; the detail is blank; the status is outside `100 .. 599`. -/
theorem decodeErrorNotice_checks (body : String) :
    (∀ k x ms, (Value.object (insertMember k x ms)).get k = some x ∧
      ∀ f, f ≠ k → (Value.object (insertMember k x ms)).get f = (Value.object ms).get f) ∧
    (∀ d, decodeErrorNotice body = .ok d ↔
      ∃ v ms s, parseValue body = .ok v ∧ v.get "message" = some (.object ms) ∧
        MessageAccepted ms s ∧ d = detailsRead ms s) ∧
    (∀ e, parseValue body = .error e → decodeErrorNotice body = .error (.invalidJson e.message)) ∧
    (∀ v, parseValue body = .ok v → v.get "message" = none ∨ v.get "message" = some .null →
      decodeErrorNotice body = .error (.missingField "message")) ∧
    (∀ v m, parseValue body = .ok v → v.get "message" = some m → m ≠ .null →
      m.isObject = false → decodeErrorNotice body = .error (.invalid "message" "expected an object")) ∧
    (∀ v ms, parseValue body = .ok v → v.get "message" = some (.object ms) →
      (Value.object ms).get "detail" = none ∨ (Value.object ms).get "detail" = some .null →
      decodeErrorNotice body = .error (.missingField "message.detail")) ∧
    (∀ v ms x pre k y post e, parseValue body = .ok v → v.get "message" = some (.object ms) →
      (Value.object ms).get "detail" = some x → x ≠ .null → ms = pre ++ (k, y) :: post →
      (∀ m ∈ pre, fieldError m.1 m.2 = none) → fieldError k y = some e →
      decodeErrorNotice body = .error (.invalid "message" e.text)) ∧
    (∀ v ms s, parseValue body = .ok v → v.get "message" = some (.object ms) →
      (∀ m ∈ ms, fieldError m.1 m.2 = none) → (Value.object ms).get "detail" = some (.string s) →
      (∀ c ∈ s.toList, isWhiteSpace c = true) →
      decodeErrorNotice body = .error (.invalid "message.detail" "must not be blank")) ∧
    (∀ v ms s n, parseValue body = .ok v → v.get "message" = some (.object ms) →
      (∀ m ∈ ms, fieldError m.1 m.2 = none) → (Value.object ms).get "detail" = some (.string s) →
      (∃ c ∈ s.toList, isWhiteSpace c = false) →
      (Value.object ms).get "status" = some (.number (.unsigned n)) → ¬ (100 ≤ n ∧ n ≤ 599) →
      decodeErrorNotice body =
        .error (.invalid "message.status" (toString n ++ " is not between 100 and 599"))) := by
  refine ⟨fun k x ms => ⟨get_insertMember_self k x ms, fun f hf => get_insertMember_of_ne x hf.symm ms⟩,
    decodeErrorNotice_eq_ok_iff, fun e hp => decodeErrorNotice_of_parse_error hp,
    fun v hp hm => decodeErrorNotice_of_missing_message hp hm,
    fun v m hp hm hn ho => decodeErrorNotice_of_not_object hp hm hn ho,
    fun v ms hp hm hd => decodeErrorNotice_of_missing_detail hp hm hd,
    fun v ms x pre k y post e hp hm hd hx hms hpre he =>
      decodeErrorNotice_of_first_error hp hm hd hx hms hpre he,
    fun v ms s hp hm ht hd hb => ?_, fun v ms s n hp hm ht hd hb hs hr => ?_⟩
  · rw [decodeErrorNotice_of_typed hp hm ht hd, validate_of_blank hb]
    rfl
  · have hn : (detailsRead ms s).status = some n := by simp [detailsRead, hs, statusOf]
    rw [decodeErrorNotice_of_typed hp hm ht hd, validate_of_status hb hn, if_neg hr]
    rfl

end Payload

end StompConsole
