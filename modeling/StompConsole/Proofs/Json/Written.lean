import Mathlib
import StompConsole.Proofs.Json.Literals
import StompConsole.Proofs.Json.Members

/-!
# What the writer writes, the reader reads

Every value built of nulls, booleans, strings, integers below `2 ^ 64`, and arrays and objects
with their keys in order, nested no deeper than the reader allows, reads back as itself
(`Value.Readable.readsBack`, and `parseValue_compact` for a whole text). The proof follows the
reader: one lemma per round of its element loops (`readItems_step`, `readMembers_step`), the loops
over separated elements by induction on the elements, and a value by induction on its nesting.
Objects need their keys in order because the reader files each member it reads with
`insertMember`, which puts a key greater than all before it last (`insertMember_of_lt`).

The typed readers of string arrays, strings and code-reason pairs read back what the writer writes
of those shapes as well (`readStringArray_text`, `readString_quoteJson`, `readCodeReason_text`).
-/

namespace StompConsole.Json

-- The reader's and the writer's equation lemmas, made here once: the proofs below unfold these
-- definitions side by side, and would otherwise each wait for the first of them to make them.
section
attribute [local simp] readValue readItems readMembers readStringItems nextElement nextKey
  expectColon closeSeq closeMap Cursor.skipSpace skipSpace isJsonSpace Cursor.advance Cursor.peek
  Value.render renderItems renderMembers quoteJson
end

/-! ## Values -/

/-- **Values the reader gives back as they were written**, within a nesting budget: nulls,
booleans, strings and integers below `2 ^ 64`, and arrays and objects whose elements are such
values one level down, objects with their keys in order, each once. The reader refuses an array
or an object when its budget is down to one. Negative integers and doubles are left out. -/
inductive Value.Readable : Nat → Value → Prop
  | null {depth : Nat} : Value.Readable depth .null
  | bool {depth : Nat} (b : Bool) : Value.Readable depth (.bool b)
  | string {depth : Nat} (s : String) : Value.Readable depth (.string s)
  | unsigned {depth n : Nat} : n ≤ maxU64 → Value.Readable depth (.number (.unsigned n))
  | array {depth : Nat} {items : List Value} : 1 < depth →
      (∀ v ∈ items, Value.Readable (depth - 1) v) → Value.Readable depth (.array items)
  | object {depth : Nat} {ms : List (String × Value)} : 1 < depth → KeysSorted ms →
      (∀ m ∈ ms, Value.Readable (depth - 1) m.2) → Value.Readable depth (.object ms)

/-- What the induction over a readable value carries: its text starts with a character that
opens a value, and the reader at budget `depth` gives the value back before whatever closes it. -/
def ReadsBack (depth : Nat) (v : Value) : Prop :=
  (∃ c cs, v.render = c :: cs ∧ 32 < c.toNat ∧ c ≠ ']' ∧ c ≠ '}') ∧
    ∀ rest p, Closes rest → ∃ p', readValue depth ⟨v.render ++ rest, p⟩ = .ok (v, ⟨rest, p'⟩)

section Scalars

variable {depth : Nat} {rest : List Char} (p : Pos)

theorem readValue_null : ∃ p', readValue depth ⟨Value.null.render ++ rest, p⟩ =
    .ok (.null, ⟨rest, p'⟩) := by
  refine ⟨(((p.next 'n').next 'u').next 'l').next 'l', ?_⟩
  rw [readValue]
  simp [Value.render, Cursor.skipSpace, skipSpace, isJsonSpace, expectWord, Cursor.advance,
    Except.map]

theorem readValue_bool (b : Bool) : ∃ p', readValue depth ⟨(Value.bool b).render ++ rest, p⟩ =
    .ok (.bool b, ⟨rest, p'⟩) := by
  cases b
  · refine ⟨((((p.next 'f').next 'a').next 'l').next 's').next 'e', ?_⟩
    rw [readValue]
    simp [Value.render, Cursor.skipSpace, skipSpace, isJsonSpace, expectWord, Cursor.advance,
      Except.map]
  · refine ⟨(((p.next 't').next 'r').next 'u').next 'e', ?_⟩
    rw [readValue]
    simp [Value.render, Cursor.skipSpace, skipSpace, isJsonSpace, expectWord, Cursor.advance,
      Except.map]

theorem readValue_string (s : String) : ∃ p', readValue depth ⟨(Value.string s).render ++ rest, p⟩ =
    .ok (.string s, ⟨rest, p'⟩) := by
  obtain ⟨p', h⟩ := scanString_quoteJson s rest (p.next '"')
  refine ⟨p', ?_⟩
  rw [readValue]
  simp only [Value.render, quoteJson_append, Cursor.skipSpace, skipSpace, isJsonSpace]
  simp [Cursor.advance, Cursor.scanString, h, Except.map]

theorem readValue_unsigned {n : Nat} (hn : n ≤ maxU64) (hr : Closes rest) :
    ∃ p', readValue depth ⟨(Value.number (.unsigned n)).render ++ rest, p⟩ =
      .ok (.number (.unsigned n), ⟨rest, p'⟩) := by
  obtain ⟨p', h⟩ := scanNumber_toDigits hn hr p
  obtain ⟨d, ds, hds, hd⟩ := toDigits_eq_cons n
  -- a digit opens no word, no negative number and no string
  have hne : d ≠ 'n' ∧ d ≠ 't' ∧ d ≠ 'f' ∧ d ≠ '-' := by
    refine ⟨?_, ?_, ?_, ?_⟩ <;> (rintro rfl; revert hd; decide)
  have hsp := isJsonSpace_of_lt (space_lt_of_isDigit hd)
  refine ⟨p', ?_⟩
  rw [readValue]
  simp only [Value.render, Number.text, Nat.toString_eq_ofList_toDigits, String.toList_ofList, hds,
    List.cons_append, Cursor.skipSpace, skipSpace_of_not_space hsp]
  simp only [hne, if_false, hd, if_true]
  rw [← List.cons_append, ← hds, h]
  rfl

end Scalars

/-! ## The steps of the element loops -/

/-- After separated elements comes the closing bracket or brace, which ends a value. -/
theorem closes_sep {α : Type} (f : α → List Char) (xs : List α) {close : Char}
    (hc : close = ']' ∨ close = '}') (rest : List Char) :
    Closes ((xs.flatMap fun x => ',' :: f x) ++ close :: rest) := by
  cases xs with
  | nil => simpa [Closes] using Or.inr hc
  | cons x xs => simp [Closes]

/-- Each separated element takes at least its comma. -/
theorem length_le_flatMap_sep {α : Type} (f : α → List Char) (xs : List α) :
    xs.length ≤ (xs.flatMap fun x => ',' :: f x).length := by
  induction xs with
  | nil => simp
  | cons x xs ih =>
    simp only [List.flatMap_cons, List.length_append, List.length_cons]
    omega

theorem nextElement_close (first : Bool) (rest : List Char) (p : Pos) :
    nextElement first ⟨']' :: rest, p⟩ = .ok none := by
  simp [nextElement, Cursor.skipSpace, skipSpace, isJsonSpace]

theorem nextElement_first {c : Char} (hc : 32 < c.toNat) (hb : c ≠ ']') (cs : List Char)
    (p : Pos) : nextElement true ⟨c :: cs, p⟩ = .ok (some ⟨c :: cs, p⟩) := by
  simp only [nextElement, Cursor.skipSpace, skipSpace_of_not_space (isJsonSpace_of_lt hc)]
  split <;> simp_all

theorem nextElement_comma {c : Char} (hc : 32 < c.toNat) (hb : c ≠ ']') (cs : List Char)
    (p : Pos) : nextElement false ⟨',' :: c :: cs, p⟩ = .ok (some ⟨c :: cs, p.next ','⟩) := by
  simp [nextElement, Cursor.skipSpace, skipSpace, isJsonSpace, Cursor.advance,
    skipSpace_of_not_space (isJsonSpace_of_lt hc)]

theorem closeSeq_bracket (rest : List Char) (p : Pos) :
    closeSeq ⟨']' :: rest, p⟩ = .ok ⟨rest, p.next ']'⟩ := by
  simp [closeSeq, Cursor.skipSpace, skipSpace, isJsonSpace, Cursor.advance]

theorem nextKey_close (first : Bool) (rest : List Char) (p : Pos) :
    nextKey first ⟨'}' :: rest, p⟩ = .ok none := by
  simp [nextKey, Cursor.skipSpace, skipSpace, isJsonSpace]

/-- The first key of an object is read back. -/
theorem nextKey_first (k : String) (rest : List Char) (p : Pos) :
    ∃ p', nextKey true ⟨quoteJson k ++ rest, p⟩ = .ok (some (k, ⟨rest, p'⟩)) := by
  obtain ⟨p', h⟩ := scanString_quoteJson k rest (p.next '"')
  refine ⟨p', ?_⟩
  simp [nextKey, quoteJson_append, Cursor.skipSpace, skipSpace, isJsonSpace, Cursor.advance,
    Cursor.scanString, h]

/-- A later key of an object is read back after its comma. -/
theorem nextKey_comma (k : String) (rest : List Char) (p : Pos) :
    ∃ p', nextKey false ⟨',' :: (quoteJson k ++ rest), p⟩ = .ok (some (k, ⟨rest, p'⟩)) := by
  obtain ⟨p', h⟩ := scanString_quoteJson k rest ((p.next ',').next '"')
  refine ⟨p', ?_⟩
  simp [nextKey, quoteJson_append, Cursor.skipSpace, skipSpace, isJsonSpace, Cursor.advance,
    Cursor.scanString, h]

theorem expectColon_colon (rest : List Char) (p : Pos) :
    expectColon ⟨':' :: rest, p⟩ = .ok ⟨rest, p.next ':'⟩ := by
  simp [expectColon, Cursor.skipSpace, skipSpace, isJsonSpace, Cursor.advance]

theorem closeMap_brace (rest : List Char) (p : Pos) :
    closeMap ⟨'}' :: rest, p⟩ = .ok ⟨rest, p.next '}'⟩ := by
  simp [closeMap, Cursor.skipSpace, skipSpace, isJsonSpace, Cursor.advance]

/-- A loop given fuel for each element of a nonempty list has a round left, and fuel for the rest
after it. -/
theorem exists_fuel_of_length_cons_le {α : Type} {x : α} {xs : List α} {fuel : Nat}
    (h : (x :: xs).length ≤ fuel) : ∃ f, fuel = f + 1 ∧ xs.length ≤ f := by
  rw [List.length_cons] at h
  exact ⟨fuel - 1, by omega, by omega⟩

section Loops

variable {depth fuel : Nat} {first : Bool} {c c₁ c₂ c₃ : Cursor} {v : Value}

/-- **One round of the array loop**: an element found and read is kept, and the loop goes on. -/
theorem readItems_step {acc : List Value} (hn : nextElement first c = .ok (some c₁))
    (hv : readValue depth c₁ = .ok (v, c₂)) :
    readItems depth (fuel + 1) first acc c = readItems depth fuel false (v :: acc) c₂ := by
  rw [readItems, hn]
  simp only [hv]

/-- The array loop ends at the closing bracket with the elements in the order read. -/
theorem readItems_done {acc : List Value} (hn : nextElement first c = .ok none) :
    readItems depth fuel first acc c = .ok (acc.reverse, c) := by
  rw [readItems, hn]

/-- **One round of the object loop**: a member found and read goes into the object, and the loop
goes on. -/
theorem readMembers_step {acc : List (String × Value)} {k : String}
    (hk : nextKey first c = .ok (some (k, c₁))) (hc : expectColon c₁ = .ok c₂)
    (hv : readValue depth c₂ = .ok (v, c₃)) :
    readMembers depth (fuel + 1) first acc c = readMembers depth fuel false (insertMember k v acc) c₃ := by
  rw [readMembers, hk]
  simp only [hc, hv]

theorem readMembers_done {acc : List (String × Value)} (hk : nextKey first c = .ok none) :
    readMembers depth fuel first acc c = .ok (acc, c) := by
  rw [readMembers, hk]

end Loops

/-! ## Arrays -/

theorem renderItems_cons (v : Value) (vs : List Value) :
    renderItems (v :: vs) = v.render ++ vs.flatMap fun w => ',' :: w.render := by
  induction vs generalizing v with
  | nil => simp [renderItems]
  | cons w ws ih => simp [renderItems, ih w]

section Arrays

variable {depth : Nat} (rest : List Char)

/-- The elements after the first, each after its comma, are read back in order, up to the
closing bracket. -/
theorem readItems_sep : ∀ (vs : List Value) (fuel : Nat) (acc : List Value) (p : Pos),
    (∀ v ∈ vs, ReadsBack depth v) → vs.length ≤ fuel →
    ∃ p', readItems depth fuel false acc
      ⟨(vs.flatMap fun v => ',' :: v.render) ++ ']' :: rest, p⟩ =
        .ok (acc.reverse ++ vs, ⟨']' :: rest, p'⟩)
  | [], fuel, acc, p, _, _ => ⟨p, by simpa using readItems_done (nextElement_close false rest p)⟩
  | v :: vs, fuel, acc, p, hvs, hfuel => by
    obtain ⟨⟨c, cs, hv, hc, hb, -⟩, hread⟩ := hvs v (by simp)
    let after := (vs.flatMap fun v => ',' :: v.render) ++ ']' :: rest
    obtain ⟨p₁, h₁⟩ := hread after (p.next ',') (closes_sep _ vs (Or.inl rfl) rest)
    obtain ⟨fuel, rfl, hrest⟩ := exists_fuel_of_length_cons_le hfuel
    obtain ⟨p₂, h₂⟩ := readItems_sep vs fuel (v :: acc) p₁ (fun w hw => hvs w (by simp [hw])) hrest
    refine ⟨p₂, ?_⟩
    have htext : ((v :: vs).flatMap fun v => ',' :: v.render) ++ ']' :: rest =
        ',' :: (v.render ++ after) := by
      simp [after]
    have hn := nextElement_comma hc hb (cs ++ after) p
    rw [← List.cons_append, ← hv] at hn
    rw [htext, readItems_step hn h₁, h₂]
    simp

/-- **An array's elements are read back**, up to its closing bracket. -/
theorem readItems_renderItems (items : List Value) (hitems : ∀ v ∈ items, ReadsBack depth v)
    (fuel : Nat) (hfuel : items.length ≤ fuel) (p : Pos) :
    ∃ p', readItems depth fuel true [] ⟨renderItems items ++ ']' :: rest, p⟩ =
      .ok (items, ⟨']' :: rest, p'⟩) := by
  cases items with
  | nil => exact ⟨p, readItems_done (nextElement_close true rest p)⟩
  | cons v vs =>
    obtain ⟨⟨c, cs, hv, hc, hb, -⟩, hread⟩ := hitems v (by simp)
    let after := (vs.flatMap fun v => ',' :: v.render) ++ ']' :: rest
    obtain ⟨p₁, h₁⟩ := hread after p (closes_sep _ vs (Or.inl rfl) rest)
    obtain ⟨fuel, rfl, hrest⟩ := exists_fuel_of_length_cons_le hfuel
    obtain ⟨p₂, h₂⟩ := readItems_sep rest vs fuel [v] p₁ (fun w hw => hitems w (by simp [hw])) hrest
    refine ⟨p₂, ?_⟩
    have hn := nextElement_first hc hb (cs ++ after) p
    rw [← List.cons_append, ← hv] at hn
    rw [renderItems_cons, List.append_assoc, readItems_step hn h₁, h₂]
    simp

theorem length_le_renderItems (items : List Value) :
    items.length ≤ (renderItems items ++ ']' :: rest).length := by
  cases items with
  | nil => simp
  | cons v vs =>
    have := length_le_flatMap_sep (fun w => w.render) vs
    simp only [renderItems_cons, List.length_append, List.length_cons]
    omega

/-- **An array is read back** when its elements are, one level down. -/
theorem readValue_array {items : List Value} (hd : 1 < depth)
    (hitems : ∀ v ∈ items, ReadsBack (depth - 1) v) (p : Pos) :
    ∃ p', readValue depth ⟨(Value.array items).render ++ rest, p⟩ = .ok (.array items, ⟨rest, p'⟩) := by
  obtain ⟨p₁, h₁⟩ := readItems_renderItems rest items hitems _ (length_le_renderItems rest items)
    (p.next '[')
  simp only [List.length_append, List.length_cons] at h₁
  refine ⟨p₁.next ']', ?_⟩
  rw [readValue]
  simp only [Value.render, List.cons_append, List.append_assoc,
    Cursor.skipSpace, skipSpace_of_not_space (isJsonSpace_of_lt (c := '[') (by decide))]
  simp only [show ¬ (depth ≤ 1) by omega, dite_false]
  simp [Cursor.advance, h₁, closeSeq_bracket]

end Arrays

/-! ## Objects -/

/-- A member's text: its key, a colon, its value. -/
theorem renderMembers_cons (m : String × Value) (ms : List (String × Value)) :
    renderMembers (m :: ms) = (quoteJson m.1 ++ ':' :: m.2.render) ++
      ms.flatMap fun m => ',' :: (quoteJson m.1 ++ ':' :: m.2.render) := by
  induction ms generalizing m with
  | nil => simp [renderMembers]
  | cons m' ms ih => simp [renderMembers, ih m']

/-- Inserting a key greater than all present puts it last. -/
theorem insertMember_of_lt {k : String} {v : Value} :
    ∀ {ms : List (String × Value)}, (∀ m ∈ ms, compareKeys m.1 k = .lt) →
      insertMember k v ms = ms ++ [(k, v)]
  | [], _ => rfl
  | (k', v') :: ms, h => by
    have hlt : compareKeys k' k = .lt := h (k', v') (by simp)
    -- the new key compares greater: not equal, and not less, which would make a cycle
    have hgt : compareKeys k k' = .gt := by
      cases hc : compareKeys k k' with
      | lt => exact absurd (compareChars_lt_trans hc hlt) (compareKeys_ne_lt_self k)
      | eq =>
        obtain rfl := compareKeys_eq_iff.1 hc
        exact absurd hlt (compareKeys_ne_lt_self k)
      | gt => rfl
    rw [insertMember, hgt, insertMember_of_lt (fun m hm => h m (by simp [hm]))]
    rfl

section Objects

variable {depth : Nat} (rest : List Char)

/-- The members after the first, each after its comma, are read back in order, up to the closing
brace: their keys come in order, so each goes in last. -/
theorem readMembers_sep : ∀ (ms : List (String × Value)) (fuel : Nat) (acc : List (String × Value))
    (p : Pos), (∀ m ∈ ms, ReadsBack depth m.2) → KeysSorted (acc ++ ms) → ms.length ≤ fuel →
    ∃ p', readMembers depth fuel false acc
      ⟨(ms.flatMap fun m => ',' :: (quoteJson m.1 ++ ':' :: m.2.render)) ++ '}' :: rest, p⟩ =
        .ok (acc ++ ms, ⟨'}' :: rest, p'⟩)
  | [], fuel, acc, p, _, _, _ => ⟨p, by simpa using readMembers_done (nextKey_close false rest p)⟩
  | (k, v) :: ms, fuel, acc, p, hms, hsorted, hfuel => by
    let after := (ms.flatMap fun m => ',' :: (quoteJson m.1 ++ ':' :: m.2.render)) ++ '}' :: rest
    obtain ⟨p₁, hk⟩ := nextKey_comma k (':' :: (v.render ++ after)) p
    obtain ⟨p₂, hv⟩ := (hms (k, v) (by simp)).2 after (p₁.next ':')
      (closes_sep _ ms (Or.inr rfl) rest)
    obtain ⟨fuel, rfl, hrest⟩ := exists_fuel_of_length_cons_le hfuel
    -- every key before is smaller, so the member goes in last
    have hlast : insertMember k v acc = acc ++ [(k, v)] :=
      insertMember_of_lt fun m hm => (List.pairwise_append.1 hsorted).2.2 m hm (k, v) (by simp)
    have hsorted' : KeysSorted ((acc ++ [(k, v)]) ++ ms) := by simpa using hsorted
    obtain ⟨p₃, h₃⟩ := readMembers_sep ms fuel (acc ++ [(k, v)]) p₂
      (fun m hm => hms m (by simp [hm])) hsorted' hrest
    refine ⟨p₃, ?_⟩
    have htext : (((k, v) :: ms).flatMap fun m => ',' :: (quoteJson m.1 ++ ':' :: m.2.render)) ++
        '}' :: rest = ',' :: (quoteJson k ++ ':' :: (v.render ++ after)) := by
      simp [after]
    rw [htext, readMembers_step hk (expectColon_colon _ p₁) hv, hlast, h₃]
    simp

/-- **An object's members are read back**, up to its closing brace, when their keys are in
order. -/
theorem readMembers_renderMembers (ms : List (String × Value)) (hms : ∀ m ∈ ms, ReadsBack depth m.2)
    (hsorted : KeysSorted ms) (fuel : Nat) (hfuel : ms.length ≤ fuel) (p : Pos) :
    ∃ p', readMembers depth fuel true [] ⟨renderMembers ms ++ '}' :: rest, p⟩ =
      .ok (ms, ⟨'}' :: rest, p'⟩) := by
  cases ms with
  | nil => exact ⟨p, readMembers_done (nextKey_close true rest p)⟩
  | cons m ms =>
    obtain ⟨k, v⟩ := m
    let after := (ms.flatMap fun m => ',' :: (quoteJson m.1 ++ ':' :: m.2.render)) ++ '}' :: rest
    obtain ⟨p₁, hk⟩ := nextKey_first k (':' :: (v.render ++ after)) p
    obtain ⟨p₂, hv⟩ := (hms (k, v) (by simp)).2 after (p₁.next ':')
      (closes_sep _ ms (Or.inr rfl) rest)
    obtain ⟨fuel, rfl, hrest⟩ := exists_fuel_of_length_cons_le hfuel
    obtain ⟨p₃, h₃⟩ := readMembers_sep rest ms fuel [(k, v)] p₂ (fun m hm => hms m (by simp [hm]))
      (by simpa using hsorted) hrest
    refine ⟨p₃, ?_⟩
    have htext : renderMembers ((k, v) :: ms) ++ '}' :: rest =
        quoteJson k ++ ':' :: (v.render ++ after) := by
      simp [renderMembers_cons, after]
    rw [htext, readMembers_step hk (expectColon_colon _ p₁) hv]
    exact h₃

theorem length_le_renderMembers (ms : List (String × Value)) :
    ms.length ≤ (renderMembers ms ++ '}' :: rest).length := by
  cases ms with
  | nil => simp
  | cons m ms =>
    have := length_le_flatMap_sep (fun m : String × Value => quoteJson m.1 ++ ':' :: m.2.render) ms
    simp only [renderMembers_cons, List.length_append, List.length_cons]
    omega

/-- **An object is read back** when its keys are in order and its values are read back one level
down. -/
theorem readValue_object {ms : List (String × Value)} (hd : 1 < depth)
    (hms : ∀ m ∈ ms, ReadsBack (depth - 1) m.2) (hsorted : KeysSorted ms) (p : Pos) :
    ∃ p', readValue depth ⟨(Value.object ms).render ++ rest, p⟩ = .ok (.object ms, ⟨rest, p'⟩) := by
  obtain ⟨p₁, h₁⟩ := readMembers_renderMembers rest ms hms hsorted _
    (length_le_renderMembers rest ms) (p.next '{')
  simp only [List.length_append, List.length_cons] at h₁
  refine ⟨p₁.next '}', ?_⟩
  rw [readValue]
  simp only [Value.render, List.cons_append, List.append_assoc,
    Cursor.skipSpace, skipSpace_of_not_space (isJsonSpace_of_lt (c := '{') (by decide))]
  simp only [show ¬ (depth ≤ 1) by omega, dite_false]
  simp [Cursor.advance, h₁, closeMap_brace]

end Objects

/-! ## Every readable value is read back -/

/-- **Every readable value is read back**, and its text opens with a character that opens a value:
induction on the value, each array and object from its elements one level down. -/
theorem Value.Readable.readsBack {depth : Nat} {v : Value} (h : v.Readable depth) :
    ReadsBack depth v := by
  induction h with
  | null =>
    exact ⟨⟨'n', ['u', 'l', 'l'], by simp [Value.render], by decide, by decide, by decide⟩,
      fun _ p _ => readValue_null p⟩
  | bool b =>
    refine ⟨?_, fun _ p _ => readValue_bool p b⟩
    cases b
    · exact ⟨'f', ['a', 'l', 's', 'e'], by simp [Value.render], by decide, by decide, by decide⟩
    · exact ⟨'t', ['r', 'u', 'e'], by simp [Value.render], by decide, by decide, by decide⟩
  | string s =>
    exact ⟨⟨'"', _, rfl, by decide, by decide, by decide⟩, fun _ p _ => readValue_string p s⟩
  | @unsigned _ n hn =>
    refine ⟨?_, fun _ p hr => readValue_unsigned p hn hr⟩
    obtain ⟨d, ds, hds, hd⟩ := toDigits_eq_cons n
    refine ⟨d, ds, by simp [Value.render, Number.text, hds], space_lt_of_isDigit hd, ?_, ?_⟩ <;>
      (rintro rfl; revert hd; decide)
  | array hd _ ih =>
    exact ⟨⟨'[', _, rfl, by decide, by decide, by decide⟩, fun rest p _ => readValue_array rest hd ih p⟩
  | object hd hsorted _ ih =>
    exact ⟨⟨'{', _, rfl, by decide, by decide, by decide⟩,
      fun rest p _ => readValue_object rest hd ih hsorted p⟩

/-- **Reading a written value gives it back**, for every value of strings, integers below `2 ^ 64`,
nulls, booleans, arrays and objects with their keys in order, nested as deep as the reader
allows. -/
theorem parseValue_compact {v : Value} (h : v.Readable maxDepth) : parseValue v.compact = .ok v := by
  obtain ⟨p', hp⟩ := h.readsBack.2 [] Pos.origin closes_nil
  rw [List.append_nil] at hp
  have hstart : Cursor.start v.compact = ⟨v.render, Pos.origin⟩ := by
    simp [Cursor.start, Value.compact]
  rw [parseValue, hstart, hp]
  rfl

/-! ## Typed reading -/

/-- A string literal is read back by the string reader. -/
theorem readString_quoteJson (s : String) (rest : List Char) (p : Pos) :
    ∃ p', readString ⟨quoteJson s ++ rest, p⟩ = .ok (s, ⟨rest, p'⟩) := by
  obtain ⟨p', h⟩ := scanString_quoteJson s rest (p.next '"')
  refine ⟨p', ?_⟩
  simp [readString, quoteJson_append, Cursor.skipSpace, skipSpace, isJsonSpace, Cursor.advance,
    Cursor.scanString, h]

section StringArrays

variable {fuel : Nat} {first : Bool} {acc : List String} {c c₁ c₂ : Cursor} {s : String}

theorem readStringItems_step (hn : nextElement first c = .ok (some c₁))
    (hs : readString c₁ = .ok (s, c₂)) :
    readStringItems (fuel + 1) first acc c = readStringItems fuel false (s :: acc) c₂ := by
  rw [readStringItems, hn]
  simp only [hs]

theorem readStringItems_done (hn : nextElement first c = .ok none) :
    readStringItems fuel first acc c = .ok (acc.reverse, c) := by
  rw [readStringItems, hn]

variable (rest : List Char)

/-- The strings after the first, each after its comma, are read back in order. -/
theorem readStringItems_sep : ∀ (ss : List String) (fuel : Nat) (acc : List String) (p : Pos),
    ss.length ≤ fuel →
    ∃ p', readStringItems fuel false acc ⟨(ss.flatMap fun s => ',' :: quoteJson s) ++ ']' :: rest, p⟩ =
      .ok (acc.reverse ++ ss, ⟨']' :: rest, p'⟩)
  | [], fuel, acc, p, _ => ⟨p, by simpa using readStringItems_done (nextElement_close false rest p)⟩
  | s :: ss, fuel, acc, p, hfuel => by
    let after := (ss.flatMap fun s => ',' :: quoteJson s) ++ ']' :: rest
    obtain ⟨p₁, h₁⟩ := readString_quoteJson s after (p.next ',')
    obtain ⟨fuel, rfl, hrest⟩ := exists_fuel_of_length_cons_le hfuel
    obtain ⟨p₂, h₂⟩ := readStringItems_sep ss fuel (s :: acc) p₁ hrest
    have hn := nextElement_comma (c := '"') (by decide) (by decide)
      (s.toList.flatMap escapeJsonChar ++ '"' :: after) p
    rw [← quoteJson_append] at hn
    refine ⟨p₂, ?_⟩
    have htext : ((s :: ss).flatMap fun s => ',' :: quoteJson s) ++ ']' :: rest =
        ',' :: (quoteJson s ++ after) := by
      simp [after]
    rw [htext, readStringItems_step hn h₁, h₂]
    simp

/-- **The strings of an array are read back**, up to its closing bracket: the first without a
comma, then each after one. -/
theorem readStringItems_renderItems (ss : List String) (fuel : Nat) (hfuel : ss.length ≤ fuel)
    (p : Pos) :
    ∃ p', readStringItems fuel true [] ⟨renderItems (ss.map .string) ++ ']' :: rest, p⟩ =
      .ok (ss, ⟨']' :: rest, p'⟩) := by
  cases ss with
  | nil => exact ⟨p, readStringItems_done (nextElement_close true rest p)⟩
  | cons s ss =>
    let after := (ss.flatMap fun s => ',' :: quoteJson s) ++ ']' :: rest
    obtain ⟨p₁, h₁⟩ := readString_quoteJson s after p
    obtain ⟨fuel, rfl, hrest⟩ := exists_fuel_of_length_cons_le hfuel
    obtain ⟨p₂, h₂⟩ := readStringItems_sep rest ss fuel [s] p₁ hrest
    have hn := nextElement_first (c := '"') (by decide) (by decide)
      (s.toList.flatMap escapeJsonChar ++ '"' :: after) p
    rw [← quoteJson_append] at hn
    refine ⟨p₂, ?_⟩
    have htext : renderItems ((s :: ss).map .string) ++ ']' :: rest = quoteJson s ++ after := by
      simp [renderItems_cons, List.flatMap_map, after, Value.render]
    rw [htext, readStringItems_step hn h₁, h₂]
    simp

/-- **An array of strings, as written, is read back** by the reader of string arrays. -/
theorem readStringArray_text (ss : List String) (p : Pos) :
    ∃ p', readStringArray ⟨(stringArrayText ss).toList ++ rest, p⟩ = .ok (ss, ⟨rest, p'⟩) := by
  have hlen : ss.length ≤ (renderItems (ss.map .string) ++ ']' :: rest).length := by
    simpa using length_le_renderItems rest (ss.map .string)
  obtain ⟨p₁, h₁⟩ := readStringItems_renderItems rest ss _ hlen (p.next '[')
  simp only [List.length_append, List.length_cons] at h₁
  refine ⟨p₁.next ']', ?_⟩
  simp [readStringArray, stringArrayText, Value.compact, Value.render, Cursor.skipSpace, skipSpace,
    isJsonSpace, Cursor.advance, h₁, closeSeq_bracket, Except.map]

end StringArrays

/-- An unsigned 16-bit integer, as written, is read back by its reader. -/
theorem readU16_toDigits {n : Nat} (hn : n ≤ 65535) {rest : List Char} (hr : Closes rest) (p : Pos) :
    ∃ p', readU16 ⟨Nat.toDigits 10 n ++ rest, p⟩ = .ok (n, ⟨rest, p'⟩) := by
  have hmax : n ≤ maxU64 := by
    have : (65535 : Nat) ≤ maxU64 := by decide
    omega
  obtain ⟨p', h⟩ := scanNumber_toDigits hmax hr p
  obtain ⟨d, ds, hds, hd⟩ := toDigits_eq_cons n
  have hsp := isJsonSpace_of_lt (space_lt_of_isDigit hd)
  have hminus : d ≠ '-' := by rintro rfl; revert hd; decide
  refine ⟨p', ?_⟩
  rw [hds, List.cons_append] at h
  simp only [readU16, hds, List.cons_append, Cursor.skipSpace, skipSpace_of_not_space hsp]
  simp [hd, h, Number.toU16, hn]

/-- **A pair of a code and a reason, as written, is read back** by the reader of such pairs. -/
theorem readCodeReason_text {code : Nat} (hc : code ≤ 65535) (reason : String) (rest : List Char)
    (p : Pos) :
    ∃ p', readCodeReason
      ⟨(Value.array [.number (.unsigned code), .string reason]).render ++ rest, p⟩ =
        .ok ((code, reason), ⟨rest, p'⟩) := by
  obtain ⟨d, ds, hds, hd⟩ := toDigits_eq_cons code
  let after := quoteJson reason ++ ']' :: rest
  obtain ⟨p₁, h₁⟩ := readU16_toDigits hc (closes_comma after) (p.next '[')
  obtain ⟨p₂, h₂⟩ := readString_quoteJson reason (']' :: rest) (p₁.next ',')
  have hfirst := nextElement_first (c := d) (space_lt_of_isDigit hd) (by rintro rfl; revert hd; decide)
    (ds ++ ',' :: after) (p.next '[')
  have hcomma : nextElement false ⟨',' :: after, p₁⟩ = .ok (some ⟨after, p₁.next ','⟩) := by
    have h := nextElement_comma (c := '"') (by decide) (by decide)
      (reason.toList.flatMap escapeJsonChar ++ '"' :: ']' :: rest) p₁
    rw [← quoteJson_append] at h
    exact h
  have hreason : readString ⟨after, p₁.next ','⟩ = .ok (reason, ⟨']' :: rest, p₂⟩) := h₂
  rw [← List.cons_append, ← hds] at hfirst
  refine ⟨p₂.next ']', ?_⟩
  have htext : (Value.array [.number (.unsigned code), .string reason]).render ++ rest =
      '[' :: (Nat.toDigits 10 code ++ ',' :: after) := by
    simp [Value.render, renderItems, Number.text, after]
  rw [htext]
  simp [readCodeReason, Cursor.skipSpace, skipSpace, isJsonSpace, Cursor.advance, hfirst, h₁, hcomma,
    hreason, closeSeq_bracket, Except.map]

/-- A whole text that a reader reads to its end is accepted. -/
theorem readAll_of_reader {α : Type} {reader : Cursor → Except Error (α × Cursor)} {text : String}
    {v : α} {p : Pos} (h : reader ⟨text.toList, Pos.origin⟩ = .ok (v, ⟨[], p⟩)) :
    readAll reader text = .ok v := by
  simp [readAll, Cursor.start, h, expectEnd, Cursor.skipSpace, skipSpace, Except.map]

end StompConsole.Json
