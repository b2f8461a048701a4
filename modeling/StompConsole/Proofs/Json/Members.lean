import Mathlib
import StompConsole.Json.Read

/-!
# Objects keep their keys sorted, each once

The reader puts every member it reads into its object with `insertMember`, which keeps the keys
in the order of `compareKeys` and replaces the value of a key already there. So a key read twice
keeps its last value (`get_insertMember_self`), and every object the reader returns, at every
depth, has strictly increasing and hence distinct keys (`parseValue_sorted`). The decoders of
typed payloads rely on the second fact: walking an object's members meets each key once, so what
the walk sees for a key is what `Value.get` finds.
-/

namespace StompConsole.Json

/-! ## The key order -/

/-- Two non-empty lists compare by their first characters, then by their tails. -/
theorem compareChars_cons (x y : Char) (xs ys : List Char) :
    compareChars (x :: xs) (y :: ys) =
      if x.toNat < y.toNat then .lt else if y.toNat < x.toNat then .gt else compareChars xs ys := by
  rfl

theorem compareChars_eq_iff : ∀ {a b : List Char}, compareChars a b = .eq ↔ a = b
  | [], [] => by simp [compareChars]
  | [], _ :: _ => by simp [compareChars]
  | _ :: _, [] => by simp [compareChars]
  | x :: xs, y :: ys => by
    rw [compareChars_cons]
    by_cases h₁ : x.toNat < y.toNat
    · have hne : x ≠ y := fun h => by subst h; omega
      simp [h₁, hne]
    · by_cases h₂ : y.toNat < x.toNat
      · have hne : x ≠ y := fun h => by subst h; omega
        simp [h₁, h₂, hne]
      · have hxy : x = y := Char.toNat_inj.1 (by omega)
        simp [hxy, compareChars_eq_iff]

theorem compareChars_lt_of_gt : ∀ {a b : List Char}, compareChars a b = .gt → compareChars b a = .lt
  | [], b, h => by cases b <;> simp [compareChars] at h
  | _ :: _, [], _ => rfl
  | x :: xs, y :: ys, h => by
    rw [compareChars_cons] at h ⊢
    by_cases h₁ : x.toNat < y.toNat
    · simp [h₁] at h
    · by_cases h₂ : y.toNat < x.toNat
      · simp [h₂]
      · have hlt := compareChars_lt_of_gt (by simpa [h₁, h₂] using h)
        simp [h₁, h₂, hlt]

theorem compareChars_lt_trans :
    ∀ {a b c : List Char}, compareChars a b = .lt → compareChars b c = .lt → compareChars a c = .lt
  | [], b, [], _, hbc => by cases b <;> simp [compareChars] at hbc
  | [], _, _ :: _, _, _ => rfl
  | _ :: _, [], _, hab, _ => by simp [compareChars] at hab
  | _ :: _, _ :: _, [], _, hbc => by simp [compareChars] at hbc
  | x :: xs, y :: ys, z :: zs, hab, hbc => by
    rw [compareChars_cons] at hab hbc ⊢
    -- each comparison is decided by its first characters, or they are equal and the tails decide
    by_cases hxy : x.toNat < y.toNat
    · by_cases hyz : y.toNat < z.toNat
      · simp [show x.toNat < z.toNat by omega]
      · have hzy : ¬ z.toNat < y.toNat := by intro h; simp [hyz, h] at hbc
        simp [show x.toNat < z.toNat by omega]
    · have hyx : ¬ y.toNat < x.toNat := by intro h; simp [hxy, h] at hab
      have hab' : compareChars xs ys = .lt := by simpa [hxy, hyx] using hab
      by_cases hyz : y.toNat < z.toNat
      · simp [show x.toNat < z.toNat by omega]
      · have hzy : ¬ z.toNat < y.toNat := by intro h; simp [hyz, h] at hbc
        have hbc' : compareChars ys zs = .lt := by simpa [hyz, hzy] using hbc
        simp [show ¬ x.toNat < z.toNat by omega, show ¬ z.toNat < x.toNat by omega,
          compareChars_lt_trans hab' hbc']

theorem compareKeys_eq_iff {a b : String} : compareKeys a b = .eq ↔ a = b := by
  simp [compareKeys, compareChars_eq_iff, String.toList_inj]

theorem compareKeys_ne_lt_self (a : String) : compareKeys a a ≠ .lt := by
  simp [compareKeys_eq_iff.2 rfl]

/-! ## Member insertion -/

/-- Members whose keys strictly increase, so that each key stands once. -/
def KeysSorted (ms : List (String × Value)) : Prop :=
  ms.Pairwise fun a b => compareKeys a.1 b.1 = .lt

theorem KeysSorted.nodup {ms : List (String × Value)} (h : KeysSorted ms) :
    (ms.map Prod.fst).Nodup := by
  refine List.pairwise_map.2 (h.imp fun {a b} hab he => ?_)
  rw [he] at hab
  exact compareKeys_ne_lt_self _ hab

theorem mem_insertMember {k : String} {v : Value} {m : String × Value} :
    ∀ {ms : List (String × Value)}, m ∈ insertMember k v ms → m = (k, v) ∨ m ∈ ms
  | [], h => by simpa [insertMember] using h
  | (k', v') :: ms, h => by
    unfold insertMember at h
    split at h
    · simpa using h
    · simp only [List.mem_cons] at h
      tauto
    · simp only [List.mem_cons] at h
      rcases h with h | h
      · exact Or.inr (List.mem_cons.2 (Or.inl h))
      · rcases mem_insertMember h with h | h
        · exact Or.inl h
        · exact Or.inr (List.mem_cons_of_mem _ h)

/-- **Insertion keeps the keys sorted.** -/
theorem KeysSorted.insertMember {k : String} {v : Value} :
    ∀ {ms : List (String × Value)}, KeysSorted ms → KeysSorted (Json.insertMember k v ms)
  | [], _ => List.pairwise_singleton _ _
  | (k', v') :: ms, h => by
    obtain ⟨hhead, htail⟩ := List.pairwise_cons.1 h
    unfold Json.insertMember
    split
    · next hlt =>
      refine List.pairwise_cons.2 ⟨fun m hm => ?_, h⟩
      rcases List.mem_cons.1 hm with rfl | hm
      · exact hlt
      · exact compareChars_lt_trans hlt (hhead m hm)
    · next heq =>
      obtain rfl : k = k' := compareKeys_eq_iff.1 heq
      exact List.pairwise_cons.2 ⟨hhead, htail⟩
    · next hgt =>
      refine List.pairwise_cons.2 ⟨fun m hm => ?_, KeysSorted.insertMember htail⟩
      rcases mem_insertMember hm with rfl | hm
      · exact compareChars_lt_of_gt hgt
      · exact hhead m hm

/-! ## Looking a key up -/

theorem get_object_nil (f : String) : (Value.object []).get f = none := rfl

theorem get_object_cons (k : String) (v : Value) (ms : List (String × Value)) (f : String) :
    (Value.object ((k, v) :: ms)).get f = if k = f then some v else (Value.object ms).get f := by
  by_cases h : k = f <;> simp [Value.get, h]

theorem get_object_eq_none {ms : List (String × Value)} {f : String} (h : f ∉ ms.map Prod.fst) :
    (Value.object ms).get f = none := by
  induction ms with
  | nil => rfl
  | cons m ms ih =>
    simp only [List.map_cons, List.mem_cons, not_or] at h
    rw [get_object_cons, if_neg (Ne.symm h.1), ih h.2]

theorem mem_of_get_object_eq_some {ms : List (String × Value)} {f : String} {v : Value}
    (h : (Value.object ms).get f = some v) : (f, v) ∈ ms := by
  induction ms with
  | nil => cases h
  | cons m ms ih =>
    rw [get_object_cons] at h
    split at h
    · next hk =>
      cases h
      simp [← hk]
    · exact List.mem_cons_of_mem _ (ih h)

/-- **The last of duplicate keys wins**: after inserting `(k, v)`, the key `k` reads `v`. -/
theorem get_insertMember_self (k : String) (v : Value) :
    ∀ ms : List (String × Value), (Value.object (insertMember k v ms)).get k = some v
  | [] => by simp [insertMember, get_object_cons]
  | (k', v') :: ms => by
    unfold insertMember
    split
    · simp [get_object_cons]
    · simp [get_object_cons]
    · next hgt =>
      -- the members passed over have greater keys, so none of them is `k`
      have hne : k' ≠ k := fun h => by simp [h, compareKeys_eq_iff.2 rfl] at hgt
      rw [get_object_cons, if_neg hne, get_insertMember_self k v ms]

/-- Inserting `(k, v)` leaves every other key as it was. -/
theorem get_insertMember_of_ne {k f : String} (v : Value) (hf : k ≠ f) :
    ∀ ms : List (String × Value), (Value.object (insertMember k v ms)).get f = (Value.object ms).get f
  | [] => by simp [insertMember, get_object_cons, hf, get_object_nil]
  | (k', v') :: ms => by
    unfold insertMember
    split
    · rw [get_object_cons, if_neg hf]
    · next heq =>
      obtain rfl : k = k' := compareKeys_eq_iff.1 heq
      rw [get_object_cons, get_object_cons, if_neg hf, if_neg hf]
    · rw [get_object_cons, get_object_cons, get_insertMember_of_ne v hf ms]

/-! ## What the reader builds -/

/-- A value whose objects, at every depth, have sorted keys. -/
inductive Value.Sorted : Value → Prop
  | null : Value.Sorted .null
  | bool (b : Bool) : Value.Sorted (.bool b)
  | number (n : Number) : Value.Sorted (.number n)
  | string (s : String) : Value.Sorted (.string s)
  | array {items : List Value} : (∀ v ∈ items, Value.Sorted v) → Value.Sorted (.array items)
  | object {ms : List (String × Value)} :
      KeysSorted ms → (∀ m ∈ ms, Value.Sorted m.2) → Value.Sorted (.object ms)

/-- The members of a sorted object are sorted, and so is each of their values. -/
theorem Value.Sorted.members {ms : List (String × Value)} (h : (Value.object ms).Sorted) :
    KeysSorted ms ∧ ∀ m ∈ ms, m.2.Sorted := by
  cases h with
  | object hk hm => exact ⟨hk, hm⟩

/-- A scalar read and mapped to a value of its own is sorted whatever it was. -/
theorem sorted_of_map_eq_ok {α : Type} {x : Except Error α} {f : α → Value × Cursor}
    {v : Value} {c' : Cursor} (hf : ∀ a, (f a).1.Sorted) (h : x.map f = .ok (v, c')) :
    v.Sorted := by
  cases x with
  | error e => cases h
  | ok a =>
    simp only [Except.map] at h
    have hv : (f a).1 = v := congrArg Prod.fst (Except.ok.inj h)
    exact hv ▸ hf a

/-- One step of the reader: a value is sorted when the elements and members one level down
are. -/
theorem readValue_sorted_of {depth : Nat}
    (hitems : 1 < depth → ∀ fuel c items c', readItems (depth - 1) fuel true [] c = .ok (items, c') →
      ∀ v ∈ items, v.Sorted)
    (hmembers : 1 < depth → ∀ fuel c ms c', readMembers (depth - 1) fuel true [] c = .ok (ms, c') →
      KeysSorted ms ∧ ∀ m ∈ ms, m.2.Sorted)
    {c c' : Cursor} {v : Value} (h : readValue depth c = .ok (v, c')) : v.Sorted := by
  rw [readValue] at h
  split at h
  · cases h
  -- one branch per character that can start a value; only `[` and `{` read values further down
  next ch rest hc =>
  by_cases hn : ch = 'n'
  · rw [if_pos hn] at h
    exact sorted_of_map_eq_ok (fun _ => .null) h
  rw [if_neg hn] at h
  by_cases ht : ch = 't'
  · rw [if_pos ht] at h
    exact sorted_of_map_eq_ok (fun _ => .bool true) h
  rw [if_neg ht] at h
  by_cases hf : ch = 'f'
  · rw [if_pos hf] at h
    exact sorted_of_map_eq_ok (fun _ => .bool false) h
  rw [if_neg hf] at h
  by_cases hminus : ch = '-'
  · rw [if_pos hminus] at h
    exact sorted_of_map_eq_ok (fun _ => .number _) h
  rw [if_neg hminus] at h
  by_cases hd : ch.isDigit
  · rw [if_pos hd] at h
    exact sorted_of_map_eq_ok (fun _ => .number _) h
  rw [if_neg hd] at h
  by_cases hq : ch = '"'
  · rw [if_pos hq] at h
    exact sorted_of_map_eq_ok (fun _ => .string _) h
  rw [if_neg hq] at h
  by_cases hl : ch = '['
  · rw [if_pos hl] at h
    -- a budget of one refuses the array; otherwise its elements are read one level down
    split at h
    · cases h
    dsimp only at h
    split at h
    · cases h
    next items c₁ hr =>
    split at h
    · cases h
    cases h
    exact .array (hitems (by omega) _ _ _ _ hr)
  rw [if_neg hl] at h
  by_cases hb : ch = '{'
  · rw [if_pos hb] at h
    split at h
    · cases h
    dsimp only at h
    split at h
    · cases h
    next ms c₁ hr =>
    split at h
    · cases h
    cases h
    obtain ⟨hk, hm⟩ := hmembers (by omega) _ _ _ _ hr
    exact .object hk hm
  rw [if_neg hb] at h
  cases h

/-- The elements of an array are sorted when each value read at their depth is. -/
theorem readItems_sorted {depth : Nat}
    (hv : ∀ c v c', readValue depth c = .ok (v, c') → v.Sorted) :
    ∀ fuel first acc c items c', (∀ v ∈ acc, v.Sorted) →
      readItems depth fuel first acc c = .ok (items, c') → ∀ v ∈ items, v.Sorted := by
  intro fuel
  induction fuel with
  | zero =>
    intro first acc c items c' hacc h
    rw [readItems] at h
    split at h
    · cases h
    · cases h
      simpa using hacc
    · split at h
      · cases h
      · cases h
  | succ fuel ih =>
    intro first acc c items c' hacc h
    rw [readItems] at h
    split at h
    · cases h
    · cases h
      simpa using hacc
    · split at h
      · cases h
      · next v c₁ hr =>
        refine ih false (v :: acc) c₁ items c' (fun w hw => ?_) h
        rcases List.mem_cons.1 hw with rfl | hw
        · exact hv _ _ _ hr
        · exact hacc w hw

/-- The members of an object are sorted, by key and within, when each value read at their depth
is: every member goes in through `insertMember`. -/
theorem readMembers_sorted {depth : Nat}
    (hv : ∀ c v c', readValue depth c = .ok (v, c') → v.Sorted) :
    ∀ fuel first acc c ms c', KeysSorted acc → (∀ m ∈ acc, m.2.Sorted) →
      readMembers depth fuel first acc c = .ok (ms, c') → KeysSorted ms ∧ ∀ m ∈ ms, m.2.Sorted := by
  intro fuel
  induction fuel with
  | zero =>
    intro first acc c ms c' hk hacc h
    rw [readMembers] at h
    split at h
    · cases h
    · cases h
      exact ⟨hk, hacc⟩
    · split at h
      · cases h
      · split at h
        · cases h
        · cases h
  | succ fuel ih =>
    intro first acc c ms c' hk hacc h
    rw [readMembers] at h
    split at h
    · cases h
    · cases h
      exact ⟨hk, hacc⟩
    · split at h
      · cases h
      · split at h
        · cases h
        · next v c₁ hr =>
          refine ih false _ c₁ ms c' hk.insertMember (fun m hm => ?_) h
          rcases mem_insertMember hm with rfl | hm
          · exact hv _ _ _ hr
          · exact hacc m hm

/-- **Every value the reader returns is sorted**, at every depth: induction on the nesting
budget, each level's arrays and objects built from values read one level down. -/
theorem readValue_sorted (depth : Nat) :
    ∀ c v c', readValue depth c = .ok (v, c') → v.Sorted := by
  induction depth using Nat.strong_induction_on with
  | _ depth ih =>
    intro c v c' h
    -- a budget of at most one refuses arrays and objects, so what they hold is read lower
    refine readValue_sorted_of (fun hd fuel c items c' hr => ?_) (fun hd fuel c ms c' hr => ?_) h
    · exact readItems_sorted (ih _ (by omega)) fuel true [] c items c' (by simp) hr
    · exact readMembers_sorted (ih _ (by omega)) fuel true [] c ms c' List.Pairwise.nil (by simp) hr

/-- **Parsed JSON is sorted**: every object in it has its keys in order, each once. -/
theorem parseValue_sorted {text : String} {v : Value} (h : parseValue text = .ok v) :
    v.Sorted := by
  unfold parseValue at h
  split at h
  · cases h
  · next v₀ c hr =>
    cases he : expectEnd c with
    | error e => simp [he, Except.map] at h
    | ok u =>
      simp only [he, Except.map, Except.ok.injEq] at h
      exact h ▸ readValue_sorted _ _ _ _ hr

end StompConsole.Json
