import Mathlib
import StompConsole.Url.Parse
import StompConsole.Proofs.Stomp.Reading

/-!
# Parsed URLs are in normal form

Two facts about what reading a URL leaves behind.

**Paths.** Reading a path percent-encodes its characters and resolves its `.` and `..` segments,
so the path it leaves is *settled* (`SettledPath`): each piece between two `/` consists of
characters that encoding leaves alone, and is neither `.` nor `..` in any spelling. Reading a
settled path again changes nothing (`pathFrom_of_settled`), and every path read is settled
(`settledPath_pathFrom`). Cutting the trailing `/` off a settled path and writing more settled
segments after it keeps it settled (`settledPath_trim_append`), so such a path is read back as it
was written (`pathFrom_trim_append`). A settled path holds no tab or line break
(`SettledPath.not_tabOrNewline`), so a path setter, which skips them, skips nothing in it.

**Authorities.** A port equal to the scheme's default is never kept: reading a URL with a special
scheme leaves no port, or one that differs from the default (`parse_port_ne_defaultPort`). Such a
URL, `file` apart, always has a host (`parse_special_host`). Both come from one inversion of the
authority reader (`readAuthority_eq_ok`).
-/

namespace StompConsole.Url

open Text

/-! ## Splitting at every `/` -/

section SplitOn

variable {sep : Char}

theorem splitOn_of_not_mem {w : List Char} (h : sep ∉ w) : splitOn sep w = [w] := by
  rw [splitOn]
  split
  · rfl
  · next x r hd =>
    have := (Stomp.dropWhile_ne_eq_cons hd).1
    subst this
    exact absurd ((List.dropWhile_suffix _).subset (hd ▸ List.mem_cons_self)) h

theorem splitOn_append_cons_of_not_mem {a : List Char} (h : sep ∉ a) (b : List Char) :
    splitOn sep (a ++ sep :: b) = a :: splitOn sep b := by
  rw [splitOn]
  split
  · next hd => rw [Stomp.dropWhile_ne_append h] at hd; cases hd
  · next x r hd =>
    rw [Stomp.dropWhile_ne_append h] at hd
    obtain ⟨-, rfl⟩ := List.cons.inj hd
    rw [Stomp.takeWhile_ne_append h]

/-- **The pieces of two texts joined by a separator** are the pieces of each. The induction
follows the splitter over the first text. -/
theorem splitOn_append_cons (a b : List Char) :
    splitOn sep (a ++ sep :: b) = splitOn sep a ++ splitOn sep b := by
  fun_induction splitOn sep a with
  | case1 x hd =>
    have hx : sep ∉ x := fun hm => by
      have := List.dropWhile_eq_nil_iff.1 hd sep hm
      simp at this
    rw [splitOn_append_cons_of_not_mem hx]
    rfl
  | case2 x y r hd ih =>
    obtain ⟨rfl, hx⟩ := Stomp.dropWhile_ne_eq_cons hd
    have hnot := Stomp.not_mem_takeWhile_ne y x
    conv_lhs => rw [hx, List.append_assoc, List.cons_append,
      splitOn_append_cons_of_not_mem hnot, ih]
    rfl

theorem splitOn_ne_nil (w : List Char) : splitOn sep w ≠ [] := by
  rw [splitOn]
  split <;> simp

/-- Joining the pieces again gives the text. -/
theorem intercalate_splitOn (w : List Char) : List.intercalate [sep] (splitOn sep w) = w := by
  fun_induction splitOn sep w with
  | case1 x hd => simp
  | case2 x y r hd ih =>
    obtain ⟨rfl, hx⟩ := Stomp.dropWhile_ne_eq_cons hd
    rw [List.intercalate_cons_of_ne_nil (splitOn_ne_nil r), ih]
    conv_rhs => rw [hx]
    simp

/-- Pieces with no separator in them are the pieces of their join. -/
theorem splitOn_intercalate : ∀ {segs : List (List Char)}, segs ≠ [] → (∀ s ∈ segs, sep ∉ s) →
    splitOn sep (List.intercalate [sep] segs) = segs
  | [], h, _ => absurd rfl h
  | [s], _, hs => by simpa using splitOn_of_not_mem (hs s List.mem_cons_self)
  | s :: t :: u, _, hs => by
    rw [List.intercalate_cons_of_ne_nil (List.cons_ne_nil t u), List.append_assoc,
      List.singleton_append, splitOn_append_cons_of_not_mem (hs s List.mem_cons_self),
      splitOn_intercalate (List.cons_ne_nil t u) fun x hx => hs x (List.mem_cons_of_mem _ hx)]

end SplitOn

/-! ## Settled paths -/

/-- **A character a path keeps as written**: percent-encoding leaves it alone, and it separates no
segments. -/
def PathChar (c : Char) : Prop := encodeChar pathSet c = [c] ∧ isPathSeparator true c = false

instance (c : Char) : Decidable (PathChar c) :=
  inferInstanceAs (Decidable (encodeChar pathSet c = [c] ∧ isPathSeparator true c = false))

/-- **A segment a path keeps as written**: its characters are kept, and it is neither `.` nor `..`
in any spelling. -/
structure SettledSegment (seg : List Char) : Prop where
  chars : ∀ c ∈ seg, PathChar c
  not_single : isSingleDot seg = false
  not_double : isDoubleDot seg = false

/-- **A settled path**, without its leading `/`: every piece between two `/` is a settled
segment. -/
def SettledPath (w : List Char) : Prop := ∀ seg ∈ splitOn '/' w, SettledSegment seg

theorem SettledSegment.not_sep {seg : List Char} (h : SettledSegment seg) : '/' ∉ seg :=
  fun hm => absurd (h.chars '/' hm).2 (by decide)

/-! ## Reading a settled path back -/

theorem readSegments_append_of_pathChar {acc : List String} {w : List Char}
    (hw : ∀ c ∈ w, PathChar c) (buf rest : List Char) :
    readSegments true acc buf (w ++ rest) = readSegments true acc (w.reverse ++ buf) rest := by
  induction w generalizing buf with
  | nil => rfl
  | cons c w ih =>
    obtain ⟨henc, hsep⟩ := hw c List.mem_cons_self
    rw [List.cons_append, readSegments, if_neg (by simp [hsep]), henc,
      ih (fun x hx => hw x (List.mem_cons_of_mem _ hx))]
    simp

theorem readSegments_slash (acc : List String) (buf rest : List Char) :
    readSegments true acc buf ('/' :: rest) = readSegments true (pathStep acc true buf.reverse) [] rest := by
  rw [readSegments, if_pos (by decide)]

theorem pathStep_of_settled {seg : List Char} (h : SettledSegment seg) (acc : List String)
    (slash : Bool) : pathStep acc slash seg = String.ofList seg :: acc := by
  simp [pathStep, h.not_single, h.not_double]

/-- **Settled segments are read back one by one**, each pushed in front of those before it. -/
theorem readSegments_intercalate : ∀ {segs : List (List Char)}, segs ≠ [] →
    (∀ s ∈ segs, SettledSegment s) → ∀ acc : List String,
    readSegments true acc [] (List.intercalate ['/'] segs) = (segs.map String.ofList).reverse ++ acc
  | [], h, _, _ => absurd rfl h
  | [s], _, hs, acc => by
    have h := hs s List.mem_cons_self
    have hread := @readSegments_append_of_pathChar acc s h.chars [] []
    rw [List.append_nil, List.append_nil] at hread
    rw [List.intercalate_singleton, hread]
    show pathStep acc false s.reverse.reverse = _
    rw [List.reverse_reverse, pathStep_of_settled h]
    simp
  | s :: t :: u, _, hs, acc => by
    have h := hs s List.mem_cons_self
    rw [List.intercalate_cons_of_ne_nil (List.cons_ne_nil t u), List.append_assoc,
      List.singleton_append, readSegments_append_of_pathChar h.chars, List.append_nil, readSegments_slash,
      List.reverse_reverse, pathStep_of_settled h,
      readSegments_intercalate (List.cons_ne_nil t u) (fun x hx => hs x (List.mem_cons_of_mem _ hx))]
    simp

/-- **A settled path is read back as written.** -/
theorem pathFrom_of_settled {w : List Char} (h : SettledPath w) :
    pathFrom true ('/' :: w) = String.ofList ('/' :: w) := by
  have hsegs := readSegments_intercalate (@splitOn_ne_nil '/' w) h []
  rw [intercalate_splitOn, List.append_nil] at hsegs
  apply String.toList_injective
  simp [pathFrom, isPathSeparator, pathText, hsegs, intercalate_splitOn]

/-! ## Every path read is settled -/

/-- The UTF-8 bytes of a character are bytes. -/
theorem utf8Bytes_lt (c : Char) : ∀ b ∈ utf8Bytes c, b < 256 := by
  have hv : c.toNat < 0x110000 := by
    have := c.valid
    simp only [UInt32.isValidChar, Nat.isValidChar] at this
    show c.val.toNat < _
    omega
  intro b hb
  simp only [utf8Bytes] at hb
  split_ifs at hb <;> simp only [List.mem_cons, List.not_mem_nil, or_false] at hb <;> omega

/-- **What percent-encoding writes for a path is kept**: the character itself, or `%` and
upper-case hexadecimal digits. -/
theorem pathChar_of_mem_encodeChar {c d : Char} (hc : isPathSeparator true c = false)
    (hd : d ∈ encodeChar pathSet c) : PathChar d := by
  unfold encodeChar at hd
  split_ifs at hd with hkeep
  · rw [List.mem_singleton] at hd
    subst hd
    exact ⟨by simp [encodeChar, hkeep], hc⟩
  · obtain ⟨b, hb, hd⟩ := List.mem_flatMap.1 hd
    have hlt := utf8Bytes_lt c b hb
    have hhex : ∀ n < 16, PathChar (upperHexDigit n) := by decide
    simp only [percentByte, List.mem_cons, List.not_mem_nil, or_false] at hd
    rcases hd with rfl | rfl | rfl
    · decide
    · exact hhex _ (by omega)
    · exact hhex _ (Nat.mod_lt _ (by decide))

/-- **A path step keeps the segments settled**: a `..` drops one, a `.` adds none, and any other
segment is settled once it is no dot segment. -/
theorem pathStep_settled {acc : List String} {seg : List Char} (hacc : ∀ s ∈ acc, SettledSegment s.toList)
    (hseg : ∀ c ∈ seg, PathChar c) (slash : Bool) :
    ∀ s ∈ pathStep acc slash seg, SettledSegment s.toList := by
  have hempty : SettledSegment [] := ⟨by simp, by decide, by decide⟩
  have hdrop : ∀ s ∈ acc.drop 1, SettledSegment s.toList := fun s hs => hacc s (List.mem_of_mem_drop hs)
  unfold pathStep
  by_cases hd : isDoubleDot seg = true
  · rw [if_pos hd]
    split_ifs
    · exact hdrop
    · simpa [hempty] using hdrop
  by_cases hs : isSingleDot seg = true
  · rw [if_neg hd, if_pos hs]
    split_ifs
    · exact hacc
    · simpa [hempty] using hacc
  · -- any other segment is kept as it is
    rw [if_neg hd, if_neg hs]
    simp only [List.mem_cons]
    rintro s (rfl | hs')
    · exact ⟨by simpa using hseg, by simpa using hs, by simpa using hd⟩
    · exact hacc s hs'

/-- **Reading keeps the segments settled.** The induction runs over the characters, with the
segments read so far and the segment being read as the invariant. -/
theorem readSegments_settled : ∀ (cs : List Char) {acc : List String} {buf : List Char},
    (∀ s ∈ acc, SettledSegment s.toList) → (∀ c ∈ buf, PathChar c) →
    ∀ s ∈ readSegments true acc buf cs, SettledSegment s.toList
  | [], _, _, hacc, hbuf => pathStep_settled hacc (by simpa using hbuf) false
  | c :: cs, acc, buf, hacc, hbuf => by
    rw [readSegments]
    split_ifs with hc
    · exact readSegments_settled cs (pathStep_settled hacc (by simpa using hbuf) true) (by simp)
    · refine readSegments_settled cs hacc ?_
      intro d hd
      rcases List.mem_append.1 hd with hd | hd
      · exact pathChar_of_mem_encodeChar (by simpa using hc) (List.mem_reverse.1 hd)
      · exact hbuf d hd

theorem pathStep_ne_nil (acc : List String) (seg : List Char) : pathStep acc false seg ≠ [] := by
  simp only [pathStep, Bool.false_eq_true, if_false]
  split_ifs <;> simp

theorem readSegments_ne_nil : ∀ (cs : List Char) (acc : List String) (buf : List Char),
    readSegments true acc buf cs ≠ []
  | [], acc, buf => pathStep_ne_nil acc _
  | c :: cs, acc, buf => by
    rw [readSegments]
    split_ifs
    · exact readSegments_ne_nil cs _ _
    · exact readSegments_ne_nil cs _ _

/-- **Every path read is settled.** -/
theorem settledPath_pathFrom (cs : List Char) :
    ∃ w, SettledPath w ∧ (pathFrom true cs).toList = '/' :: w := by
  -- the path is `/` and the segments read, joined by `/`
  have htext : ∀ rest, ∃ w, SettledPath w ∧ (pathText true rest).toList = '/' :: w := by
    intro rest
    set segs := (readSegments true [] [] rest).reverse.map String.toList
    have hset : ∀ s ∈ segs, SettledSegment s := by
      simp only [segs, List.mem_map, List.mem_reverse]
      rintro _ ⟨s, hs, rfl⟩
      exact readSegments_settled rest (by simp) (by simp) s hs
    have hne : segs ≠ [] := by simpa [segs] using readSegments_ne_nil rest [] []
    refine ⟨List.intercalate ['/'] segs, ?_, by simp [pathText, segs]⟩
    rw [SettledPath, splitOn_intercalate hne fun s hs => (hset s hs).not_sep]
    exact hset
  unfold pathFrom
  split
  · split_ifs
    · exact htext _
    · exact htext _
  · exact htext _

/-! ## Writing after a settled path -/

/-- The part of a path before its trailing `/`, followed by `/` and settled segments, is settled. -/
theorem settledPath_trim_append {w tail : List Char} (hw : SettledPath w) (ht : SettledPath tail) :
    ∃ w', SettledPath w' ∧ ('/' :: w).rdropWhile (· = '/') ++ '/' :: tail = '/' :: w' := by
  have hsplit := List.rdropWhile_append_rtakeWhile (p := (· = '/')) (l := '/' :: w)
  have hslashes : ∀ c ∈ ('/' :: w).rtakeWhile (· = '/'), c = '/' := fun c hc => by
    simpa using List.mem_rtakeWhile_imp hc
  -- the pieces of `a ++ '/' :: b` are those of `a` and those of `b`
  have happ : ∀ {a : List Char}, (∀ seg ∈ splitOn '/' a, SettledSegment seg) →
      SettledPath (a ++ '/' :: tail) := fun ha seg hs => by
    rw [splitOn_append_cons, List.mem_append] at hs
    exact hs.elim (ha seg) (ht seg)
  cases hr : ('/' :: w).rdropWhile (· = '/') with
  | nil => exact ⟨tail, ht, rfl⟩
  | cons x r =>
    rw [hr, List.cons_append] at hsplit
    obtain ⟨rfl, hw'⟩ := List.cons.inj hsplit
    refine ⟨r ++ '/' :: tail, happ fun seg hs => hw seg ?_, rfl⟩
    -- the trailing slashes cut off are empty pieces after those of `r`
    cases ht' : ('/' :: w).rtakeWhile (· = '/') with
    | nil => rwa [← hw', ht', List.append_nil]
    | cons y t =>
      have hy := hslashes y (by simp [ht'])
      subst hy
      rw [← hw', ht', splitOn_append_cons]
      exact List.mem_append_left _ hs

/-- A character a path keeps is no tab or line break. -/
theorem PathChar.not_tabOrNewline {c : Char} (h : PathChar c) : isTabOrNewline c = false := by
  have htab : ¬ PathChar '\t' := by decide
  have hlf : ¬ PathChar '\n' := by decide
  have hcr : ¬ PathChar '\r' := by decide
  simp only [isTabOrNewline, Bool.or_eq_false_iff, beq_eq_false_iff_ne]
  exact ⟨⟨fun he => htab (he ▸ h), fun he => hlf (he ▸ h)⟩, fun he => hcr (he ▸ h)⟩

theorem mem_of_mem_intercalate {sep c : Char} : ∀ {segs : List (List Char)},
    c ∈ List.intercalate [sep] segs → c = sep ∨ ∃ s ∈ segs, c ∈ s
  | [], h => by simp at h
  | [s], h => .inr ⟨s, List.mem_singleton_self s, by simpa using h⟩
  | s :: t :: u, h => by
    rw [List.intercalate_cons_cons, List.mem_append, List.mem_append, List.mem_singleton] at h
    rcases h with (h | h) | h
    · exact .inr ⟨s, List.mem_cons_self, h⟩
    · exact .inl h
    · rcases mem_of_mem_intercalate h with h | ⟨x, hx, hc⟩
      · exact .inl h
      · exact .inr ⟨x, List.mem_cons_of_mem _ hx, hc⟩

/-- A settled path holds no tab or line break: its characters are separators or kept ones. -/
theorem SettledPath.not_tabOrNewline {w : List Char} (h : SettledPath w) :
    ∀ c ∈ w, isTabOrNewline c = false := by
  intro c hc
  rw [← @intercalate_splitOn '/' w] at hc
  rcases mem_of_mem_intercalate hc with rfl | ⟨seg, hseg, hc⟩
  · rfl
  · exact ((h seg hseg).chars c hc).not_tabOrNewline

/-- **A path cut at its trailing `/` and continued with settled segments is read back as
written**, and holds no tab or line break for a setter to skip. -/
theorem pathFrom_trim_append {p : String} {cs : List Char} (hp : p = pathFrom true cs) {tail : String}
    (ht : SettledPath tail.toList) :
    (∀ c ∈ p.toList.rdropWhile (· = '/') ++ '/' :: tail.toList, isTabOrNewline c = false) ∧
      pathFrom true (p.toList.rdropWhile (· = '/') ++ '/' :: tail.toList) =
        String.ofList (p.toList.rdropWhile (· = '/') ++ '/' :: tail.toList) := by
  obtain ⟨w, hw, hpw⟩ := settledPath_pathFrom cs
  obtain ⟨w', hw', heq⟩ := settledPath_trim_append hw ht
  rw [hp, hpw, heq]
  refine ⟨fun c hc => ?_, pathFrom_of_settled hw'⟩
  rcases List.mem_cons.1 hc with rfl | hc
  · rfl
  · exact hw'.not_tabOrNewline c hc

/-! ## Ports -/

theorem readPort_finish_port {scheme : String} {digits rest r : List Char} {p : Nat}
    (h : readPort.finish scheme digits rest = .ok (some p, r)) : defaultPort scheme ≠ some p := by
  unfold readPort.finish at h
  simp only at h
  split_ifs at h with h1 h2
  · cases h
  · cases h
    simp only [Bool.or_eq_true, decide_eq_true_eq, not_or] at h2
    exact h2.2

/-- **A port read is never the scheme's default**: the default is left out. -/
theorem readPort_port {scheme : String} {cs rest : List Char} {p : Nat}
    (h : readPort scheme cs = .ok (some p, rest)) : defaultPort scheme ≠ some p := by
  unfold readPort at h
  simp only at h
  split at h
  · split_ifs at h
    exact readPort_finish_port h
  · exact readPort_finish_port h

/-- An `Except` computation that succeeds after a bind succeeded at its first step. -/
theorem bind_eq_ok {ε α β : Type} {x : Except ε α} {f : α → Except ε β} {b : β}
    (h : x >>= f = .ok b) : ∃ a, x = .ok a ∧ f a = .ok b := by
  cases x with
  | error e => cases h
  | ok a => exact ⟨a, rfl, h⟩

/-- **What a read authority is made of**: the credentials read, then the host and the port read
from what follows them. -/
theorem readAuthority_eq_ok {scheme : String} {cs : List Char}
    {v : String × Option Host × Option Nat × List Char} (h : readAuthority scheme cs = .ok v) :
    ∃ rest, readCredentials (isSpecial scheme) cs = .ok (v.1, rest) ∧
      readHost (isSpecial scheme) (hostPart (isSpecial scheme) false rest).1
        (hostPart (isSpecial scheme) false rest).2 = .ok v.2.1 ∧
      readPortAfter scheme (hostPart (isSpecial scheme) false rest).2 = .ok v.2.2 := by
  unfold readAuthority at h
  obtain ⟨⟨credentials, rest⟩, hc, h⟩ := bind_eq_ok h
  obtain ⟨host, hh, h⟩ := bind_eq_ok h
  obtain ⟨⟨port, afterPort⟩, hp, h⟩ := bind_eq_ok h
  -- the last check refuses credentials without a host; past it the parts are returned as read
  simp only at h
  split_ifs at h
  · cases h
  · cases h
    exact ⟨rest, hc, hh, hp⟩

/-- A special scheme's authority always has a host. -/
theorem readHost_special {hostChars afterHost : List Char} {host : Option Host}
    (h : readHost true hostChars afterHost = .ok host) : host.isSome := by
  unfold readHost at h
  simp only [if_true] at h
  split_ifs at h
  cases hx : parseSpecialHost hostChars with
  | error e => rw [hx] at h; cases h
  | ok x => rw [hx] at h; cases h; rfl

theorem readPortAfter_eq_ok {scheme : String} {afterHost : List Char} {p : Option Nat × List Char}
    (h : readPortAfter scheme afterHost = .ok p) : p.1 = none ∨ ∃ cs, readPort scheme cs = .ok p := by
  unfold readPortAfter at h
  split at h
  · exact .inr ⟨_, h⟩
  · cases h
    exact .inl rfl

/-- The port of an authority is none, or one read by `readPort`. -/
theorem readAuthority_port {scheme : String} {cs : List Char}
    {v : String × Option Host × Option Nat × List Char} (h : readAuthority scheme cs = .ok v) :
    v.2.2.1 = none ∨ ∃ cs' rest, readPort scheme cs' = .ok (v.2.2.1, rest) := by
  obtain ⟨rest, -, -, hp⟩ := readAuthority_eq_ok h
  rcases readPortAfter_eq_ok hp with hn | ⟨cs', hr⟩
  · exact .inl hn
  · exact .inr ⟨cs', v.2.2.2, hr⟩

/-- The authority of a special scheme has a host. -/
theorem readAuthority_host {scheme : String} {cs : List Char}
    {v : String × Option Host × Option Nat × List Char} (hs : isSpecial scheme = true)
    (h : readAuthority scheme cs = .ok v) : v.2.1.isSome := by
  obtain ⟨rest, -, hh, -⟩ := readAuthority_eq_ok h
  rw [hs] at hh
  exact readHost_special hh

theorem readFile_scheme {rest : List Char} {u : Record} (h : readFile rest = .ok u) : u.scheme = "file" := by
  unfold readFile at h
  simp only at h
  split at h
  · split_ifs at h
    · cases h; rfl
    · cases hh : parseSpecialHost _ with
      | error e => rw [hh] at h; cases h
      | ok host => rw [hh] at h; cases h; rfl
    · cases h; rfl
  · cases h; rfl

/-- **How a URL with a special scheme other than `file` is read**: its host and port are those its
authority gave. -/
theorem parse_special_authority {text : String} {u : Record} (hp : parse text = .ok u)
    (hs : isSpecial u.scheme = true) (hf : u.scheme ≠ "file") :
    ∃ cs v, readAuthority u.scheme cs = .ok v ∧ v.2.1 = u.host ∧ v.2.2.1 = u.port := by
  unfold parse at hp
  split at hp
  · next scheme rest hr =>
    by_cases hfile : scheme = "file"
    · subst hfile
      rw [if_pos (beq_self_eq_true _)] at hp
      exact absurd (readFile_scheme hp) hf
    rw [if_neg (by simpa using hfile)] at hp
    split_ifs at hp with hsp
    · cases ha : readAuthority scheme _ with
      | error e => rw [ha] at hp; cases hp
      | ok v => rw [ha] at hp; cases hp; exact ⟨_, _, ha, rfl, rfl⟩
    · -- a scheme that is not special keeps its name, so it is not this one
      split at hp
      · cases ha : readAuthority scheme _ with
        | error e => rw [ha] at hp; cases hp
        | ok x => rw [ha] at hp; cases hp; exact absurd hs hsp
      · cases hp; exact absurd hs hsp
      · cases hp; exact absurd hs hsp
  · cases hp

/-- **A parsed URL with a special scheme other than `file` never keeps the default port.** -/
theorem parse_port_ne_defaultPort {text : String} {u : Record} (hp : parse text = .ok u)
    (hs : isSpecial u.scheme = true) (hf : u.scheme ≠ "file") {p : Nat} (hport : u.port = some p) :
    defaultPort u.scheme ≠ some p := by
  obtain ⟨cs, v, ha, -, hv⟩ := parse_special_authority hp hs hf
  rcases readAuthority_port ha with hn | ⟨cs', rest, hr⟩
  · rw [hv, hport] at hn
    cases hn
  · rw [hv, hport] at hr
    exact readPort_port hr

/-- **A parsed URL with a special scheme other than `file` has a host.** -/
theorem parse_special_host {text : String} {u : Record} (hp : parse text = .ok u)
    (hs : isSpecial u.scheme = true) (hf : u.scheme ≠ "file") : u.host.isSome := by
  obtain ⟨cs, v, ha, hv, -⟩ := parse_special_authority hp hs hf
  rw [← hv]
  exact readAuthority_host hs ha

end StompConsole.Url
