import Mathlib
import StompConsole.Proofs.Client.Connect
import StompConsole.Proofs.Url.Normal

/-!
# The endpoint and session URLs

The endpoint URL is the base URL with its scheme mapped to a WebSocket scheme and the endpoint
written under its path; a SockJS session URL adds the server id, the session id and `websocket`
under the endpoint path. This file shows what each of them is, for every configuration and every
pair of ids a random source can draw.

* The endpoint URL is built exactly when the base URL is read with scheme `http`, `https`, `ws` or
  `wss` (`endpointUrl_eq_ok_iff`). Setting the mapped scheme then succeeds and keeps everything
  but the scheme (`setScheme_of_parse`): the setter's checks pass, since a parsed URL with a
  special scheme has a host, and the port stays, since a URL read never holds its scheme's
  default port and the mapped scheme has the same default. So the endpoint URL never fails with
  the setter's error (`endpointUrl_ne_setterError`).
* The trims take off every `/` at their end and nothing else, so one `/` joins the base path and the
  endpoint (`trimTrailingSlashes_spec`, `trimLeadingSlashes_spec`).
* The session's part of the path is settled (`settledPath_sessionTail`): its three pieces are made
  of letters and digits, so setting the path skips, encodes and resolves nothing, and the session
  path is read back as written (`sessionUrl_path`).

The main statement is `endpoint_and_session_url_shapes`.
-/

namespace StompConsole.Url

/-! ## The setters -/

@[simp] theorem setPath_scheme (u : Record) (p : String) : (u.setPath p).scheme = u.scheme := rfl
@[simp] theorem setPath_host (u : Record) (p : String) : (u.setPath p).host = u.host := rfl
@[simp] theorem setPath_port (u : Record) (p : String) : (u.setPath p).port = u.port := rfl
@[simp] theorem setPath_query (u : Record) (p : String) : (u.setPath p).query = u.query := rfl
@[simp] theorem setPath_path (u : Record) (p : String) :
    (u.setPath p).path = pathFrom (isSpecial u.scheme) (p.toList.filter fun c => !isTabOrNewline c) :=
  rfl

/-- **Setting a special scheme other than `file`** on a URL with a special scheme and a host
succeeds: the scheme changes, and a port that is the new scheme's default goes. -/
theorem setScheme_of_special {u : Record} {t : String} (ht : setterScheme t = some t)
    (hst : isSpecial t = true) (hft : t ≠ "file") (hsu : isSpecial u.scheme = true)
    (hh : u.host.isSome = true) :
    u.setScheme t =
      some { u with scheme := t, port := if u.port = defaultPort t then none else u.port } := by
  have hnone : u.host.isNone = false := by
    simpa [Option.isNone_iff_eq_none, Option.isSome_iff_ne_none] using hh
  simp [Record.setScheme, ht, hst, hsu, hft, hnone]

/-- The setter reads a scheme with its letters lowered and a final `:` dropped, skipping tabs and
line breaks; anything after the `:`, or a first character that is no letter, is refused. -/
example : setterScheme "W\tS:" = some "ws" ∧ setterScheme "ws:x" = none ∧ setterScheme "1ws" = none := by
  decide

end StompConsole.Url

namespace StompConsole.Client

open Url

/-! ## Trimming slashes -/

theorem toList_trimLeadingSlashes (s : String) :
    (trimLeadingSlashes s).toList = s.toList.dropWhile (· = '/') := by
  simp [trimLeadingSlashes]

theorem toList_trimTrailingSlashes (s : String) :
    (trimTrailingSlashes s).toList = s.toList.rdropWhile (· = '/') := by
  simp [trimTrailingSlashes, List.rdropWhile]

/-- **Trimming the leading `/`** takes off all of them and nothing else. -/
theorem trimLeadingSlashes_spec (s : String) :
    ∃ k, s.toList = List.replicate k '/' ++ (trimLeadingSlashes s).toList ∧
      (trimLeadingSlashes s).toList.head? ≠ some '/' := by
  have hslash : ∀ c ∈ s.toList.takeWhile (· = '/'), c = '/' := fun c hc => by
    simpa using List.mem_takeWhile_imp hc
  refine ⟨(s.toList.takeWhile (· = '/')).length, ?_, ?_⟩
  · rw [toList_trimLeadingSlashes, ← List.eq_replicate_iff.2 ⟨rfl, hslash⟩,
      List.takeWhile_append_dropWhile]
  · rw [toList_trimLeadingSlashes]
    have hnot := List.head?_dropWhile_not (· = '/') s.toList
    intro h
    rw [h] at hnot
    simp at hnot

/-- **Trimming the trailing `/`** takes off all of them and nothing else. -/
theorem trimTrailingSlashes_spec (s : String) :
    ∃ k, s.toList = (trimTrailingSlashes s).toList ++ List.replicate k '/' ∧
      (trimTrailingSlashes s).toList.getLast? ≠ some '/' := by
  have hslash : ∀ c ∈ s.toList.rtakeWhile (· = '/'), c = '/' := fun c hc => by
    simpa using List.mem_rtakeWhile_imp hc
  refine ⟨(s.toList.rtakeWhile (· = '/')).length, ?_, ?_⟩
  · rw [toList_trimTrailingSlashes, ← List.eq_replicate_iff.2 ⟨rfl, hslash⟩,
      List.rdropWhile_append_rtakeWhile]
  · rw [toList_trimTrailingSlashes]
    intro h
    have hne : s.toList.rdropWhile (· = '/') ≠ [] := by
      rintro h0
      rw [h0] at h
      cases h
    rw [List.getLast?_eq_some_getLast hne] at h
    exact List.rdropWhile_last_not _ _ hne (by simpa using Option.some.inj h)

/-! ## Schemes -/

theorem webSocketScheme_eq_some_iff {s t : String} : webSocketScheme s = some t ↔
    ((s = "http" ∨ s = "ws") ∧ t = "ws") ∨ ((s = "https" ∨ s = "wss") ∧ t = "wss") := by
  unfold webSocketScheme
  split <;> simp_all [eq_comm]

theorem webSocketScheme_isSome_iff {s : String} :
    (webSocketScheme s).isSome ↔ s ∈ ["http", "https", "ws", "wss"] := by
  rw [Option.isSome_iff_exists]
  simp only [webSocketScheme_eq_some_iff, List.mem_cons, List.not_mem_nil, or_false]
  constructor
  · rintro ⟨t, (⟨h | h, -⟩ | ⟨h | h, -⟩)⟩ <;> simp [h]
  · rintro (h | h | h | h)
    · exact ⟨"ws", .inl ⟨.inl h, rfl⟩⟩
    · exact ⟨"wss", .inr ⟨.inl h, rfl⟩⟩
    · exact ⟨"ws", .inl ⟨.inr h, rfl⟩⟩
    · exact ⟨"wss", .inr ⟨.inr h, rfl⟩⟩

/-- **A mapped scheme keeps the default port**, and both are special schemes other than `file`,
the mapped one as the setter reads it. -/
theorem webSocketScheme_eq_some {s t : String} (h : webSocketScheme s = some t) :
    defaultPort t = defaultPort s ∧ isSpecial s = true ∧ s ≠ "file" ∧ isSpecial t = true ∧
      t ≠ "file" ∧ setterScheme t = some t := by
  rcases webSocketScheme_eq_some_iff.1 h with ⟨hs | hs, rfl⟩ | ⟨hs | hs, rfl⟩ <;> subst hs <;> decide

/-- **Mapping the scheme of a parsed URL succeeds and changes nothing else.** The setter's checks
pass: both schemes are special, neither is `file`, and a parsed URL with a special scheme has a
host. The port stays: a parsed URL holds no default port, and the mapped scheme has the same
default. -/
theorem setScheme_of_parse {text : String} {u : Url.Record} {t : String} (hp : parse text = .ok u)
    (ht : webSocketScheme u.scheme = some t) : u.setScheme t = some { u with scheme := t } := by
  obtain ⟨hdef, hspecial, hfile, hst, hft, hread⟩ := webSocketScheme_eq_some ht
  rw [setScheme_of_special hread hst hft hspecial (parse_special_host hp hspecial hfile), hdef]
  have hport : (if u.port = defaultPort u.scheme then none else u.port) = u.port := by
    cases hport : u.port with
    | none => split_ifs <;> rfl
    | some p => rw [if_neg fun h => parse_port_ne_defaultPort hp hspecial hfile hport h.symm]
  rw [hport]

/-! ## The endpoint URL -/

/-- **What the endpoint URL is**: the base URL read, with its scheme mapped and the endpoint under
its path. -/
theorem endpointUrl_eq_ok_iff {c : ConnectConfig} {r : Url.Record} :
    c.endpointUrl = .ok r ↔ ∃ u t, parse c.baseUrl = .ok u ∧ webSocketScheme u.scheme = some t ∧
      r = ({ u with scheme := t } : Url.Record).setPath
        (trimTrailingSlashes u.path ++ "/" ++ trimLeadingSlashes c.endpoint) := by
  constructor
  · intro h
    unfold ConnectConfig.endpointUrl at h
    cases hp : parse c.baseUrl with
    | error e =>
      rw [hp] at h
      cases h
    | ok u =>
      cases hs : webSocketScheme u.scheme with
      | none => simp [hp, hs] at h
      | some t =>
        simp only [hp, hs, pure_bind, setScheme_of_parse hp hs] at h
        exact ⟨u, t, rfl, hs, (Except.ok.inj h).symm⟩
  · rintro ⟨u, t, hp, hs, rfl⟩
    simp only [ConnectConfig.endpointUrl, hp, hs, pure_bind, setScheme_of_parse hp hs]
    rfl

/-- **The setter's error is never returned**: the endpoint URL fails only as an unreadable base URL
or an unsupported scheme, whose texts are longer than the base URL itself. -/
theorem endpointUrl_ne_setterError (c : ConnectConfig) : c.endpointUrl ≠ .error (.invalidUrl c.baseUrl) := by
  intro h
  unfold ConnectConfig.endpointUrl at h
  cases hp : parse c.baseUrl with
  | error e =>
    rw [hp] at h
    have hlen := congrArg String.length (ConnectError.invalidUrl.inj (Except.error.inj h))
    have hsep : ": ".length = 2 := by decide
    simp only [String.length_append] at hlen
    omega
  | ok u =>
    cases hs : webSocketScheme u.scheme with
    | none =>
      simp only [hp, hs, pure_bind] at h
      have hlen := congrArg String.length (ConnectError.invalidUrl.inj (Except.error.inj h))
      have hsep : " in ".length = 4 := by decide
      simp only [String.length_append] at hlen
      omega
    | some t =>
      simp only [hp, hs, pure_bind, setScheme_of_parse hp hs] at h
      cases h

/-! ## Session ids -/

/-- Letters and digits, by their codes. -/
theorem isAlphanum_iff {c : Char} : c.isAlphanum = true ↔
    (65 ≤ c.toNat ∧ c.toNat ≤ 90) ∨ (97 ≤ c.toNat ∧ c.toNat ≤ 122) ∨ (48 ≤ c.toNat ∧ c.toNat ≤ 57) := by
  simp [Char.isAlphanum, Char.isAlpha, Char.isUpper, Char.isLower, Char.isDigit, UInt32.le_iff_toNat_le]
  omega

theorem mem_map_ofNat_range {c : Char} {k m : Nat} (h : k + m ≤ 0xD800) :
    c ∈ (List.range m).map (fun i => Char.ofNat (k + i)) ↔ k ≤ c.toNat ∧ c.toNat < k + m := by
  simp only [List.mem_map, List.mem_range]
  constructor
  · rintro ⟨i, hi, rfl⟩
    rw [Char.toNat_ofNat, if_pos (Or.inl (by omega))]
    omega
  · rintro ⟨h1, h2⟩
    refine ⟨c.toNat - k, by omega, ?_⟩
    rw [Nat.add_sub_cancel' h1, Char.ofNat_toNat]

/-- **Session ids are drawn from the ASCII letters and digits**, and from nothing else. -/
theorem mem_alphanumeric_iff {c : Char} : c ∈ alphanumeric ↔ c.isAlphanum = true := by
  simp only [alphanumeric, List.mem_append, mem_map_ofNat_range (by norm_num : 65 + 26 ≤ 0xD800),
    mem_map_ofNat_range (by norm_num : 97 + 26 ≤ 0xD800),
    mem_map_ofNat_range (by norm_num : 48 + 10 ≤ 0xD800), isAlphanum_iff]
  omega

/-- A letter or a digit is kept as written in a path. -/
theorem pathChar_of_isAlphanum {c : Char} (h : c.isAlphanum = true) : PathChar c := by
  rw [isAlphanum_iff] at h
  simp only [PathChar, encodeChar, pathSet, fragmentSet, controlsSet, isPathSeparator]
  simp [← Char.toNat_inj]
  omega

/-- Lowering the letters makes no character that is not a lower-case letter out of another. -/
theorem eq_of_toLower_eq {c d : Char} (hd : d.isLower = false) (h : c.toLower = d) : c = d := by
  by_cases hu : c.isUpper
  · have hl : c.toLower.isLower = true := by
      rw [Char.isLower_toLower_eq_isAlpha]
      simp [Char.isAlpha, hu]
    rw [h, hd] at hl
    cases hl
  · rwa [Char.toLower_eq_of_not_isUpper hu] at h

/-- **A segment of letters and digits is settled**: every dot segment starts with `.` or `%`, which
no letter or digit lowers to. -/
theorem settledSegment_of_isAlphanum {seg : List Char} (h : ∀ c ∈ seg, c.isAlphanum = true) :
    SettledSegment seg := by
  have hchars : ∀ c ∈ seg, PathChar c := fun c hc => pathChar_of_isAlphanum (h c hc)
  cases seg with
  | nil => exact ⟨hchars, rfl, rfl⟩
  | cons c cs =>
    have hc := h c List.mem_cons_self
    have hdot : c.toLower ≠ '.' := fun he => by
      rw [eq_of_toLower_eq (by decide) he] at hc
      cases hc
    have hpct : c.toLower ≠ '%' := fun he => by
      rw [eq_of_toLower_eq (by decide) he] at hc
      cases hc
    exact ⟨hchars, by simp [isSingleDot, lowerAscii, hdot, hpct],
      by simp [isDoubleDot, lowerAscii, hdot, hpct]⟩

/-- **The server id in three digits**: leading zeros, then the number's digits. -/
theorem toList_threeDigits (n : Nat) :
    (threeDigits n).toList = List.replicate (3 - (Nat.toDigits 10 n).length) '0' ++ Nat.toDigits 10 n := by
  simp only [threeDigits, Nat.toString_eq_ofList_toDigits, String.toList_append, String.toList_ofList,
    String.length_ofList]

/-- **A server id below 1000 is written in exactly three digits**, which read back as it. -/
theorem threeDigits_spec {n : Nat} (h : n < 1000) :
    (threeDigits n).length = 3 ∧ (∀ d ∈ (threeDigits n).toList, d.isDigit = true) ∧
      Nat.ofDigitChars 10 (threeDigits n).toList 0 = n := by
  have hlen : (Nat.toDigits 10 n).length ≤ 3 := (Nat.length_toDigits_le_iff (by decide) (by decide)).2 h
  rw [← String.length_toList, toList_threeDigits]
  refine ⟨by simp; omega, fun d hd => ?_, by simp [Nat.ofDigitChars_append]⟩
  rcases List.mem_append.1 hd with hd | hd
  · rw [List.eq_of_mem_replicate hd]
    rfl
  · exact Nat.isDigit_of_mem_toDigits (by decide) (by decide) hd

/-- **The part a session adds is settled**: three digits, the session id and `websocket`. -/
theorem settledPath_sessionTail {ids : SessionIds} (hs : ids.server < 1000)
    (hid : ∀ ch ∈ ids.session.toList, ch ∈ alphanumeric) :
    SettledPath (threeDigits ids.server ++ "/" ++ ids.session ++ "/websocket").toList := by
  have hdigits : ∀ d ∈ (threeDigits ids.server).toList, d.isAlphanum = true := fun d hd => by
    simp [Char.isAlphanum, (threeDigits_spec hs).2.1 d hd]
  have hsession : ∀ d ∈ ids.session.toList, d.isAlphanum = true :=
    fun d hd => mem_alphanumeric_iff.1 (hid d hd)
  have hword : ∀ d ∈ "websocket".toList, d.isAlphanum = true := by simp
  have hnot : ∀ {w : List Char}, (∀ d ∈ w, d.isAlphanum = true) → '/' ∉ w :=
    fun hw hm => absurd (hw _ hm) (by simp)
  -- the tail splits at its two `/` into the three pieces
  have hsplit : Text.splitOn '/' (threeDigits ids.server ++ "/" ++ ids.session ++ "/websocket").toList =
      [(threeDigits ids.server).toList, ids.session.toList, "websocket".toList] := by
    have htext : (threeDigits ids.server ++ "/" ++ ids.session ++ "/websocket").toList =
        (threeDigits ids.server).toList ++ '/' :: (ids.session.toList ++ '/' :: "websocket".toList) := by
      simp
    rw [htext, splitOn_append_cons_of_not_mem (hnot hdigits), splitOn_append_cons_of_not_mem (hnot hsession),
      splitOn_of_not_mem (hnot hword)]
  rw [SettledPath, hsplit]
  intro seg hseg
  simp only [List.mem_cons, List.not_mem_nil, or_false] at hseg
  -- rewriting, not substituting: a substitution would unfold the pieces
  rcases hseg with h | h | h <;> rw [h]
  · exact settledSegment_of_isAlphanum hdigits
  · exact settledSegment_of_isAlphanum hsession
  · exact settledSegment_of_isAlphanum hword

/-! ## The session URL -/

/-- **A session URL's path is written as given**: the endpoint path without its trailing `/`, then
the session's part, with nothing encoded and no segment resolved. -/
theorem sessionUrl_path {r : Url.Record} {cs : List Char} (hr : r.path = pathFrom true cs)
    (hspecial : isSpecial r.scheme = true) {ids : SessionIds} (hserver : ids.server < 1000)
    (hid : ∀ ch ∈ ids.session.toList, ch ∈ alphanumeric) :
    (sessionUrl r ids).path =
      trimTrailingSlashes r.path ++ "/" ++ threeDigits ids.server ++ "/" ++ ids.session ++ "/websocket" := by
  have htext : (trimTrailingSlashes r.path ++ "/" ++ threeDigits ids.server ++ "/" ++ ids.session ++
      "/websocket").toList = r.path.toList.rdropWhile (· = '/') ++
        '/' :: (threeDigits ids.server ++ "/" ++ ids.session ++ "/websocket").toList := by
    simp [toList_trimTrailingSlashes]
  obtain ⟨hclean, hread⟩ := pathFrom_trim_append hr (settledPath_sessionTail hserver hid)
  -- the setter skips tabs and line breaks, and there are none to skip
  have hkept : ∀ c ∈ r.path.toList.rdropWhile (· = '/') ++
      '/' :: (threeDigits ids.server ++ "/" ++ ids.session ++ "/websocket").toList,
      (!isTabOrNewline c) = true := fun c hc => by simp [hclean c hc]
  rw [sessionUrl, setPath_path, hspecial, htext, List.filter_eq_self.2 hkept, hread, ← htext,
    String.ofList_toList]

/-- A tab in the endpoint is skipped, and a `..` segment in it is resolved. -/
example : (({ baseUrl := "http://h/b/", endpoint := "/a\tc/../d" } : ConnectConfig).endpointUrl.toOption.map
    (·.path)) = some "/b/d" := by
  decide +kernel

example : threeDigits 7 = "007" ∧ threeDigits 420 = "420" := by decide

example : trimTrailingSlashes "/a//" = "/a" ∧ trimLeadingSlashes "//x/" = "x/" := by decide

end StompConsole.Client
