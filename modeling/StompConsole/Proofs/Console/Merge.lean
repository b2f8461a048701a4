import Mathlib
import StompConsole.Console.Settings
import StompConsole.Proofs.Client.Connect

/-!
# Merging the settings

`Resolved.merge` takes each setting from the command line, else from the settings file, else from
the client's defaults; the incoming heart-beat, the handshake timeout and the two topics have no
command-line option and come from the file or the defaults. It then checks the result in a fixed
order: first the transport's name, then the endpoint URL.

This file takes the merge apart once and reads every fact about it off that:

* an unknown transport name fails the merge before the URL is looked at
  (`merge_of_unknown_transport`); once the transport is known (`ChosenTransport`), the merge is
  the settings `Resolved.merged` builds, checked by their endpoint URL
  (`merge_of_chosenTransport`), which reads only the base URL and the endpoint
  (`ConnectConfig.endpointUrl_congr`);
* so a merge fails exactly when the transport's name or the URL is bad (`merge_eq_error_iff`),
  and a successful one is the merged settings (`merge_eq_ok_iff`);
* the settings written to a file (`Resolved.toSettings`) merge again, under an empty command line,
  to the same connection settings and log file (`merge_toSettings`): every value is written as it
  is read, and a transport's label parses back to it.
-/

namespace StompConsole

namespace Client

/-- A transport's label parses back to it. -/
@[simp] theorem TransportKind.parse_label (t : TransportKind) :
    TransportKind.parse t.label = some t := by
  cases t <;> decide

/-- A name is no transport exactly when, with its ASCII letters lowered, it is none of `sockjs`,
`websocket` and `ws`. -/
theorem TransportKind.parse_eq_none_iff (name : String) :
    TransportKind.parse name = none ↔
      String.ofList (name.toList.map Char.toLower) ∉ ["sockjs", "websocket", "ws"] := by
  unfold TransportKind.parse
  split <;> simp_all

/-- The endpoint URL reads the base URL and the endpoint and nothing else. -/
theorem ConnectConfig.endpointUrl_congr {c c' : ConnectConfig} (hb : c.baseUrl = c'.baseUrl)
    (he : c.endpoint = c'.endpoint) : c.endpointUrl = c'.endpointUrl := by
  simp only [ConnectConfig.endpointUrl, hb, he]

end Client

namespace Console

open Client

theorem transportOf_of_parse_none {name : String} (h : TransportKind.parse name = none) :
    transportOf name = .error ("unknown transport " ++ Text.quoteString name ++
      " (expected sockjs or websocket)") := by
  simp [transportOf, h]

theorem transportOf_of_parse_some {name : String} {t : TransportKind}
    (h : TransportKind.parse name = some t) : transportOf name = pure t := by
  simp [transportOf, h, pure, Except.pure]

namespace Resolved

/-- **The transport a merge settles on**: the default when neither the command line nor the file
names one, else the one the name given first parses to. -/
def ChosenTransport (cli : CommandLine) (file : Settings) (t : TransportKind) : Prop :=
  ((cli.transport <|> file.transport) = none ∧ t = ({} : ConnectConfig).transport) ∨
    ∃ name, (cli.transport <|> file.transport) = some name ∧ TransportKind.parse name = some t

/-- **The settings a merge settles on** once its transport is known. -/
def merged (cli : CommandLine) (file : Settings) (transport : TransportKind) : Resolved where
  connect := {
    baseUrl := (cli.url <|> file.url).getD ({} : ConnectConfig).baseUrl
    endpoint := (cli.endpoint <|> file.endpoint).getD ({} : ConnectConfig).endpoint
    transport := transport
    heartbeat :=
      ⟨(cli.heartbeat <|> file.heartbeatOutgoing).getD ({} : ConnectConfig).heartbeat.outgoing,
        file.heartbeatIncoming.getD ({} : ConnectConfig).heartbeat.incoming⟩
    reconnectDelay :=
      (cli.reconnectDelay <|> file.reconnectDelay).getD ({} : ConnectConfig).reconnectDelay
    handshakeTimeout := file.handshakeTimeout.getD ({} : ConnectConfig).handshakeTimeout
    errorTopic := file.errorTopic.getD ({} : ConnectConfig).errorTopic
    notificationTopic := file.notificationTopic.getD ({} : ConnectConfig).notificationTopic }
  logFile := cli.logFile <|> file.logFile
  autoConnect := cli.connect

/-- The name given first parses, or it does not. -/
theorem chosenTransport_or_unknown (cli : CommandLine) (file : Settings) :
    (∃ t, ChosenTransport cli file t) ∨
      ∃ name, (cli.transport <|> file.transport) = some name ∧
        TransportKind.parse name = none := by
  cases hn : (cli.transport <|> file.transport) with
  | none => exact Or.inl ⟨_, Or.inl ⟨hn, rfl⟩⟩
  | some name =>
    cases hp : TransportKind.parse name with
    | none => exact Or.inr ⟨name, rfl, hp⟩
    | some t => exact Or.inl ⟨t, Or.inr ⟨name, hn, hp⟩⟩

/-- **An unknown transport name fails the merge**, whatever the URL: the name is checked first. -/
theorem merge_of_unknown_transport {cli : CommandLine} {file : Settings} {name : String}
    (hn : (cli.transport <|> file.transport) = some name) (hp : TransportKind.parse name = none) :
    merge cli file = .error ("unknown transport " ++ Text.quoteString name ++
      " (expected sockjs or websocket)") := by
  simp only [merge, hn, transportOf_of_parse_none hp]
  rfl

/-- **Once the transport is known, the merge is the merged settings**, checked by their endpoint
URL. -/
theorem merge_of_chosenTransport {cli : CommandLine} {file : Settings} {t : TransportKind}
    (ht : ChosenTransport cli file t) :
    merge cli file = ((merged cli file t).connect.endpointUrl.mapError ConnectError.message).map
      fun _ => merged cli file t := by
  rcases ht with ⟨hn, rfl⟩ | ⟨name, hn, hp⟩
  · simp only [merge, hn, pure_bind]
    split
    · next e he => rw [show (merged cli file _).connect.endpointUrl = .error e from he]; rfl
    · next u hu => rw [show (merged cli file _).connect.endpointUrl = .ok u from hu]; rfl
  · simp only [merge, hn, transportOf_of_parse_some hp, pure_bind]
    split
    · next e he => rw [show (merged cli file _).connect.endpointUrl = .error e from he]; rfl
    · next u hu => rw [show (merged cli file _).connect.endpointUrl = .ok u from hu]; rfl

/-- A transport that was settled on is the one the name given first parses to, or the default. -/
theorem ChosenTransport.eq_getD {cli : CommandLine} {file : Settings} {t : TransportKind}
    (ht : ChosenTransport cli file t) :
    t = ((cli.transport <|> file.transport).bind TransportKind.parse).getD
      ({} : ConnectConfig).transport := by
  rcases ht with ⟨hn, rfl⟩ | ⟨name, hn, hp⟩
  · rw [hn]
    rfl
  · rw [hn, Option.bind_some, hp]
    rfl

/-- Once a transport was settled on, no name was given that does not parse. -/
theorem ChosenTransport.parse_ne_none {cli : CommandLine} {file : Settings} {t : TransportKind}
    (ht : ChosenTransport cli file t) {name : String}
    (hn : (cli.transport <|> file.transport) = some name) : TransportKind.parse name ≠ none := by
  rcases ht with ⟨hn', -⟩ | ⟨name', hn', hp⟩
  · rw [hn] at hn'
    cases hn'
  · obtain rfl : name' = name := Option.some.inj (hn'.symm.trans hn)
    rw [hp]
    exact Option.some_ne_none t

/-- **A merge fails on the endpoint URL** with the URL's own message, once the transport is
settled. -/
theorem merge_of_endpointUrl_error {cli : CommandLine} {file : Settings} {t : TransportKind}
    (ht : ChosenTransport cli file t) {e : ConnectError}
    (hu : (merged cli file t).connect.endpointUrl = .error e) :
    merge cli file = .error e.message := by
  rw [merge_of_chosenTransport ht, hu]
  rfl

theorem merge_of_endpointUrl_ok {cli : CommandLine} {file : Settings} {t : TransportKind}
    (ht : ChosenTransport cli file t) {u : Url.Record}
    (hu : (merged cli file t).connect.endpointUrl = .ok u) :
    merge cli file = .ok (merged cli file t) := by
  rw [merge_of_chosenTransport ht, hu]
  rfl

/-- **A successful merge** settled on a transport and gave the merged settings for it, whose
endpoint URL is valid. -/
theorem merge_eq_ok_iff {cli : CommandLine} {file : Settings} {r : Resolved} :
    merge cli file = .ok r ↔
      ∃ t, ChosenTransport cli file t ∧ r = merged cli file t ∧
        ∃ u, r.connect.endpointUrl = .ok u := by
  constructor
  · intro h
    rcases chosenTransport_or_unknown cli file with ⟨t, ht⟩ | ⟨name, hn, hp⟩
    · cases hu : (merged cli file t).connect.endpointUrl with
      | error e =>
        rw [merge_of_endpointUrl_error ht hu] at h
        cases h
      | ok u =>
        rw [merge_of_endpointUrl_ok ht hu] at h
        obtain rfl : merged cli file t = r := Except.ok.inj h
        exact ⟨t, ht, rfl, u, hu⟩
    · rw [merge_of_unknown_transport hn hp] at h
      cases h
  · rintro ⟨t, ht, rfl, u, hu⟩
    exact merge_of_endpointUrl_ok ht hu

/-- The merged settings' endpoint URL is that of their base URL and endpoint alone. -/
theorem merged_endpointUrl (cli : CommandLine) (file : Settings) (t : TransportKind) :
    (merged cli file t).connect.endpointUrl =
      ({ baseUrl := (cli.url <|> file.url).getD ({} : ConnectConfig).baseUrl,
         endpoint := (cli.endpoint <|> file.endpoint).getD ({} : ConnectConfig).endpoint } :
        ConnectConfig).endpointUrl :=
  ConnectConfig.endpointUrl_congr rfl rfl

/-- **When a merge fails**: the name given first is not a transport, or the endpoint URL of the
merged base URL and endpoint is not valid. -/
theorem merge_eq_error_iff (cli : CommandLine) (file : Settings) :
    (∃ e, merge cli file = .error e) ↔
      (∃ name, (cli.transport <|> file.transport) = some name ∧
        TransportKind.parse name = none) ∨
      ∃ e, ({ baseUrl := (cli.url <|> file.url).getD ({} : ConnectConfig).baseUrl,
              endpoint := (cli.endpoint <|> file.endpoint).getD ({} : ConnectConfig).endpoint } :
            ConnectConfig).endpointUrl = .error e := by
  rcases chosenTransport_or_unknown cli file with ⟨t, ht⟩ | ⟨name, hn, hp⟩
  · -- the transport is settled, so only the URL can fail
    have hnot : ¬ ∃ name, (cli.transport <|> file.transport) = some name ∧
        TransportKind.parse name = none := fun ⟨name, hn, hp⟩ => ht.parse_ne_none hn hp
    rw [or_iff_right hnot, ← merged_endpointUrl cli file t]
    constructor
    · rintro ⟨e, he⟩
      cases hu : (merged cli file t).connect.endpointUrl with
      | error e' => exact ⟨e', rfl⟩
      | ok u =>
        rw [merge_of_endpointUrl_ok ht hu] at he
        cases he
    · rintro ⟨e, he⟩
      exact ⟨_, merge_of_endpointUrl_error ht he⟩
  · exact iff_of_true ⟨_, merge_of_unknown_transport hn hp⟩ (Or.inl ⟨name, hn, hp⟩)

/-- **Where each merged setting comes from, and when the merge fails.** The merge fails exactly
when the name given first is not a transport (not `sockjs`, `websocket` or `ws` in any ASCII
letter case), or the endpoint URL of the merged base URL and endpoint is not valid. A bad
transport name is reported, naming it, whatever the URL; with a transport settled, a bad URL is
reported with the URL's own message. A successful merge takes the base URL, the endpoint, the
outgoing heart-beat, the retry delay and the log file from the command line, else the file, else
the defaults; the incoming heart-beat, the handshake timeout and the topics from the file, else
the defaults; the transport from the name given first, else the default; and connects at start
exactly when the command line asks. -/
theorem merge_checks_and_sources (cli : CommandLine) (file : Settings) :
    let d : ConnectConfig := {}
    let name := cli.transport <|> file.transport
    let base := (cli.url <|> file.url).getD d.baseUrl
    let endpoint := (cli.endpoint <|> file.endpoint).getD d.endpoint
    (∀ n, TransportKind.parse n = none ↔
      String.ofList (n.toList.map Char.toLower) ∉ ["sockjs", "websocket", "ws"]) ∧
    ((∃ e, merge cli file = .error e) ↔
      (∃ n, name = some n ∧ TransportKind.parse n = none) ∨
        ∃ e, ({ baseUrl := base, endpoint := endpoint } : ConnectConfig).endpointUrl =
          .error e) ∧
    (∀ n, name = some n → TransportKind.parse n = none →
      merge cli file = .error ("unknown transport " ++ Text.quoteString n ++
        " (expected sockjs or websocket)")) ∧
    (∀ e, (∀ n, name = some n → TransportKind.parse n ≠ none) →
      ({ baseUrl := base, endpoint := endpoint } : ConnectConfig).endpointUrl = .error e →
      merge cli file = .error e.message) ∧
    (∀ r, merge cli file = .ok r →
      r.connect.baseUrl = base ∧ r.connect.endpoint = endpoint ∧
      r.connect.transport = (name.bind TransportKind.parse).getD d.transport ∧
      r.connect.heartbeat.outgoing =
        (cli.heartbeat <|> file.heartbeatOutgoing).getD d.heartbeat.outgoing ∧
      r.connect.heartbeat.incoming = file.heartbeatIncoming.getD d.heartbeat.incoming ∧
      r.connect.reconnectDelay =
        (cli.reconnectDelay <|> file.reconnectDelay).getD d.reconnectDelay ∧
      r.connect.handshakeTimeout = file.handshakeTimeout.getD d.handshakeTimeout ∧
      r.connect.errorTopic = file.errorTopic.getD d.errorTopic ∧
      r.connect.notificationTopic = file.notificationTopic.getD d.notificationTopic ∧
      r.logFile = (cli.logFile <|> file.logFile) ∧ r.autoConnect = cli.connect) := by
  intro d name base endpoint
  refine ⟨TransportKind.parse_eq_none_iff, merge_eq_error_iff cli file,
    fun n hn hp => merge_of_unknown_transport hn hp,
    fun e hgood he => ?_, fun r hr => ?_⟩
  · -- a name that parses, or none at all, settles the transport
    rcases chosenTransport_or_unknown cli file with ⟨t, ht⟩ | ⟨n, hn, hp⟩
    · exact merge_of_endpointUrl_error ht ((merged_endpointUrl cli file t).trans he)
    · exact absurd hp (hgood n hn)
  · obtain ⟨t, ht, rfl, -⟩ := merge_eq_ok_iff.1 hr
    exact ⟨rfl, rfl, ht.eq_getD, rfl, rfl, rfl, rfl, rfl, rfl, rfl, rfl⟩

/-! ## Saved settings read back -/

/-- Saved settings name their transport by its label, which parses back to it. -/
theorem chosenTransport_toSettings (r : Resolved) (log : String) :
    ChosenTransport {} (r.toSettings log) r.connect.transport :=
  Or.inr ⟨_, rfl, TransportKind.parse_label _⟩

/-- Under an empty command line, saved settings merge field by field to the settings they were
saved from: each is written as it is read. -/
theorem merged_toSettings (r : Resolved) (log : String) :
    merged {} (r.toSettings log) r.connect.transport =
      { connect := r.connect, logFile := some log, autoConnect := false } := rfl

/-- **Saved settings merge back**: the settings of a successful merge, saved with any log file and
merged again under an empty command line, give the same connection settings and that log file. -/
theorem merge_toSettings {cli : CommandLine} {file : Settings} {r : Resolved}
    (h : merge cli file = .ok r) (log : String) :
    merge {} (r.toSettings log) =
      .ok { connect := r.connect, logFile := some log, autoConnect := false } := by
  -- the saved base URL and endpoint are those already checked
  obtain ⟨-, -, -, u, hu⟩ := merge_eq_ok_iff.1 h
  rw [merge_eq_ok_iff]
  exact ⟨_, chosenTransport_toSettings r log, (merged_toSettings r log).symm, u, hu⟩

/-- **Settings saved by `--save-config` read back as themselves.** Whatever the command line and
the file, the settings of a successful merge, saved with their log file (the default place when
none was named), merge again under an empty command line. The result has the same connection
settings, field by field, and the same log file, and saves to the same file; only the choice to
connect at start is not kept. -/
theorem merge_reads_back_saved_settings (cli : CommandLine) (file : Settings) (r : Resolved)
    (defaultLog : String) (h : merge cli file = .ok r) :
    let saved := r.toSettings (r.logFile.getD defaultLog)
    ∃ r2, merge {} saved = .ok r2 ∧ r2.connect = r.connect ∧
      r2.logFile.getD defaultLog = r.logFile.getD defaultLog ∧
      r2.toSettings (r2.logFile.getD defaultLog) = saved ∧ r2.autoConnect = false := by
  intro saved
  exact ⟨_, merge_toSettings h _, rfl, rfl, rfl, rfl⟩

/-- The settings of `--url http://broker:8181` over an empty file read back as themselves. -/
theorem merge_reads_back_broker_settings :
    ∃ r, merge { url := some "http://broker:8181" } {} = .ok r ∧
      let saved := r.toSettings (r.logFile.getD "console.log")
      ∃ r2, merge {} saved = .ok r2 ∧ r2.connect = r.connect ∧
        r2.logFile.getD "console.log" = r.logFile.getD "console.log" ∧
        r2.toSettings (r2.logFile.getD "console.log") = saved ∧ r2.autoConnect = false := by
  obtain ⟨r, hr⟩ := exists_eq_ok_of_toBool
    (x := merge { url := some "http://broker:8181" } {}) (by decide +kernel)
  exact ⟨r, hr, merge_reads_back_saved_settings _ _ r "console.log" hr⟩

end Resolved

end Console

end StompConsole
