import StompConsole.Console.Settings

/-!
# The command line

The console takes long options only: `--url`, `--endpoint`, `--transport`, `--log-file`,
`--reconnect-delay-ms`, `--heartbeat-ms` and `--config` take a value, written as the next
argument or after `=`; `--connect` and `--save-config` are switches; `--help` shows the options.
An option may be given once. The base URL, the endpoint, the transport and the log file fall back
to the environment variables `MIMP_URL`, `MIMP_ENDPOINT`, `MIMP_TRANSPORT` and `MIMP_LOG_FILE`
when they are not on the command line; an empty variable counts as unset.
-/

namespace StompConsole.Console

/-- **What the console was asked to do.** -/
structure Invocation where
  commandLine : CommandLine := {}
  /-- Another settings file than the usual one. -/
  settingsFile : Option String := none
  /-- Write the settings in effect to the settings file and stop. -/
  saveSettings : Bool := false
  /-- Show the options and stop. -/
  help : Bool := false
  deriving Repr

/-- The options that take a value, with the name of the value. -/
def valueOptions : List (String × String) :=
  [("url", "URL"), ("endpoint", "ENDPOINT"), ("transport", "TRANSPORT"),
    ("reconnect-delay-ms", "RECONNECT_DELAY_MS"), ("heartbeat-ms", "HEARTBEAT_MS"),
    ("log-file", "LOG_FILE"), ("config", "CONFIG")]

/-- The switches. -/
def switches : List String := ["connect", "save-config", "help"]

/-- The name of the program. -/
def programName : String := "mimp-tui"

/-- How to ask for more. -/
def moreInformation : String := "\n\nFor more information, try '--help'.\n"

/-- The usage line. -/
def usageLine : String := "\n\nUsage: " ++ programName ++ " [OPTIONS]"

/-- How an option that takes a value is shown in messages. -/
def optionShown (name : String) : String :=
  "--" ++ name ++ ((valueOptions.lookup name).map (" <" ++ · ++ ">")).getD ""

/-- **The options, for `--help`.** -/
def helpText : String :=
  "Terminal console for the MIMP message broker\n\n" ++
  "Usage: " ++ programName ++ " [OPTIONS]\n\n" ++
  "Options:\n" ++
  "      --url <URL>                       Web server base URL (default http://localhost:8181) [env: MIMP_URL=]\n" ++
  "      --endpoint <ENDPOINT>             Broker endpoint path (default /mimp-ws) [env: MIMP_ENDPOINT=]\n" ++
  "      --transport <TRANSPORT>           Transport: sockjs or websocket [env: MIMP_TRANSPORT=]\n" ++
  "      --reconnect-delay-ms <RECONNECT_DELAY_MS>  Retry delay in milliseconds; 0 disables retry\n" ++
  "      --heartbeat-ms <HEARTBEAT_MS>     Outgoing heart-beat in milliseconds; 0 disables\n" ++
  "      --log-file <LOG_FILE>             Log file (default in the user cache directory) [env: MIMP_LOG_FILE=]\n" ++
  "      --config <CONFIG>                 Alternate config file\n" ++
  "      --connect                         Connect immediately on start\n" ++
  "      --save-config                     Write the effective settings to the config file and exit\n" ++
  "  -h, --help                            Print help\n"

/-- A count given on the command line. -/
def countArgument (name value : String) : Except String Nat :=
  let problem :=
    if value.isEmpty then some "cannot parse integer from empty string"
    else if !(value.toList.all Char.isDigit) then some "invalid digit found in string"
    else if value.toNat! ≥ Nat.pow 2 64 then some "number too large to fit in target type"
    else none
  match problem with
  | some p =>
    .error ("error: invalid value '" ++ value ++ "' for '" ++ optionShown name ++ "': " ++ p ++
      moreInformation)
  | none => .ok value.toNat!

/-- Record the value of an option. -/
def Invocation.setValue (inv : Invocation) (name value : String) : Except String Invocation :=
  let cli := inv.commandLine
  match name with
  | "url" => .ok { inv with commandLine := { cli with url := some value } }
  | "endpoint" => .ok { inv with commandLine := { cli with endpoint := some value } }
  | "transport" => .ok { inv with commandLine := { cli with transport := some value } }
  | "log-file" => .ok { inv with commandLine := { cli with logFile := some value } }
  | "config" => .ok { inv with settingsFile := some value }
  | "reconnect-delay-ms" => do
    let n ← countArgument name value
    return { inv with commandLine := { cli with reconnectDelay := some n } }
  | "heartbeat-ms" => do
    let n ← countArgument name value
    return { inv with commandLine := { cli with heartbeat := some n } }
  | _ => .ok inv

/-- Turn a switch on. -/
def Invocation.setSwitch (inv : Invocation) (name : String) : Invocation :=
  match name with
  | "connect" => { inv with commandLine := { inv.commandLine with connect := true } }
  | "save-config" => { inv with saveSettings := true }
  | _ => { inv with help := true }

/-- Whether an argument looks like an option rather than a value. -/
def looksLikeOption (arg : String) : Bool := arg.startsWith "-" && arg != "-"

/-- Read the arguments; `seen` holds the options given so far. Each step reads at least one
argument, so `fuel` above their number suffices. -/
def readArguments : Nat → List String → List String → Invocation → Except String Invocation
  | 0, _, _, inv => .ok inv
  | _, [], _, inv => .ok inv
  | fuel + 1, arg :: rest, seen, inv =>
    let unexpected : Except String Invocation :=
      .error ("error: unexpected argument '" ++ arg ++ "' found" ++ usageLine ++ moreInformation)
    if arg == "-h" then readArguments fuel rest seen { inv with help := true }
    else if !arg.startsWith "--" then unexpected
    else
      let body := String.ofList (arg.toList.drop 2)
      let (name, attached) := match body.splitOn "=" with
        | [n] => (n, none)
        | n :: more => (n, some ("=".intercalate more))
        | [] => (body, none)
      let repeated : Except String Invocation :=
        .error ("error: the argument '" ++ optionShown name ++ "' cannot be used multiple times" ++
          usageLine ++ moreInformation)
      let missing : Except String Invocation :=
        .error ("error: a value is required for '" ++ optionShown name ++
          "' but none was supplied" ++ moreInformation)
      if (valueOptions.lookup name).isSome then
        let taken : Option (String × List String) := match attached, rest with
          | some v, _ => some (v, rest)
          | none, v :: more => if looksLikeOption v then none else some (v, more)
          | none, [] => none
        if seen.contains name then repeated
        else match taken with
          | none => missing
          | some (v, more) => do readArguments fuel more (name :: seen) (← inv.setValue name v)
      else if switches.contains name then
        match attached with
        | some v =>
          .error ("error: unexpected value '" ++ v ++ "' for '--" ++ name ++
            "' found; no more were expected" ++ usageLine ++ moreInformation)
        | none =>
          if seen.contains name && name != "help" then repeated
          else readArguments fuel rest (name :: seen) (inv.setSwitch name)
      else unexpected

/-- Fill what the command line left out from the environment; an empty variable counts as
unset. -/
def Invocation.withEnvironment (inv : Invocation) (env : String → Option String) : Invocation :=
  let var (k : String) : Option String := (env k).filter (!·.isEmpty)
  let cli := inv.commandLine
  { inv with commandLine := { cli with
      url := cli.url <|> var "MIMP_URL"
      endpoint := cli.endpoint <|> var "MIMP_ENDPOINT"
      transport := cli.transport <|> var "MIMP_TRANSPORT"
      logFile := cli.logFile <|> var "MIMP_LOG_FILE" } }

/-- **Read the command line**, the environment filling the gaps, or the message that refuses
it. -/
def readInvocation (args : List String) (env : String → Option String) :
    Except String Invocation :=
  (readArguments (args.length + 1) args [] {}).map (·.withEnvironment env)

/-- **Where the settings file lives**: `mimp/console.toml` under the user's configuration
directory, `$XDG_CONFIG_HOME` or else `~/.config`. -/
def settingsPath (env : String → Option String) : String :=
  let configHome := match (env "XDG_CONFIG_HOME").filter (·.startsWith "/") with
    | some dir => dir
    | none => match env "HOME" with
      | some home => home ++ "/.config"
      | none => "."
  configHome ++ "/mimp/console.toml"

/-- **Where the log goes by default**: `mimp/console.log` under the user's cache directory,
`$XDG_CACHE_HOME` or else `~/.cache`. -/
def defaultLogPath (env : String → Option String) : String :=
  let cacheHome := match (env "XDG_CACHE_HOME").filter (·.startsWith "/") with
    | some dir => dir
    | none => match env "HOME" with
      | some home => home ++ "/.cache"
      | none => "/tmp"
  cacheHome ++ "/mimp/console.log"

/-- The environment variables the console reads. -/
def environmentNames : List String :=
  ["MIMP_URL", "MIMP_ENDPOINT", "MIMP_TRANSPORT", "MIMP_LOG_FILE", "XDG_CONFIG_HOME",
    "XDG_CACHE_HOME", "HOME"]

/-- The directory part of a path, if it has one. -/
def parentDirectory (path : String) : Option String :=
  match (path.splitOn "/").dropLast with
  | [] => none
  | [""] => some "/"
  | parts => some ("/".intercalate parts)

end StompConsole.Console
