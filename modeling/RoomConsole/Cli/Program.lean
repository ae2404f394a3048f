import RoomConsole.Cli.Help
import RoomConsole.Cli.Tree
import RoomConsole.Cli.Options
import RoomConsole.Cli.Failure
import RoomConsole.Cli.Appearance
import RoomConsole.Host.Prompt
import RoomConsole.Config.Load
import RoomConsole.Config.Save
import RoomConsole.Config.Resolve
import RoomConsole.Json.Write
import RoomConsole.Text.Yaml
import RoomConsole.Console
import RoomConsole.Completion.Script

/-!
# The `roomctl` program

One run of the command-line program: read the command line against the
command tree (showing help, the version or an error when reading stops),
then run the command.

* `config` commands work on the configuration file and never reach the
  server: print its path, show it with passwords masked, list the profiles
  with the active one starred, choose the default profile, store a
  password, or set up a profile by asking questions on the terminal.
* `completions` prints a completion script.
* Every other command resolves the console settings (the chosen profile,
  with `--url`, `--username`, `--insecure` and `--timeout` over it; or,
  without a profile, `--url` alone) and connects to the server first.

Passwords are stored in, and looked up from, the keyring of the world the
run sees. The host a run is modeled on has no reachable server: every
connection fails.

A failure is reported on standard error and ends the run with its exit
code.
-/

namespace RoomConsole.Cli

open RoomConsole.Host
open RoomConsole.Config

/-! ## Reporting -/

/-- Report a failure and end the run with its code. -/
def report {α : Type} (f : Failure) : Run α := do
  let w ← get
  emit .stderr (f.diagnostic.render (reportStyle w.var w.tty) ++ "\n")
  exitWith (.exited f.exitCode)

/-- Show what stopped the reading of the command line, and end the run. -/
def showStop {α : Type} (s : Stop) : Run α := do
  let w ← get
  let env := w.var
  let colored := streamColored env w.tty
  let layout (long : Bool) : HelpLayout := { long, width := helpWidth env w.tty, env }
  match s with
  | .fault f =>
    emit .stderr (Styled.render colored f.render)
    exitWith (.exited 2)
  | .help c long =>
    emit .stdout (Styled.render colored ((layout long).screen c))
    exitWith (.exited 0)
  | .version c =>
    emit .stdout c.versionLine
    exitWith (.exited 0)
  | .helpOnEmpty c =>
    emit .stderr (Styled.render colored ((layout false).screen c))
    exitWith (.exited 2)

/-! ## The configuration file -/

/-- The home directory: `HOME`, or the account's home when it is unset or
empty. -/
def homeDir (env : String → Option String) : String :=
  match env "HOME" with
  | some h => if h.isEmpty then "/root" else h
  | none => "/root"

/-- Where the configuration file is: under `XDG_CONFIG_HOME` when that is
an absolute path, else under `.config` in the home directory. -/
def configPathIn (env : String → Option String) : String :=
  let base := match env "XDG_CONFIG_HOME" with
    | some x => if isAbsolute x then x else joinPath (homeDir env) ".config"
    | none => joinPath (homeDir env) ".config"
  joinPath (joinPath base "roomctl") "config.toml"

/-- The configuration: the file (when it is a regular file) and the
environment over the defaults; the defaults alone when that fails. -/
def loadConfig : Run Config := do
  let w ← get
  let path := configPathIn w.var
  let file : Option File := (w.files.read path).map fun text => { path, text }
  pure (match load file w.env with
    | .ok cfg => cfg
    | .error _ => {})

/-- Save the configuration: make its directory, then write the TOML text.
Directories made stay made when writing fails. -/
def saveConfig (cfg : Config) : Run (Except ConfigError String) := do
  let w ← get
  let path := configPathIn w.var
  match w.files.createDirAll ((parentOf path).getD "") with
  | .error e => pure (.error (.io e.message))
  | .ok fs =>
    set { w with files := fs }
    match cfg.render with
    | .error e => pure (.error e)
    | .ok text =>
      match fs.write path text with
      | .error e => pure (.error (.io e.message))
      | .ok fs =>
        set { w with files := fs }
        pure (.ok path)

/-- The names of the profiles, for a message. -/
def availableProfiles (cfg : Config) : String :=
  if cfg.profiles.isEmpty then "(none)" else ", ".intercalate (cfg.profiles.map (·.1))

/-- The configuration with every password masked. -/
def redacted (cfg : Config) : Config :=
  { cfg with profiles := cfg.profiles.map fun (n, p) =>
      (n, { p with password := p.password.map fun _ => "****" }) }

/-- The configuration as the `table` output shows it. -/
def configText (cfg : Config) : String :=
  let opt {α : Type} (f : α → String) : Option α → List String
    | some a => [f a]
    | none => []
  let head := (opt (fun d => "default_profile = \"" ++ d ++ "\"") cfg.defaultProfile)
    ++ ["", "[defaults]", "output = \"" ++ cfg.defaults.output ++ "\"",
        "color = \"" ++ cfg.defaults.color ++ "\"",
        "insecure = " ++ toString cfg.defaults.insecure,
        "timeout = " ++ toString cfg.defaults.timeout]
  let profile (n : String) (p : Profile) : List String :=
    ["", "[profiles." ++ n ++ "]", "url = \"" ++ p.url ++ "\""]
      ++ opt (fun u => "username = \"" ++ u ++ "\"") p.username
      ++ opt (fun _ => "password = \"****\"") p.password
      ++ opt (fun e => "password_env = \"" ++ e ++ "\"") p.passwordEnv
      ++ opt (fun c => "ca_cert = \"" ++ c ++ "\"") p.caCert
      ++ opt (fun b => "insecure = " ++ toString b) p.insecure
      ++ opt (fun t => "timeout = " ++ toString t) p.timeout
      ++ opt (fun b => "events = " ++ toString b) p.events
      ++ opt (fun b => "hydrate_created = " ++ toString b) p.hydrateCreated
  let lines := head ++ cfg.profiles.flatMap fun (n, p) => profile n p
  Text.trimEnd (String.join (lines.map (· ++ "\n")))

/-- A profile as JSON, every field present. -/
def profileJson (p : Profile) : Json :=
  .obj [("url", .str p.url), ("username", Json.opt .str p.username),
    ("password", Json.opt .str p.password), ("password_env", Json.opt .str p.passwordEnv),
    ("ca_cert", Json.opt .str p.caCert), ("insecure", Json.opt .bool p.insecure),
    ("timeout", Json.opt Json.nat p.timeout), ("events", Json.opt .bool p.events),
    ("hydrate_created", Json.opt .bool p.hydrateCreated)]

/-- The configuration as JSON. -/
def configJson (cfg : Config) : Json :=
  .obj [("default_profile", Json.opt .str cfg.defaultProfile),
    ("defaults", .obj [("output", .str cfg.defaults.output), ("color", .str cfg.defaults.color),
      ("insecure", .bool cfg.defaults.insecure), ("timeout", Json.nat cfg.defaults.timeout)]),
    ("profiles", .obj (cfg.profiles.map fun (n, p) => (n, profileJson p)))]

/-- An optional value as YAML. -/
def yamlOpt {α : Type} (f : α → Text.Yaml.Value) : Option α → Text.Yaml.Value
  | some a => f a
  | none => .null

/-- The configuration as YAML. -/
def configYaml (cfg : Config) : Text.Yaml.Value :=
  .map [("default_profile", yamlOpt .str cfg.defaultProfile),
    ("defaults", .map [("output", .str cfg.defaults.output), ("color", .str cfg.defaults.color),
      ("insecure", .bool cfg.defaults.insecure), ("timeout", .nat cfg.defaults.timeout)]),
    ("profiles", .map (cfg.profiles.map fun (n, p) => (n, .map
      [("url", .str p.url), ("username", yamlOpt .str p.username),
       ("password", yamlOpt .str p.password), ("password_env", yamlOpt .str p.passwordEnv),
       ("ca_cert", yamlOpt .str p.caCert), ("insecure", yamlOpt .bool p.insecure),
       ("timeout", yamlOpt .nat p.timeout), ("events", yamlOpt .bool p.events),
       ("hydrate_created", yamlOpt .bool p.hydrateCreated)])))]

/-- Print a result unless `--quiet` or there is nothing to print. -/
def printOutput (out : String) (quiet : Bool) : Run Unit :=
  if quiet || out.isEmpty then pure () else emit .stdout (out ++ "\n")

/-- Store a profile's password in the system keyring; a refusal is
reported. -/
def storePassword (profile password : String) : Run Unit := do
  match ← storeSecret (keyringAccount profile) password with
  | .error why => report (.validation "keyring" why)
  | .ok () => pure ()

/-- A prompt's failure. -/
def promptFailure (e : String) : Failure := .validation "interactive" ("prompt failed: " ++ e)

/-- The value of a prompt, or its failure reported. -/
def orReport {α : Type} (r : Run (Except String α)) : Run α := do
  match ← r with
  | .ok a => pure a
  | .error e => report (promptFailure e)

/-- The check of a server URL typed at a prompt. -/
def urlCheck (raw : String) : Option String :=
  match parseUrl raw with
  | .ok _ => none
  | .error e => some e.message

/-- The profile `config init` sets up, asked for on the terminal: its name,
the server's URL, the credentials and whether to accept self-signed
certificates. -/
def askProfile : Run (String × Profile) := do
  let name ← orReport (input "Profile name" (some "default") fun _ => none)
  let url ← orReport (input "Room server URL" none urlCheck)
  let useAuth ← orReport (confirm "Does the server require a username and password?" true)
  let (username, password) ← if useAuth then do
      let user ← orReport (input "Username" (some "admin") fun _ => none)
      let pass ← orReport (Host.password "Password: ")
      if pass.isEmpty then report (.validation "password" "password cannot be empty")
      let choice ← orReport (select "Where should the password be stored?"
        ["Store in system keyring (recommended)", "Save to config file (plaintext)"] 0)
      if choice = 0 then
        storePassword name pass
        emit .stderr "   ✓ Password stored in system keyring\n"
        pure (some user, none)
      else pure (some user, some pass)
    else pure (none, none)
  let insecure ← orReport (confirm "Accept self-signed TLS certificates?" false)
  pure (name, { url, username, password, insecure := if insecure then some true else none })

/-- The configuration `config init` writes: the profile put in, and made
the default one when no default is set or it is the only profile. -/
def putInitProfile (cfg : Config) (name : String) (p : Profile) : Config :=
  let cfg := cfg.putProfile name p
  if cfg.defaultProfile.isNone || cfg.profiles.length = 1 then
    { cfg with defaultProfile := some name } else cfg

/-- Set up a profile by asking for it on the terminal. -/
def initConfig : Run Unit := do
  let w ← get
  let path := configPathIn w.var
  let cfg ← loadConfig
  emit .stderr "roomctl setup\n"
  emit .stderr ("Config file: " ++ path ++ "\n\n")
  let (name, profile) ← askProfile
  match ← saveConfig (putInitProfile cfg name profile) with
  | .error e => report (Failure.ofConfig e)
  | .ok written =>
    emit .stderr ("\n✓ Configuration written to " ++ written ++ "\n")
    emit .stderr ("  Profile: " ++ name ++ "\n")
    emit .stderr "\n  Test it: roomctl rooms list\n"

/-- Run a `config` command. -/
def runConfig (g : Globals) : ConfigCommand → Run Unit
  | .init => initConfig
  | .show => do
    let cfg := redacted (← loadConfig)
    let out := match g.output with
      | .json => Json.pretty (configJson cfg)
      | .jsonCompact => Json.compact (configJson cfg)
      | .yaml => Text.Yaml.render (configYaml cfg)
      | .plain => "config"
      | .table => configText cfg
    printOutput out g.quiet
  | .path => do emit .stdout (configPathIn (← get).var ++ "\n")
  | .profiles => do
    let cfg ← loadConfig
    let active := cfg.profileName g.profile
    if cfg.profiles.isEmpty then emit .stderr "No profiles configured. Run: roomctl config init\n"
    else cfg.profiles.forM fun (n, p) =>
      emit .stdout (n ++ (if n = active then " *" else "") ++ "\t" ++ p.url ++ "\n")
  | .use name => do
    let cfg ← loadConfig
    if !cfg.profiles.any (·.1 = name) then report (.profileNotFound name (availableProfiles cfg))
    match ← saveConfig { cfg with defaultProfile := some name } with
    | .error e => report (Failure.ofConfig e)
    | .ok _ => emit .stderr ("✓ Default profile set to '" ++ name ++ "'\n")
  | .setPassword profile => do
    let cfg ← loadConfig
    let name := profile.getD (cfg.profileName g.profile)
    if !cfg.profiles.any (·.1 = name) then report (.profileNotFound name (availableProfiles cfg))
    let secret ← orReport (Host.password "Password: ")
    if secret.isEmpty then report (.validation "password" "value cannot be empty")
    storePassword name secret
    emit .stderr ("✓ Password stored in system keyring for profile '" ++ name ++ "'\n")

/-! ## Commands that reach the server -/

/-- A profile with the command line's overrides, as console settings. -/
def resolveProfile (sec : Secrets) (p : Profile) (name : String) (d : Defaults) (g : Globals) :
    Except Failure ConsoleConfig :=
  let p := { p with url := g.url.getD p.url,
                    username := if g.username.isSome then g.username else p.username }
  match p.toConsoleConfig sec name d with
  | .error e => .error (Failure.ofConfig e)
  | .ok cc =>
    let cc := if g.insecure then { cc with tls := .acceptInvalid } else cc
    .ok (match g.timeout with
      | some t => { cc with timeoutSecs := t }
      | none => cc)

/-- The console settings of a configuration: the chosen profile, or `--url`
alone when no profile was asked for and none is configured. `path` is where
the configuration file is looked for. -/
def settingsFor (sec : Secrets) (cfg : Config) (g : Globals) (path : String) :
    Except Failure ConsoleConfig :=
  let name := cfg.profileName g.profile
  match cfg.profiles.find? (·.1 = name) with
  | some (_, p) => resolveProfile sec p name cfg.defaults g
  | none =>
    if g.profile.isSome then .error (.profileNotFound name (availableProfiles cfg))
    else match g.url with
      | none => .error (.noConfig path)
      | some url => resolveProfile sec { url } name cfg.defaults g

/-- The console settings of a run, from the loaded configuration. -/
def consoleSettings (g : Globals) : Run (Except Failure ConsoleConfig) := do
  let w ← get
  let cfg ← loadConfig
  pure (settingsFor { env := w.var, keyring := w.keyring.lookup } cfg g (configPathIn w.var))

/-- Only `watch` follows the event stream, fetching the rooms it announces
when asked to; every other command works from the first load. -/
def Invocation.withEvents (inv : Invocation) (cc : ConsoleConfig) : ConsoleConfig :=
  match inv with
  | .watch hydrate _ => { cc with eventsEnabled := true, hydrateCreated := cc.hydrateCreated || hydrate }
  | _ => { cc with eventsEnabled := false }

/-- Files as the console reads them. -/
def fileReader (fs : Files) : Client.FileReader := fun path =>
  match fs.read path with
  | some t => .ok t.toUTF8.toList
  | none => .error (if fs.isDir path then IoFault.isDirectory.message else IoFault.notFound.message)

/-- Run a command that needs the server: resolve the settings, make the
console (events only for `watch`) and connect. On this host every
connection fails, and the run ends with the failure. -/
def runServer (g : Globals) (inv : Invocation) : Run Unit := do
  match ← consoleSettings g with
  | .error f => report f
  | .ok cc =>
    let cc := inv.withEvents cc
    let w ← get
    match Console.create cc (fileReader w.files) with
    | .error e => report (Failure.ofConsole e)
    | .ok k =>
      match (Console.connect Http.Network.offline k).1 with
      | .error e => report (Failure.ofConsole e)
      | .ok () => pure ()

/-! ## A run -/

/-- The program: read the command line and run its command. -/
def program : Run Unit := do
  let w ← get
  match read root w.var w.args with
  | .error s => showStop s
  | .ok r =>
    let g := Globals.ofGiven (globalValues r)
    match Invocation.ofReading r with
    | none => pure ()
    | some (.config c) => runConfig g c
    | some (.completions sh) => emit .stdout (Completion.script sh)
    | some inv => runServer g inv

/-- Run the program on a world: how the run ended, and the world after it,
with the answers left to the user given. -/
def execute (w : World) : Ending × World :=
  let (r, w) := (program.run).run w
  let ending := match r with
    | .ok () => .exited 0
    | .error e => e
  (ending, w.settle)

end RoomConsole.Cli
