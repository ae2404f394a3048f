import RoomConsole.Config.Basic
import RoomConsole.Layered.Extract
import RoomConsole.Toml.Read

/-!
# Loading a configuration

A configuration is read from three layers stacked in order: the built-in
defaults, the TOML file when there is one, and the environment variables
that start with `ROOMCTL_`. A text that is not TOML, or a setting of the
wrong kind, stops loading with a fault naming the key and the layer.
-/

namespace RoomConsole.Config

open RoomConsole.Layered

/-- The prefix of the environment variables that configure the program. -/
def envPrefix : String := "ROOMCTL_"

/-- The built-in defaults as a layer. -/
def defaultsLayer : Layered.Value :=
  let d : Defaults := {}
  let src := Source.builtin
  .dict src
    [ ("default_profile", .str src "default"),
      ("defaults", .dict src
        [ ("output", .str src d.output), ("color", .str src d.color),
          ("insecure", .bool src d.insecure), ("timeout", .unsigned src d.timeout) ]),
      ("profiles", .dict src []) ]

/-- The defaults section: every field falls back on its default. -/
def Defaults.extract : Extract Defaults :=
  Extract.record "Defaults" {}
    [ Field.of "output" Extract.string fun v d => { d with output := v },
      Field.of "color" Extract.string fun v d => { d with color := v },
      Field.of "insecure" Extract.bool fun v d => { d with insecure := v },
      Field.of "timeout" Extract.u64 fun v d => { d with timeout := v } ]

/-- A profile: the URL is required. -/
def Profile.extract : Extract Profile :=
  Extract.record "Profile" {}
    [ Field.of "url" Extract.string (fun v p => { p with url := v }) true,
      Field.of "username" (Extract.option Extract.string) fun v p => { p with username := v },
      Field.of "password" (Extract.option Extract.string) fun v p => { p with password := v },
      Field.of "password_env" (Extract.option Extract.string) fun v p => { p with passwordEnv := v },
      Field.of "ca_cert" (Extract.option Extract.filePath) fun v p => { p with caCert := v },
      Field.of "insecure" (Extract.option Extract.bool) fun v p => { p with insecure := v },
      Field.of "timeout" (Extract.option Extract.u64) fun v p => { p with timeout := v },
      Field.of "events" (Extract.option Extract.bool) fun v p => { p with events := v },
      Field.of "hydrate_created" (Extract.option Extract.bool) fun v p => { p with hydrateCreated := v } ]

/-- A whole configuration. -/
def extract : Extract Config :=
  Extract.record "Config" { defaultProfile := none }
    [ Field.of "default_profile" (Extract.option Extract.string) fun v c => { c with defaultProfile := v },
      Field.of "defaults" Defaults.extract fun v c => { c with defaults := v },
      Field.of "profiles" (Extract.map Profile.extract) fun v c => { c with profiles := v } ]

/-- A configuration file: its path and its text. -/
structure File where
  path : String
  text : String

/-- The layer of a configuration file. -/
def File.layer (f : File) : Except Fault Layered.Value :=
  match Toml.Document.read f.text with
  | .ok doc => .ok (.dict (.file f.path) (Layered.Value.ofTomlEntries (.file f.path) doc))
  | .error slip => .error { problem := .unreadable (slip.render f.text), source := .file f.path }

/-- Load a configuration from the defaults, the file when there is one, and
the environment. -/
def load (file : Option File) (env : List (String × String)) : Except ConfigError Config :=
  let stacked : Except Fault Layered.Value := do
    let fileLayer ← match file with
      | some f => f.layer
      | none => pure (.dict .builtin [])
    pure ((defaultsLayer.merge fileLayer).merge (Layered.Value.ofEnv envPrefix env))
  match stacked.bind (Config.extract []) with
  | .ok cfg => .ok cfg
  | .error fault => .error (.loading fault.text)

end RoomConsole.Config
