/-!
# The configuration file

A configuration names **profiles**, one per room server, and the
**defaults** that a profile falls back on: output format, colour, whether
to accept any certificate, and the request timeout in seconds. One profile
is the default one.

A profile has the server's URL and may set a user name, a password, the
name of an environment variable that holds the password, a CA file, its
own certificate and timeout settings, and whether to follow the server's
events and fetch the rooms they announce.
-/

namespace RoomConsole.Config

/-- What a profile falls back on. -/
structure Defaults where
  output : String := "table"
  color : String := "auto"
  insecure : Bool := false
  /-- Seconds a request may take. -/
  timeout : Nat := 30
  deriving DecidableEq, Repr, Inhabited

/-- One room server and how to reach it. -/
structure Profile where
  url : String := ""
  username : Option String := none
  /-- A password written in the file. -/
  password : Option String := none
  /-- The environment variable that holds the password. -/
  passwordEnv : Option String := none
  /-- A CA file to trust, by path. -/
  caCert : Option String := none
  insecure : Option Bool := none
  timeout : Option Nat := none
  /-- Follow the server's events. -/
  events : Option Bool := none
  /-- Fetch the rooms that events announce. -/
  hydrateCreated : Option Bool := none
  deriving DecidableEq, Repr, Inhabited

end RoomConsole.Config

namespace RoomConsole

open RoomConsole.Config in
/-- A whole configuration; profiles are kept sorted by name. -/
structure Config where
  defaultProfile : Option String := some "default"
  defaults : Defaults := {}
  profiles : List (String × Profile) := []
  deriving DecidableEq, Repr, Inhabited

end RoomConsole

namespace RoomConsole.Config

/-- The profile to use: the one asked for, else the default one, else the
profile called `default`. -/
def profileName (cfg : Config) (requested : Option String) : String :=
  (requested.or cfg.defaultProfile).getD "default"

/-- Why a configuration could not be loaded, saved or used. -/
inductive ConfigError where
  | validation (field reason : String)
  | noCredentials (profile : String)
  | unknownProfile (name : String)
  | serialization (message : String)
  /-- The layers did not give a configuration; the text says why. -/
  | loading (message : String)
  | io (message : String)
  deriving DecidableEq, Repr

/-- The text of a configuration error. -/
def ConfigError.message : ConfigError → String
  | .validation field reason => "invalid " ++ field ++ ": " ++ reason
  | .noCredentials profile => "no password configured for profile '" ++ profile ++ "'"
  | .unknownProfile name => "profile '" ++ name ++ "' not found in config"
  | .serialization message => "failed to serialize config: " ++ message
  | .loading message => "config loading failed: " ++ message
  | .io message => "IO error: " ++ message

/-- The profile of a name. -/
def profile (cfg : Config) (name : String) : Except ConfigError Profile :=
  match cfg.profiles.find? (·.1 == name) with
  | some (_, p) => .ok p
  | none => .error (.unknownProfile name)

/-- Insert or replace a profile, keeping profiles sorted by name. -/
def putProfile (cfg : Config) (name : String) (p : Profile) : Config :=
  let others := cfg.profiles.filter (·.1 != name)
  let before := others.filter fun e => e.1 < name
  let after := others.filter fun e => !(e.1 < name)
  { cfg with profiles := before ++ [(name, p)] ++ after }

end RoomConsole.Config
