import RoomConsole.Config.Basic
import RoomConsole.Console

/-!
# From a profile to a console

A profile becomes the settings of a console: its URL parsed, its
credentials resolved, its certificate trust, timeout and event settings
taken from the profile or else from the defaults.

A profile without a user name has no credentials. With one, the password
is the first of: the environment variable the profile names, the variable
`ROOMCTL_PASSWORD`, the system keyring, the password in the file.
-/

namespace RoomConsole.Config

open RoomConsole.Client

/-- Where passwords are looked up outside the file. -/
structure Secrets where
  /-- Environment variables. -/
  env : String → Option String
  /-- The system keyring, by account. -/
  keyring : String → Option String := fun _ => none

/-- The environment variable that holds a password for every profile. -/
def passwordVar : String := "ROOMCTL_PASSWORD"

/-- The keyring account of a profile's password. -/
def keyringAccount (profile : String) : String := profile ++ "/password"

/-- The password of a profile, by the first source that has one. -/
def resolvePassword (sec : Secrets) (p : Profile) (name : String) : Except ConfigError String :=
  match p.passwordEnv.bind sec.env with
  | some pw => .ok pw
  | none =>
    match sec.env passwordVar with
    | some pw => .ok pw
    | none =>
      match sec.keyring (keyringAccount name) with
      | some pw => .ok pw
      | none =>
        match p.password with
        | some pw => .ok pw
        | none => .error (.noCredentials name)

/-- The credentials of a profile: none without a user name. -/
def resolveCredentials (sec : Secrets) (p : Profile) (name : String) :
    Except ConfigError (Option Credentials) :=
  match p.username with
  | none => .ok none
  | some username => (resolvePassword sec p name).map fun password => some { username, password }

/-- A server URL, or why it is not one. -/
def parseUrl (raw : String) : Except ConfigError Url :=
  match Url.parse raw with
  | .ok u => .ok u
  | .error e => .error (.validation "url" ("invalid URL '" ++ raw ++ "': " ++ e.message))

/-- The console settings of a profile. -/
def Profile.toConsoleConfig (sec : Secrets) (p : Profile) (name : String) (d : Defaults) :
    Except ConfigError ConsoleConfig := do
  let url ← parseUrl p.url
  let credentials ← resolveCredentials sec p name
  let tls : TlsMode :=
    if p.insecure.getD d.insecure then .acceptInvalid
    else match p.caCert with
      | some path => .customCa path
      | none => .system
  pure { url, credentials, tls, timeoutSecs := p.timeout.getD d.timeout,
         eventsEnabled := p.events.getD true, hydrateCreated := p.hydrateCreated.getD false }

end RoomConsole.Config
