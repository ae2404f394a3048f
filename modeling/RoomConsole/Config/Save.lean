import RoomConsole.Config.Basic
import RoomConsole.Toml.Write

/-!
# Saving a configuration

A configuration is saved as a TOML document: the default profile's name,
the `[defaults]` table with all its fields, and one `[profiles.<name>]`
table per profile holding the URL and every setting the profile gives, in
a fixed order. A number past the range of TOML integers cannot be written.
-/

namespace RoomConsole.Config

/-- The optional settings of a profile that are given, in order. -/
def Profile.entries (p : Profile) : List (String × Toml.Value) :=
  let opt {α : Type} (k : String) (f : α → Toml.Value) (o : Option α) : List (String × Toml.Value) :=
    match o with
    | some a => [(k, f a)]
    | none => []
  [("url", .string p.url)]
    ++ opt "username" .string p.username
    ++ opt "password" .string p.password
    ++ opt "password_env" .string p.passwordEnv
    ++ opt "ca_cert" .string p.caCert
    ++ opt "insecure" .boolean p.insecure
    ++ opt "timeout" (fun n => .integer n) p.timeout
    ++ opt "events" .boolean p.events
    ++ opt "hydrate_created" .boolean p.hydrateCreated

/-- A configuration as a TOML table. -/
def toToml (cfg : Config) : List (String × Toml.Value) :=
  (match cfg.defaultProfile with
    | some name => [("default_profile", .string name)]
    | none => [])
  ++ [ ("defaults", .table
        [ ("output", .string cfg.defaults.output), ("color", .string cfg.defaults.color),
          ("insecure", .boolean cfg.defaults.insecure), ("timeout", .integer cfg.defaults.timeout) ]),
      ("profiles", .table (cfg.profiles.map fun (name, p) => (name, .table p.entries))) ]

/-- Every number of a configuration is a TOML integer. -/
def numbersFit (cfg : Config) : Bool :=
  let fits (n : Nat) : Bool := (n : Int) ≤ Toml.maxInteger
  fits cfg.defaults.timeout && cfg.profiles.all fun (_, p) => (p.timeout.map fits).getD true

/-- The text a configuration is saved as. -/
def render (cfg : Config) : Except ConfigError String :=
  if cfg.numbersFit then .ok (Toml.Document.render cfg.toToml)
  else .error (.serialization "out-of-range value for u64 type")

end RoomConsole.Config
