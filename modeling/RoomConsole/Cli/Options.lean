import RoomConsole.Cli.Parse

/-!
# What a command line asks for

A command line read against the command tree becomes an `Invocation`: the
command to run with its arguments, typed, and the global options every
command takes.
-/

namespace RoomConsole.Cli

/-- How results are printed. -/
inductive OutputFormat where
  | table
  | json
  | jsonCompact
  | yaml
  | plain
  deriving DecidableEq, Repr

/-- When output is coloured. -/
inductive ColorMode where
  | auto
  | always
  | never
  deriving DecidableEq, Repr

/-- A shell that completion scripts are made for. -/
inductive Shell where
  | bash
  | elvish
  | fish
  | powershell
  | zsh
  deriving DecidableEq, Repr

/-- The options every command takes. -/
structure Globals where
  profile : Option String := none
  url : Option String := none
  username : Option String := none
  output : OutputFormat := .table
  color : ColorMode := .auto
  verbose : Nat := 0
  quiet : Bool := false
  yes : Bool := false
  insecure : Bool := false
  timeout : Option Nat := none
  deriving Repr

/-- A command about rooms. -/
inductive RoomsCommand where
  | list (labels : List String) (state name : Option String)
  | get (room : String)
  | create (name image : Option String) (maxConnections : Option Nat) (screen : Option String)
      (labels : List String) (fromFile : Option String) (start : Bool)
  | remove (room : String)
  | start (room : String)
  | stop (room : String)
  | pause (room : String)
  | restart (room : String)
  | recreate (room : String) (fromFile : Option String) (start noStart : Bool)
  | settings (room : String)
  | stats (room : String)
  | compose
  deriving Repr

/-- A command about image pulls. -/
inductive PullCommand where
  | start (image : String) (registryUser : Option String) (follow : Bool)
  | status (follow : Bool)
  | stop
  deriving Repr

/-- A command about the configuration. -/
inductive ConfigCommand where
  | init
  | show
  | path
  | profiles
  | use (name : String)
  | setPassword (profile : Option String)
  deriving Repr

/-- The command a command line runs. -/
inductive Invocation where
  | rooms (c : RoomsCommand)
  | pull (c : PullCommand)
  | watch (hydrate table : Bool)
  | config (c : ConfigCommand)
  | completions (shell : Shell)
  deriving Repr

/-- The values given for an argument. -/
def valuesOf (given : List Given) (id : String) : List String :=
  ((given.find? (·.id = id)).map (·.values)).getD []

/-- The one value given for an argument. -/
def valueOf (given : List Given) (id : String) : Option String := (valuesOf given id).head?

/-- A flag's value. -/
def flagOf (given : List Given) (id : String) : Bool := valueOf given id = some "true"

/-- A number's value. -/
def numberOf (given : List Given) (id : String) : Option Nat := (valueOf given id).bind fun v =>
  (if v.startsWith "+" then String.ofList (v.toList.drop 1) else v).toNat?

/-- The global options, from their final values. -/
def Globals.ofGiven (given : List Given) : Globals :=
  { profile := valueOf given "profile", url := valueOf given "url",
    username := valueOf given "username",
    output := match valueOf given "output" with
      | some "json" => .json
      | some "json-compact" => .jsonCompact
      | some "yaml" => .yaml
      | some "plain" => .plain
      | _ => .table,
    color := match valueOf given "color" with
      | some "always" => .always
      | some "never" => .never
      | _ => .auto,
    verbose := (numberOf given "verbose").getD 0,
    quiet := flagOf given "quiet", yes := flagOf given "yes",
    insecure := flagOf given "insecure", timeout := numberOf given "timeout" }

/-- The room a command names. -/
def roomOf (given : List Given) : String := (valueOf given "room").getD ""

/-- A command about rooms, by its name. -/
def RoomsCommand.ofGiven (name : String) (g : List Given) : RoomsCommand :=
  match name with
  | "list" => .list (valuesOf g "label") (valueOf g "state") (valueOf g "name")
  | "get" => .get (roomOf g)
  | "create" => .create (valueOf g "name") (valueOf g "image") (numberOf g "max_connections")
      (valueOf g "screen") (valuesOf g "label") (valueOf g "from_file") (flagOf g "start")
  | "remove" => .remove (roomOf g)
  | "start" => .start (roomOf g)
  | "stop" => .stop (roomOf g)
  | "pause" => .pause (roomOf g)
  | "restart" => .restart (roomOf g)
  | "recreate" => .recreate (roomOf g) (valueOf g "from_file") (flagOf g "start") (flagOf g "no_start")
  | "settings" => .settings (roomOf g)
  | "stats" => .stats (roomOf g)
  | _ => .compose

/-- A command about pulls, by its name. -/
def PullCommand.ofGiven (name : String) (g : List Given) : PullCommand :=
  match name with
  | "start" => .start ((valueOf g "image").getD "") (valueOf g "registry_user") (flagOf g "follow")
  | "status" => .status (flagOf g "follow")
  | _ => .stop

/-- A command about the configuration, by its name. -/
def ConfigCommand.ofGiven (name : String) (g : List Given) : ConfigCommand :=
  match name with
  | "init" => .init
  | "show" => .show
  | "path" => .path
  | "profiles" => .profiles
  | "use" => .use ((valueOf g "name").getD "")
  | _ => .setPassword (valueOf g "profile")

/-- A shell by its name. -/
def Shell.ofName : String → Shell
  | "bash" => .bash
  | "elvish" => .elvish
  | "fish" => .fish
  | "powershell" => .powershell
  | _ => .zsh

/-- The command a reading runs: the subcommand under the top command and
the one under it, with the arguments given to the last. -/
def Invocation.ofReading (r : Reading) : Option Invocation :=
  match r with
  | _ :: (c, g) :: rest =>
    let (leafName, leaf) := match rest with
      | (s, sg) :: _ => (s.name, sg)
      | [] => ("", g)
    match c.name with
    | "rooms" => some (.rooms (RoomsCommand.ofGiven leafName leaf))
    | "pull" => some (.pull (PullCommand.ofGiven leafName leaf))
    | "watch" => some (.watch (flagOf g "hydrate") (flagOf g "table"))
    | "config" => some (.config (ConfigCommand.ofGiven leafName leaf))
    | "completions" => some (.completions (Shell.ofName ((valueOf g "shell").getD "")))
    | _ => none
  | _ => none

end RoomConsole.Cli
