import RoomConsole.Cli.Spec

/-!
# The commands of `roomctl`

The tree of commands the console's command line accepts, as declared:
global options on the top command, then `rooms`, `pull`, `watch`, `config`
and `completions` with their own subcommands and arguments. `Cli.root`
completes it for reading command lines; `Cli.declared` is the tree as
written, from which the manual pages are made.
-/

namespace RoomConsole.Cli

/-- The version of the program. -/
def programVersion : String := "0.1.0"

/-- The output formats. -/
def outputChoices : List Choice :=
  [{ name := "table", help := some "Pretty table (default, interactive)" },
   { name := "json", help := some "Pretty-printed JSON" },
   { name := "json-compact", help := some "Compact single-line JSON" },
   { name := "yaml", help := some "YAML" },
   { name := "plain", help := some "Plain text, one value per line (scripting)" }]

/-- When to colour output. -/
def colorChoices : List Choice :=
  [{ name := "auto", help := some "Auto-detect (color if terminal is interactive)" },
   { name := "always", help := some "Always emit color codes" },
   { name := "never", help := some "Never emit color codes" }]

/-- The shells completion scripts can be made for. -/
def shellChoices : List Choice :=
  [{ name := "bash" }, { name := "elvish" }, { name := "fish" }, { name := "powershell" },
   { name := "zsh" }]

/-- The options every command takes. -/
def globalArgs : List Arg :=
  [{ id := "profile", short := some 'p', long := some "profile", env := some "ROOMCTL_PROFILE",
     isGlobal := true, help := some "Server profile to use" },
   { id := "url", short := some 'u', long := some "url", env := some "ROOMCTL_URL",
     isGlobal := true, help := some "Room server URL (overrides profile)" },
   { id := "username", long := some "username", env := some "ROOMCTL_USERNAME",
     isGlobal := true, help := some "Username for HTTP basic auth (overrides profile)" },
   { id := "output", short := some 'o', long := some "output", env := some "ROOMCTL_OUTPUT",
     defaultValue := some "table", kind := .choice outputChoices, isGlobal := true,
     help := some "Output format" },
   { id := "color", long := some "color", defaultValue := some "auto",
     kind := .choice colorChoices, isGlobal := true, help := some "When to use color output" },
   { id := "verbose", short := some 'v', long := some "verbose", action := .count,
     isGlobal := true, help := some "Increase verbosity (-v, -vv, -vvv)" },
   { id := "quiet", short := some 'q', long := some "quiet", action := .flag, kind := .truth,
     isGlobal := true, help := some "Suppress non-error output" },
   { id := "yes", short := some 'y', long := some "yes", action := .flag, kind := .truth,
     isGlobal := true, help := some "Skip confirmation prompts" },
   { id := "insecure", short := some 'k', long := some "insecure", env := some "ROOMCTL_INSECURE",
     action := .flag, kind := .truth, isGlobal := true,
     help := some "Accept self-signed TLS certificates" },
   { id := "timeout", long := some "timeout", env := some "ROOMCTL_TIMEOUT", kind := .natural,
     isGlobal := true, help := some "Request timeout in seconds (overrides profile)" }]

/-- The positional room argument. -/
def roomArg : Arg := { id := "room", required := true, help := some "Room ID or name" }

/-- A command about one room. -/
def roomCommand (name about : String) (aliases : List String := []) : Command :=
  Command.numbered { name, about := some about, aliases, args := [roomArg] }

/-- A boolean option. -/
def flagArg (id long : String) (help : String) (short : Option Char := none)
    (conflicts : List String := []) : Arg :=
  { id, long := some long, short, action := .flag, kind := .truth, help := some help, conflicts }

/-- The `rooms` command. -/
def roomsCommand : Command :=
  Command.numbered
    { name := "rooms", about := some "Manage rooms", aliases := ["r"],
      subcommandRequired := true, helpWhenEmpty := true,
      subcommands :=
        [Command.numbered
          { name := "list", about := some "List rooms", aliases := ["ls"],
            args :=
              [{ id := "label", short := some 'l', long := some "label", valueName := some "KEY=VALUE",
                 action := .append, help := some "Server-side label filter (repeatable)" },
               { id := "state", long := some "state",
                 kind := .choice [{ name := "running" }, { name := "paused" }, { name := "stopped" }],
                 help := some "Only rooms in this state" },
               { id := "name", long := some "name",
                 help := some "Only rooms whose name contains this text" }] },
         roomCommand "get" "Show a room",
         Command.numbered
          { name := "create", about := some "Create a room",
            args :=
              [{ id := "name", long := some "name", requiredUnless := ["from_file"],
                 help := some "Room name" },
               { id := "image", long := some "image", requiredUnless := ["from_file"],
                 help := some "Room image (e.g., m1k1o/neko:firefox)" },
               { id := "max_connections", long := some "max-connections", kind := .bounded 0 65535,
                 help := some "Maximum concurrent connections" },
               { id := "screen", long := some "screen",
                 help := some "Screen size and rate (e.g., 1920x1080@30)" },
               { id := "label", short := some 'l', long := some "label", valueName := some "KEY=VALUE",
                 action := .append, help := some "Room label (repeatable)" },
               { id := "from_file", short := some 'F', long := some "from-file", valueName := some "PATH",
                 kind := .path, help := some "Full room settings as JSON (overrides the flags above)" },
               flagArg "start" "start" "Start the room after creating it"] },
         roomCommand "remove" "Remove a room" ["rm"],
         roomCommand "start" "Start a room",
         roomCommand "stop" "Stop a room",
         roomCommand "pause" "Pause a room",
         roomCommand "restart" "Restart a room",
         Command.numbered
          { name := "recreate", about := some "Recreate a room's container, optionally with new settings",
            args :=
              [roomArg,
               { id := "from_file", short := some 'F', long := some "from-file", valueName := some "PATH",
                 kind := .path, help := some "Replacement settings as JSON" },
               flagArg "start" "start" "Start the recreated room" none ["no_start"],
               flagArg "no_start" "no-start" "Leave the recreated room stopped"] },
         roomCommand "settings" "Show a room's settings",
         roomCommand "stats" "Show a room's live session statistics",
         { name := "compose", about := some "Export all rooms as a docker-compose file" }] }

/-- The `--follow` flag of the pull commands. -/
def followArg : Arg :=
  flagArg "follow" "follow" "Follow progress until the pull finishes" (some 'f')

/-- The `pull` command. -/
def pullCommand : Command :=
  Command.numbered
    { name := "pull", about := some "Pull room images onto the server",
      subcommandRequired := true, helpWhenEmpty := true,
      subcommands :=
        [Command.numbered
          { name := "start", about := some "Start pulling an image",
            args :=
              [{ id := "image", required := true, help := some "Image reference" },
               { id := "registry_user", long := some "registry-user",
                 help := some "Registry username (password is prompted)" },
               followArg] },
         Command.numbered
          { name := "status", about := some "Show the current pull status", args := [followArg] },
         { name := "stop", about := some "Abort the running pull" }] }

/-- The `watch` command. -/
def watchCommand : Command :=
  Command.numbered
    { name := "watch", about := some "Follow live room changes from the server event stream",
      args :=
        [flagArg "hydrate" "hydrate" "Fetch full details for rooms created while watching",
         flagArg "table" "table"
           "Print the room table after every change instead of one line per event"] }

/-- The `config` command. -/
def configCommand : Command :=
  Command.numbered
    { name := "config", about := some "Manage CLI configuration and profiles",
      subcommandRequired := true, helpWhenEmpty := true,
      subcommands :=
        [{ name := "init", about := some "Create initial config file with guided setup" },
         { name := "show", about := some "Display current resolved configuration" },
         { name := "path", about := some "Print the config file path" },
         { name := "profiles", about := some "List configured profiles" },
         Command.numbered
          { name := "use", about := some "Set the default profile",
            args := [{ id := "name", required := true, help := some "Profile name to set as default" }] },
         Command.numbered
          { name := "set-password", about := some "Store a password in the system keyring",
            args := [{ id := "profile", long := some "profile",
                       help := some "Profile name (defaults to active profile)" }] }] }

/-- The `completions` command. -/
def completionsCommand : Command :=
  Command.numbered
    { name := "completions", about := some "Generate shell completions",
      args := [{ id := "shell", required := true, kind := .choice shellChoices,
                 help := some "Shell to generate completions for" }] }

/-- The command tree as declared. -/
def declared : Command :=
  Command.numbered
    { name := "roomctl", about := some "Manage virtual browser rooms from the command line",
      longAbout := some ("A console for room servers.\n\n" ++
        "Creates, starts, stops and recreates rooms, pulls room images,\n" ++
        "and follows the server's live event stream."),
      version := some programVersion, propagateVersion := true,
      subcommandRequired := true, helpWhenEmpty := true,
      args := globalArgs,
      subcommands := [roomsCommand, pullCommand, watchCommand, configCommand, completionsCommand] }

/-- The command tree as command lines are read against it. -/
def root : Command := Command.build false [] none "roomctl" "roomctl" declared

end RoomConsole.Cli
