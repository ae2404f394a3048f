import RoomConsole.Json.Instant

/-!
# Room settings and statistics

The full configuration of a room (`Settings`): its name and image, the
screen and the codecs of its streams, passwords, environment, labels,
mounts, resource limits and browser policy. The server may omit any field;
a missing field takes its default. When written, zero bitrates and an API
version of zero, empty codec, pipeline and host names, an empty DNS list
and an absent browser policy are left out.

`Stats` are a room's live statistics: connections, members, bans, locks and
the times of notable events.
-/

namespace RoomConsole.Room

open RoomConsole.Json RoomConsole.Time

/-- How a host path is mounted into a room. -/
inductive MountKind where
  | «private»
  | template
  | «protected»
  | «public»
  deriving DecidableEq, Repr, Inhabited

/-- The names of the mount kinds. -/
def MountKind.table : List (String × MountKind) :=
  [("private", .private), ("template", .template), ("protected", .protected), ("public", .public)]

/-- The name of a mount kind. -/
def MountKind.name (k : MountKind) : String :=
  ((MountKind.table.find? (·.2 == k)).map (·.1)).getD "private"

/-- A host path mounted into the room. -/
structure Mount where
  kind : MountKind := .private
  hostPath : String := ""
  containerPath : String := ""
  deriving DecidableEq, Repr, Inhabited

/-- Resource limits of a room's container. -/
structure Resources where
  cpuShares : Int := 0
  nanoCpus : Int := 0
  shmSize : Int := 0
  memory : Int := 0
  gpus : List String := []
  devices : List String := []
  deriving DecidableEq, Repr, Inhabited

/-- The browser a policy is for. -/
inductive BrowserKind where
  | firefox
  | chromium
  deriving DecidableEq, Repr, Inhabited

/-- The names of the browser kinds. -/
def BrowserKind.table : List (String × BrowserKind) := [("firefox", .firefox), ("chromium", .chromium)]

/-- The name of a browser kind. -/
def BrowserKind.name : BrowserKind → String
  | .firefox => "firefox"
  | .chromium => "chromium"

/-- A browser extension to install. -/
structure Extension where
  id : String := ""
  url : String := ""
  deriving DecidableEq, Repr, Inhabited

/-- What a browser policy sets. -/
structure PolicyContent where
  extensions : List Extension := []
  developerTools : Bool := false
  persistentData : Bool := false
  deriving DecidableEq, Repr, Inhabited

/-- A browser policy file of a room. -/
structure BrowserPolicy where
  kind : BrowserKind := .firefox
  path : String := ""
  content : PolicyContent := {}
  deriving DecidableEq, Repr, Inhabited

/-- The full configuration of a room. -/
structure Settings where
  apiVersion : Nat := 0
  name : String := ""
  image : String := ""
  maxConnections : Nat := 0
  controlProtection : Bool := false
  implicitControl : Bool := false
  userPass : String := ""
  adminPass : String := ""
  screen : String := ""
  videoCodec : String := ""
  videoBitrate : Nat := 0
  videoPipeline : String := ""
  videoMaxFps : Nat := 0
  audioCodec : String := ""
  audioBitrate : Nat := 0
  audioPipeline : String := ""
  broadcastPipeline : String := ""
  envs : List (String × String) := []
  labels : List (String × String) := []
  mounts : List Mount := []
  resources : Resources := {}
  hostname : String := ""
  dns : List String := []
  browserPolicy : Option BrowserPolicy := none
  deriving DecidableEq, Repr, Inhabited

/-- A member of a room's session. -/
structure Member where
  id : String := ""
  displayName : String := ""
  admin : Bool := false
  muted : Bool := false
  deriving DecidableEq, Repr, Inhabited

/-- Live statistics of a room. -/
structure Stats where
  connections : Nat := 0
  host : String := ""
  members : List Member := []
  /-- Banned addresses and the sessions that banned them. -/
  banned : List (String × String) := []
  /-- Locked resources and the sessions that locked them. -/
  locked : List (String × String) := []
  serverStartedAt : Option Instant := none
  lastAdminLeftAt : Option Instant := none
  lastUserLeftAt : Option Instant := none
  controlProtection : Bool := false
  implicitControl : Bool := false
  deriving DecidableEq, Repr, Inhabited

/-! ## Writing -/

/-- A string map as a JSON object. -/
def stringMapJson (m : List (String × String)) : Json := .obj (m.map fun (k, v) => (k, .str v))

/-- A list of strings as a JSON array. -/
def stringsJson (xs : List String) : Json := .arr (xs.map .str)

/-- A member written unless `keep` says no. -/
def member? (keep : Bool) (k : String) (v : Json) : List (String × Json) := if keep then [(k, v)] else []

/-- A mount. -/
def Mount.toJson (m : Mount) : Json :=
  .obj [("type", .str m.kind.name), ("host_path", .str m.hostPath), ("container_path", .str m.containerPath)]

/-- Resource limits. -/
def Resources.toJson (r : Resources) : Json :=
  .obj [("cpu_shares", Json.int r.cpuShares), ("nano_cpus", Json.int r.nanoCpus),
    ("shm_size", Json.int r.shmSize), ("memory", Json.int r.memory), ("gpus", stringsJson r.gpus),
    ("devices", stringsJson r.devices)]

/-- An extension; its address only when set. -/
def Extension.toJson (e : Extension) : Json :=
  .obj ([("id", .str e.id)] ++ member? (!e.url.isEmpty) "url" (.str e.url))

/-- A browser policy. -/
def BrowserPolicy.toJson (b : BrowserPolicy) : Json :=
  .obj [("type", .str b.kind.name), ("path", .str b.path),
    ("content", .obj [("extensions", .arr (b.content.extensions.map Extension.toJson)),
      ("developer_tools", .bool b.content.developerTools),
      ("persistent_data", .bool b.content.persistentData)])]

/-- Room settings; zero, empty and absent optional fields left out. -/
def Settings.toJson (s : Settings) : Json :=
  .obj (member? (s.apiVersion ≠ 0) "api_version" (Json.nat s.apiVersion)
    ++ [("name", .str s.name), ("neko_image", .str s.image), ("max_connections", Json.nat s.maxConnections),
      ("control_protection", .bool s.controlProtection), ("implicit_control", .bool s.implicitControl),
      ("user_pass", .str s.userPass), ("admin_pass", .str s.adminPass), ("screen", .str s.screen)]
    ++ member? (!s.videoCodec.isEmpty) "video_codec" (.str s.videoCodec)
    ++ member? (s.videoBitrate ≠ 0) "video_bitrate" (Json.nat s.videoBitrate)
    ++ member? (!s.videoPipeline.isEmpty) "video_pipeline" (.str s.videoPipeline)
    ++ [("video_max_fps", Json.nat s.videoMaxFps)]
    ++ member? (!s.audioCodec.isEmpty) "audio_codec" (.str s.audioCodec)
    ++ member? (s.audioBitrate ≠ 0) "audio_bitrate" (Json.nat s.audioBitrate)
    ++ member? (!s.audioPipeline.isEmpty) "audio_pipeline" (.str s.audioPipeline)
    ++ member? (!s.broadcastPipeline.isEmpty) "broadcast_pipeline" (.str s.broadcastPipeline)
    ++ [("envs", stringMapJson s.envs), ("labels", stringMapJson s.labels),
      ("mounts", .arr (s.mounts.map Mount.toJson)), ("resources", s.resources.toJson)]
    ++ member? (!s.hostname.isEmpty) "hostname" (.str s.hostname)
    ++ member? (!s.dns.isEmpty) "dns" (stringsJson s.dns)
    ++ (match s.browserPolicy with
        | some b => [("browser_policy", b.toJson)]
        | none => []))

/-- A member. -/
def Member.toJson (m : Member) : Json :=
  .obj [("id", .str m.id), ("displayname", .str m.displayName), ("admin", .bool m.admin), ("muted", .bool m.muted)]

/-- Room statistics. -/
def Stats.toJson (s : Stats) : Json :=
  .obj [("connections", Json.nat s.connections), ("host", .str s.host),
    ("members", .arr (s.members.map Member.toJson)), ("banned", stringMapJson s.banned),
    ("locked", stringMapJson s.locked), ("server_started_at", Json.ofInstant? s.serverStartedAt),
    ("last_admin_left_at", Json.ofInstant? s.lastAdminLeftAt),
    ("last_user_left_at", Json.ofInstant? s.lastUserLeftAt),
    ("control_protection", .bool s.controlProtection), ("implicit_control", .bool s.implicitControl)]

/-! ## Reading: every field may be missing -/

/-- A field that keeps its default when missing. -/
def lenient {σ β : Type} (name : String) (d : Decoder β) (set : β → σ → σ) : Decoder.Field σ :=
  Decoder.field name .defaulted d set

/-- A map of strings. -/
def stringMap : Decoder (List (String × String)) := Decoder.map Decoder.string

/-- A list of strings. -/
def strings : Decoder (List String) := Decoder.list Decoder.string

/-- A mount. -/
def Mount.decoder : Decoder Mount :=
  Decoder.record "RoomMount" {}
    [ lenient "type" (Decoder.variants "MountType" MountKind.table) fun v m => { m with kind := v },
      lenient "host_path" Decoder.string fun v m => { m with hostPath := v },
      lenient "container_path" Decoder.string fun v m => { m with containerPath := v } ]

/-- Resource limits. -/
def Resources.decoder : Decoder Resources :=
  Decoder.record "RoomResources" {}
    [ lenient "cpu_shares" Decoder.i64 fun v r => { r with cpuShares := v },
      lenient "nano_cpus" Decoder.i64 fun v r => { r with nanoCpus := v },
      lenient "shm_size" Decoder.i64 fun v r => { r with shmSize := v },
      lenient "memory" Decoder.i64 fun v r => { r with memory := v },
      lenient "gpus" strings fun v r => { r with gpus := v },
      lenient "devices" strings fun v r => { r with devices := v } ]

/-- An extension. -/
def Extension.decoder : Decoder Extension :=
  Decoder.record "BrowserPolicyExtension" {}
    [ lenient "id" Decoder.string fun v e => { e with id := v },
      lenient "url" Decoder.string fun v e => { e with url := v } ]

/-- What a browser policy sets. -/
def PolicyContent.decoder : Decoder PolicyContent :=
  Decoder.record "BrowserPolicyContent" {}
    [ lenient "extensions" (Decoder.list Extension.decoder) fun v c => { c with extensions := v },
      lenient "developer_tools" Decoder.bool fun v c => { c with developerTools := v },
      lenient "persistent_data" Decoder.bool fun v c => { c with persistentData := v } ]

/-- A browser policy. -/
def BrowserPolicy.decoder : Decoder BrowserPolicy :=
  Decoder.record "BrowserPolicy" {}
    [ lenient "type" (Decoder.variants "BrowserPolicyType" BrowserKind.table) fun v b => { b with kind := v },
      lenient "path" Decoder.string fun v b => { b with path := v },
      lenient "content" PolicyContent.decoder fun v b => { b with content := v } ]

/-- Room settings. -/
def Settings.decoder : Decoder Settings :=
  Decoder.record "RoomSettings" {}
    [ lenient "api_version" Decoder.u32 fun v s => { s with apiVersion := v },
      lenient "name" Decoder.string fun v s => { s with name := v },
      lenient "neko_image" Decoder.string fun v s => { s with image := v },
      lenient "max_connections" Decoder.u16 fun v s => { s with maxConnections := v },
      lenient "control_protection" Decoder.bool fun v s => { s with controlProtection := v },
      lenient "implicit_control" Decoder.bool fun v s => { s with implicitControl := v },
      lenient "user_pass" Decoder.string fun v s => { s with userPass := v },
      lenient "admin_pass" Decoder.string fun v s => { s with adminPass := v },
      lenient "screen" Decoder.string fun v s => { s with screen := v },
      lenient "video_codec" Decoder.string fun v s => { s with videoCodec := v },
      lenient "video_bitrate" Decoder.u32 fun v s => { s with videoBitrate := v },
      lenient "video_pipeline" Decoder.string fun v s => { s with videoPipeline := v },
      lenient "video_max_fps" Decoder.u32 fun v s => { s with videoMaxFps := v },
      lenient "audio_codec" Decoder.string fun v s => { s with audioCodec := v },
      lenient "audio_bitrate" Decoder.u32 fun v s => { s with audioBitrate := v },
      lenient "audio_pipeline" Decoder.string fun v s => { s with audioPipeline := v },
      lenient "broadcast_pipeline" Decoder.string fun v s => { s with broadcastPipeline := v },
      lenient "envs" stringMap fun v s => { s with envs := v },
      lenient "labels" stringMap fun v s => { s with labels := v },
      lenient "mounts" (Decoder.list Mount.decoder) fun v s => { s with mounts := v },
      lenient "resources" Resources.decoder fun v s => { s with resources := v },
      lenient "hostname" Decoder.string fun v s => { s with hostname := v },
      lenient "dns" strings fun v s => { s with dns := v },
      lenient "browser_policy" (Decoder.option BrowserPolicy.decoder) fun v s => { s with browserPolicy := v } ]

/-- A member. -/
def Member.decoder : Decoder Member :=
  Decoder.record "RoomMember" {}
    [ lenient "id" Decoder.string fun v m => { m with id := v },
      lenient "displayname" Decoder.string fun v m => { m with displayName := v },
      lenient "admin" Decoder.bool fun v m => { m with admin := v },
      lenient "muted" Decoder.bool fun v m => { m with muted := v } ]

/-- Room statistics. -/
def Stats.decoder : Decoder Stats :=
  Decoder.record "RoomStats" {}
    [ lenient "connections" Decoder.u32 fun v s => { s with connections := v },
      lenient "host" Decoder.string fun v s => { s with host := v },
      lenient "members" (Decoder.list Member.decoder) fun v s => { s with members := v },
      lenient "banned" stringMap fun v s => { s with banned := v },
      lenient "locked" stringMap fun v s => { s with locked := v },
      lenient "server_started_at" (Decoder.option Decoder.instant) fun v s => { s with serverStartedAt := v },
      lenient "last_admin_left_at" (Decoder.option Decoder.instant) fun v s => { s with lastAdminLeftAt := v },
      lenient "last_user_left_at" (Decoder.option Decoder.instant) fun v s => { s with lastUserLeftAt := v },
      lenient "control_protection" Decoder.bool fun v s => { s with controlProtection := v },
      lenient "implicit_control" Decoder.bool fun v s => { s with implicitControl := v } ]

end RoomConsole.Room
