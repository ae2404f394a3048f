import RoomConsole.Json.Instant
import RoomConsole.Pull.Status

/-!
# Pull status in JSON

As for rooms, the pull status has a strict **stored** form and a lenient
**server** form in which any field may be missing. The two differ in how a
layer is written: the server writes `status`, `progressDetail`, `progress`
and `id`, the stored form `id`, `status`, `progress` and `progress_detail`.

A pull request is sent as the image and, when given, the registry user and
password; empty credentials are left out.
-/

namespace RoomConsole.Pull

open RoomConsole.Json

/-- Byte counters. -/
def Progress.toJson (p : Progress) : Json := .obj [("current", Json.nat p.current), ("total", Json.nat p.total)]

/-- A layer in the stored form. -/
def Layer.toJson (l : Layer) : Json :=
  .obj [("id", .str l.id), ("status", .str l.status), ("progress", .str l.progress),
    ("progress_detail", Json.opt Progress.toJson l.detail)]

/-- A layer in the server form. -/
def Layer.toServerJson (l : Layer) : Json :=
  .obj [("status", .str l.status), ("progressDetail", Json.opt Progress.toJson l.detail),
    ("progress", .str l.progress), ("id", .str l.id)]

/-- The status with layers written by `layer`. -/
def Status.jsonWith (layer : Layer → Json) (s : Status) : Json :=
  .obj [("active", .bool s.active), ("started", Json.ofInstant? s.started),
    ("layers", .arr (s.layers.map layer)), ("status", .arr (s.lines.map .str)),
    ("finished", Json.ofInstant? s.finished)]

/-- The stored form of a pull status. -/
def Status.toJson (s : Status) : Json := s.jsonWith Layer.toJson

/-- The server form of a pull status. -/
def Status.toServerJson (s : Status) : Json := s.jsonWith Layer.toServerJson

/-- Byte counters: both required in the stored form (`p = .required`). -/
def Progress.decoder (name : String) (p : Decoder.Presence) : Decoder Progress :=
  Decoder.record name {}
    [ Decoder.field "current" p Decoder.u64 fun v q => { q with current := v },
      Decoder.field "total" p Decoder.u64 fun v q => { q with total := v } ]

/-- A layer in the stored form. -/
def Layer.decoder : Decoder Layer :=
  Decoder.record "PullLayer" {}
    [ Decoder.field "id" .required Decoder.string fun v l => { l with id := v },
      Decoder.field "status" .required Decoder.string fun v l => { l with status := v },
      Decoder.field "progress" .required Decoder.string fun v l => { l with progress := v },
      Decoder.field "progress_detail" .optional
        (Decoder.option (Progress.decoder "LayerProgress" .required)) fun v l => { l with detail := v } ]

/-- A layer in the server form. -/
def Layer.serverDecoder : Decoder Layer :=
  Decoder.record "PullLayer" {}
    [ Decoder.field "status" .defaulted Decoder.string fun v l => { l with status := v },
      Decoder.field "progressDetail" .defaulted
        (Decoder.option (Progress.decoder "PullProgressDetail" .defaulted)) fun v l => { l with detail := v },
      Decoder.field "progress" .defaulted Decoder.string fun v l => { l with progress := v },
      Decoder.field "id" .defaulted Decoder.string fun v l => { l with id := v } ]

/-- The fields of a pull status, layers read by `layer`. -/
def Status.fields (p : Decoder.Presence) (layer : Decoder Layer) : List (Decoder.Field Status) :=
  let opt := if p = .required then .optional else p
  [ Decoder.field "active" p Decoder.bool fun v s => { s with active := v },
    Decoder.field "started" opt (Decoder.option Decoder.instant) fun v s => { s with started := v },
    Decoder.field "layers" p (Decoder.list layer) fun v s => { s with layers := v },
    Decoder.field "status" p (Decoder.list Decoder.string) fun v s => { s with lines := v },
    Decoder.field "finished" opt (Decoder.option Decoder.instant) fun v s => { s with finished := v } ]

/-- The stored form of a pull status. -/
def Status.decoder : Decoder Status := Decoder.record "PullStatus" {} (Status.fields .required Layer.decoder)

/-- The server form of a pull status. -/
def Status.serverDecoder : Decoder Status :=
  Decoder.record "PullStatusResponse" {} (Status.fields .defaulted Layer.serverDecoder)

/-- What is sent to start a pull: the image, and non-empty credentials. -/
structure Start where
  image : String
  user : String := ""
  password : String := ""
  deriving DecidableEq, Repr

/-- The body that starts a pull for a request. -/
def Request.start (r : Request) : Start :=
  match r.registry with
  | none => { image := r.image }
  | some reg => { image := r.image, user := reg.username, password := reg.password }

/-- The body of a pull start; empty credentials are left out. -/
def Start.toJson (s : Start) : Json :=
  .obj ([("neko_image", .str s.image)]
    ++ (if s.user.isEmpty then [] else [("registry_user", .str s.user)])
    ++ (if s.password.isEmpty then [] else [("registry_pass", .str s.password)]))

/-- A pull start: the image is required. -/
def Start.decoder : Decoder Start :=
  Decoder.record "PullStart" { image := "" }
    [ Decoder.field "neko_image" .required Decoder.string fun v s => { s with image := v },
      Decoder.field "registry_user" .defaulted Decoder.string fun v s => { s with user := v },
      Decoder.field "registry_pass" .defaulted Decoder.string fun v s => { s with password := v } ]

end RoomConsole.Pull
