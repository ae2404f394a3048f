import RoomConsole.Room.Settings
import RoomConsole.Room.Entry

/-!
# Reference tables

The codecs a room may use, the screen modes it may show, and the settings a
new room starts from. Codecs are named in upper case and read back without
regard to ASCII case and untrimmed, so `vp8` names `VP8` and ` vp8` names
nothing.
-/

namespace RoomConsole

/-- A video codec. -/
inductive VideoCodec where
  | vp8
  | vp9
  | h264
  deriving DecidableEq, Repr

/-- An audio codec. -/
inductive AudioCodec where
  | opus
  | g722
  | pcmu
  | pcma
  deriving DecidableEq, Repr

/-- The name of a video codec. -/
def VideoCodec.name : VideoCodec → String
  | .vp8 => "VP8"
  | .vp9 => "VP9"
  | .h264 => "H264"

/-- The name of an audio codec. -/
def AudioCodec.name : AudioCodec → String
  | .opus => "OPUS"
  | .g722 => "G722"
  | .pcmu => "PCMU"
  | .pcma => "PCMA"

/-- Every video codec, in order. -/
def VideoCodec.all : List VideoCodec := [.vp8, .vp9, .h264]

/-- Every audio codec, in order. -/
def AudioCodec.all : List AudioCodec := [.opus, .g722, .pcmu, .pcma]

/-- The video codec a text names, without regard to ASCII case. -/
def VideoCodec.parse (text : String) : Option VideoCodec :=
  VideoCodec.all.find? fun c => Room.sameIgnoringAsciiCase c.name text

/-- The audio codec a text names, without regard to ASCII case. -/
def AudioCodec.parse (text : String) : Option AudioCodec :=
  AudioCodec.all.find? fun c => Room.sameIgnoringAsciiCase c.name text

/-- The screen modes a room may show, largest first. -/
def screens : List String :=
  ["1920x1080@60", "1920x1080@30", "1680x1050@60", "1600x900@60", "1440x900@60", "1440x810@60",
   "1400x1050@60", "1400x900@60", "1368x768@60", "1360x768@60", "1280x1024@60", "1280x960@60",
   "1280x800@60", "1280x720@60", "1280x720@30", "1152x864@60", "1152x648@60", "1024x768@60",
   "1024x576@60", "960x720@60", "960x720@30", "960x600@60", "960x540@60", "928x696@60",
   "896x672@60", "864x486@60", "840x525@60", "800x600@60", "800x450@60", "720x450@60",
   "720x405@60", "700x525@60", "700x450@60", "684x384@60", "680x384@60", "640x512@60",
   "640x480@60", "640x400@60", "640x360@60"]

/-- Whether a screen mode is one of the table's. -/
def isKnownScreen (screen : String) : Bool := screens.contains screen

/-- The screen mode a new room starts with. -/
def defaultScreen : String := "1280x720@30"

/-- The settings a new room starts from; its name and image are left empty. -/
def defaultSettings : Room.Settings :=
  { maxConnections := 10
    screen := defaultScreen
    videoCodec := VideoCodec.vp8.name
    videoBitrate := 3072
    videoMaxFps := 25
    audioCodec := AudioCodec.opus.name
    audioBitrate := 128
    resources := { shmSize := 2000000000 } }

/-- The default settings with a name and an image. -/
def namedSettings (name image : String) : Room.Settings :=
  { defaultSettings with name, image }

end RoomConsole
