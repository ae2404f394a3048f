import RoomConsole.Url.Host

/-!
# URLs

A URL is a scheme, an optional authority (user name, password, host and
port), a path, and an optional query and fragment, each kept in its written,
percent-encoded form. Its text joins them: `scheme:`, then `//` and the
authority when there is one, the path, `?query` and `#fragment`.

The schemes `http`, `https`, `ws`, `wss`, `ftp` and `file` are **special**:
their URLs always have an authority and a path that starts with `/`. A URL
with no authority whose path does not start with `/` (`mailto:x`) cannot be
a base: no relative reference resolves against it and its path has no
segments.
-/

namespace RoomConsole.Url

end RoomConsole.Url

namespace RoomConsole

open RoomConsole.Url in
/-- A URL, each part in its written form. -/
structure Url where
  scheme : String
  /-- Whether the URL has an authority (`//` after the scheme). -/
  authority : Bool := true
  username : String := ""
  password : Option String := none
  host : Option Host := none
  port : Option Nat := none
  path : String := ""
  query : Option String := none
  fragment : Option String := none
  deriving DecidableEq, Repr

end RoomConsole

namespace RoomConsole.Url

/-- The special schemes. -/
def isSpecialScheme (scheme : String) : Bool :=
  ["http", "https", "ws", "wss", "ftp", "file"].contains scheme

/-- The port a special scheme implies. -/
def defaultPort (scheme : String) : Option Nat :=
  if scheme = "http" || scheme = "ws" then some 80
  else if scheme = "https" || scheme = "wss" then some 443
  else if scheme = "ftp" then some 21
  else none

/-- Whether the URL's scheme is special. -/
def special (u : Url) : Bool := isSpecialScheme u.scheme

/-- A URL that no relative reference resolves against. -/
def cannotBeABase (u : Url) : Bool := !u.authority && !u.path.startsWith "/"

/-- The user name and password with their `@`, when there are any. -/
def userinfoText (u : Url) : String :=
  if u.username.isEmpty && u.password.isNone then ""
  else u.username ++ (match u.password with | some p => ":" ++ p | none => "") ++ "@"

/-- The text of a URL. -/
def text (u : Url) : String :=
  u.scheme ++ ":"
    ++ (if u.authority then
          "//" ++ u.userinfoText ++ (u.host.map Host.text).getD ""
            ++ (match u.port with | some p => ":" ++ toString p | none => "")
        else "")
    ++ u.path
    ++ (match u.query with | some q => "?" ++ q | none => "")
    ++ (match u.fragment with | some f => "#" ++ f | none => "")

end RoomConsole.Url
