import RoomConsole.Time.Instant

/-!
# Image pulls

The server pulls at most one image at a time; its `Status` says whether a
pull is active, when it started and finished, the progress of each layer
and the status lines the pull printed.

`Status.totals` sums the byte counters of the layers that report them, each
sum held at `2^64 - 1` rather than wrapping, and `Status.isFinished` holds
when a pull ran and is no longer active.
-/

namespace RoomConsole.Pull

open RoomConsole.Time

/-- Byte counters of a layer download. -/
structure Progress where
  current : Nat := 0
  total : Nat := 0
  deriving DecidableEq, Repr, Inhabited

/-- One layer of the image being pulled. -/
structure Layer where
  id : String := ""
  status : String := ""
  /-- The progress bar the server drew. -/
  progress : String := ""
  detail : Option Progress := none
  deriving DecidableEq, Repr, Inhabited

/-- The state of the server's image pull. -/
structure Status where
  active : Bool := false
  started : Option Instant := none
  layers : List Layer := []
  /-- Status lines such as `Digest: …`. -/
  lines : List String := []
  finished : Option Instant := none
  deriving DecidableEq, Repr, Inhabited

/-- The largest 64-bit counter. -/
def counterMax : Nat := Nat.pow 2 64 - 1

/-- A sum of counters held at `counterMax`. -/
def addCounter (a b : Nat) : Nat := min counterMax (a + b)

/-- Add one layer's counters to a running total. -/
def Progress.add (acc p : Progress) : Progress :=
  { current := addCounter acc.current p.current, total := addCounter acc.total p.total }

/-- The summed counters of the layers that report them. -/
def Status.totals (s : Status) : Progress :=
  (s.layers.filterMap (·.detail)).foldl Progress.add {}

/-- A pull ran and is no longer active. -/
def Status.isFinished (s : Status) : Bool := !s.active && s.finished.isSome

/-- Credentials for a private registry. -/
structure Registry where
  username : String
  password : String
  deriving DecidableEq, Repr

/-- A request to pull an image, from a private registry when credentials are given. -/
structure Request where
  image : String
  registry : Option Registry := none
  deriving DecidableEq, Repr

end RoomConsole.Pull
