import RoomConsole.Dispatcher
import RoomConsole.Proofs.Store.Coherence

/-!
# A command is one call, then at most one change

Running a command is read here as two parts. Its **call** is the one
request it makes of the server, with the server's answer read as the
command's outcome. Its **change** is the one store change the dispatcher
assigns to that outcome, or none:

* refreshing the capabilities sets them, and listing replaces the rooms;
* a created room is upserted whole at the front, a room fetched by id or
  by name whole at the back;
* starting, stopping and pausing upsert their fixed patch at the front;
* removing removes the room, and recreating swaps the old id for the new
  room at the front;
* starting a pull and reading its status set the pull status;
* restarting, reading settings or statistics, stopping a pull and exporting
  change nothing.

`Command.run_eq` says that running is exactly this, and `run_atomic` what
follows: a failed call returns its error, read as the console's, and leaves
the store as it was, with no channel sent; a successful call returns its
outcome and makes its change. Every change bumps the version at most once,
so a command does too.
-/

namespace RoomConsole

open RoomConsole.Room RoomConsole.Client RoomConsole.Store

/-- The one call a command makes of the server, its answer read as the
command's outcome. -/
def Command.call (net : Http.Network) (c : Client) : Command → Except Client.Error Outcome
  | .refreshConfig => (c.roomsConfig net).map .config
  | .listRooms labels => (c.listRooms net labels).map .rooms
  | .createRoom settings start => (c.createRoom net settings start).map .room
  | .getRoom id => (c.getRoom net id).map .room
  | .getRoomByName name => (c.getRoomByName net name).map .room
  | .removeRoom id => (c.removeRoom net id).map fun () => .ok
  | .startRoom id => (c.roomAction net "start" id).map fun () => .ok
  | .stopRoom id => (c.roomAction net "stop" id).map fun () => .ok
  | .pauseRoom id => (c.roomAction net "pause" id).map fun () => .ok
  | .restartRoom id => (c.roomAction net "restart" id).map fun () => .ok
  | .recreateRoom id settings start => (c.recreateRoom net id settings start).map .room
  | .roomSettings id => (c.roomSettings net id).map .settings
  | .roomStats id => (c.roomStats net id).map .stats
  | .pullStart r => (c.pullStart net r.start).map .pull
  | .pullStatus => (c.pullStatus net).map .pull
  | .pullStop => (c.pullStop net).map fun () => .ok
  | .exportCompose => (c.exportCompose net).map .compose

/-- The change the dispatcher assigns to a command's outcome. -/
def Command.change : Command → Outcome → Option Mutation
  | .refreshConfig, .config cfg => some (.setConfig cfg)
  | .listRooms _, .rooms rooms => some (.replaceRooms rooms)
  | .createRoom _ _, .room e => some (.upsertRoom (.full e) .front)
  | .getRoom _, .room e => some (.upsertRoom (.full e) .back)
  | .getRoomByName _, .room e => some (.upsertRoom (.full e) .back)
  | .removeRoom id, _ => some (.removeRoom id)
  | .startRoom id, _ => some (.upsertRoom (.patch (flagPatch id true false "Up")) .front)
  | .stopRoom id, _ => some (.upsertRoom (.patch (flagPatch id false false "Exited")) .front)
  | .pauseRoom id, _ => some (.upsertRoom (.patch (flagPatch id false true "Paused")) .front)
  | .recreateRoom id _ _, .room e => some (.swapRoom id e .front)
  | .pullStart _, .pull st => some (.setPull st)
  | .pullStatus, .pull st => some (.setPull st)
  | _, _ => none

/-- Whether a command's success changes the store: all but restarting,
reading settings or statistics, stopping a pull and exporting. -/
def Command.changesStore : Command → Bool
  | .restartRoom _ | .roomSettings _ | .roomStats _ | .pullStop | .exportCompose => false
  | _ => true

variable (net : Http.Network) (c : Client) (s : Store) (cmd : Command)

/-- **Running a command is its call, then its change.** -/
theorem Command.run_eq :
    cmd.run net c s =
      match cmd.call net c with
      | .error e => (.error e.toConsole, s)
      | .ok o => (.ok o, ((cmd.change o).map s.apply).getD s) := by
  -- each arm matches on its call's answer; split on it, and both sides agree
  cases cmd <;> simp only [Command.run, Command.call] <;> split <;>
    simp_all [Except.map, Command.change, Store.apply]

/-- A successful call has a change exactly when the command changes the
store: the outcome is always of the command's own kind. -/
theorem Command.change_isSome {o : Outcome} (h : cmd.call net c = .ok o) :
    (cmd.change o).isSome = cmd.changesStore := by
  -- a failed call contradicts `h`; a successful one fixes the outcome's kind
  cases cmd <;> simp only [Command.call, Except.map] at h <;> split at h <;> cases h <;> rfl

/-- A command bumps the version at most once. -/
theorem Command.current_version_run_le :
    (cmd.run net c s).2.current.version ≤ s.current.version + 1 := by
  rw [cmd.run_eq]
  split
  · exact Nat.le_succ _
  · cases cmd.change _ with
    | none => exact Nat.le_succ _
    | some m => exact s.current_version_apply_le m

/-- **A command is atomic.** A failed call returns its error, read as the
console's, and leaves the store exactly as it was, no channel sent; a
successful call returns its outcome and makes exactly the change assigned
to it, which there is unless the command is one that changes nothing.
Either way the version rises by at most one. -/
theorem run_atomic :
    (∀ e, cmd.call net c = .error e → cmd.run net c s = (.error e.toConsole, s)) ∧
      (∀ o, cmd.call net c = .ok o →
        (cmd.change o).isSome = cmd.changesStore ∧
          cmd.run net c s = (.ok o, ((cmd.change o).map s.apply).getD s)) ∧
      (cmd.run net c s).2.current.version ≤ s.current.version + 1 := by
  refine ⟨fun e h => ?_, fun o h => ⟨cmd.change_isSome net c h, ?_⟩,
    cmd.current_version_run_le net c s⟩
  · rw [cmd.run_eq, h]
  · rw [cmd.run_eq, h]

/-- A room key no room carries is refused before any request, and the store
is left as it was. -/
theorem getRoom_empty_key_fails :
    (Command.getRoom "").run Http.Network.offline ⟨{ scheme := "http" }, none⟩ {} =
      (.error (Client.Error.notFound "room '' not found").toConsole, {}) :=
  (run_atomic _ _ _ _).1 _ rfl

end RoomConsole
