import RoomConsole.Proofs.Store.Collection

/-!
# The store stays coherent

The store keeps its rooms twice, in the collection and in the published
snapshot, and publishes the snapshot and its parts on four channels. It is
**coherent** when all of these tell one story: every room of the
collection stands under its own id, the snapshot's room list is the
collection's, and each channel holds the snapshot's part it carries, the
snapshot channel the snapshot itself.

Every change goes through `Store.mutate`, so the argument is made once
there: a change keeps the store coherent as soon as it is *honest*, that
is, keeps each room under its id and leaves alone every part it does not
report as touched (`Coherent.mutate`). Each of the six changes is honest
(`Coherent.apply`), so every store reached from the empty one by any
changes is coherent (`Coherent.run`). There the reads served by the
collection, `room` and `roomCount`, and those served by the channels,
`snapshot`, `roomsSnapshot` and `roomByName`, describe one room list
(`run_reads_agree`).
-/

namespace RoomConsole.Store

open RoomConsole.Room

/-- A change to the store, as the dispatcher and the event feed make them. -/
inductive Mutation where
  | setConfig (c : Capabilities)
  | replaceRooms (entries : List Entry)
  | upsertRoom (u : Upsert) (p : Placement)
  | removeRoom (id : String)
  | swapRoom (oldId : String) (e : Entry) (p : Placement)
  | setPull (st : Pull.Status)

section

/-- Make one change. -/
def apply (s : Store) : Mutation → Store
  | .setConfig c => s.setConfig c
  | .replaceRooms entries => s.replaceRooms entries
  | .upsertRoom u p => (s.upsertRoom u p).1
  | .removeRoom id => (s.removeRoom id).1
  | .swapRoom oldId e p => s.swapRoom oldId e p
  | .setPull st => s.setPull st

/-- Make changes one after another. -/
def run (s : Store) (ms : List Mutation) : Store := ms.foldl apply s

@[simp] theorem run_nil (s : Store) : s.run [] = s := rfl

@[simp] theorem run_cons (s : Store) (m : Mutation) (ms : List Mutation) :
    s.run (m :: ms) = (s.apply m).run ms := rfl

theorem run_append (s : Store) (ms ms' : List Mutation) :
    s.run (ms ++ ms') = (s.run ms).run ms' := List.foldl_append

/-- A change bumps the version once when it touched something, and leaves it
otherwise. -/
theorem current_version_mutate {β : Type} (s : Store) (f : Collection → Snapshot → Edit β) :
    (s.mutate f).1.current.version =
      if (f s.rooms s.current).touched.any then s.current.version + 1 else s.current.version := by
  unfold mutate
  dsimp only
  split <;> rfl

/-- Every change bumps the version at most once. -/
theorem current_version_apply_le (s : Store) (m : Mutation) :
    (s.apply m).current.version ≤ s.current.version + 1 := by
  have h : ∀ {β : Type} (f : Collection → Snapshot → Edit β),
      (s.mutate f).1.current.version ≤ s.current.version + 1 := by
    intro β f
    rw [current_version_mutate]
    split <;> omega
  cases m <;> exact h _

end

/-- **Coherence**: the collection keeps every room under its id, the
snapshot's room list is the collection's, and every channel holds its part
of the snapshot. -/
structure Coherent (s : Store) : Prop where
  keyed : s.rooms.Keyed
  rooms_eq : s.current.rooms = s.rooms.toVec
  roomsChannel : s.roomsChannel.value = s.current.rooms
  configChannel : s.configChannel.value = s.current.config
  pullChannel : s.pullChannel.value = s.current.pull
  snapshotChannel : s.snapshotChannel.value = s.current

/-- The empty store is coherent. -/
theorem coherent_empty : Coherent ({} : Store) :=
  ⟨(fun _ hp => nomatch hp), rfl, rfl, rfl, rfl, rfl⟩

/-- What a change may do, handed `rooms` and a copy of `cur`, for the store
to stay coherent: keep every room under its id, and leave alone each part
it does not report as touched. -/
structure Edit.Honest {β : Type} (rooms : Collection) (cur : Snapshot) (r : Edit β) : Prop where
  keyed : r.rooms.Keyed
  roomsKept : r.touched.rooms = false → r.rooms.toVec = rooms.toVec ∧ r.next.rooms = cur.rooms
  configKept : r.touched.config = false → r.next.config = cur.config
  pullKept : r.touched.pull = false → r.next.pull = cur.pull

variable {s : Store}

/-- **One change keeps the store coherent when it is honest.** A change that
touched something publishes its copy, whose room list is either read off
the collection or, the rooms untouched, the old one; a change that touched
nothing only leaves its collection behind, which then has the old rooms. -/
theorem Coherent.mutate {β : Type} {f : Collection → Snapshot → Edit β} (hs : Coherent s)
    (hf : (f s.rooms s.current).Honest s.rooms s.current) : Coherent (s.mutate f).1 := by
  generalize hr : f s.rooms s.current = r at hf
  obtain ⟨hkeyed, hrooms, hconfig, hpull⟩ := hf
  simp only [Store.mutate, hr]
  by_cases hany : r.touched.any
  · rw [if_pos hany]
    refine ⟨hkeyed, ?_, ?_, ?_, ?_, rfl⟩
    · cases ht : r.touched.rooms
      · simp [(hrooms ht).2, hs.rooms_eq, (hrooms ht).1]
      · simp
    · cases ht : r.touched.rooms
      · simp [hs.roomsChannel, (hrooms ht).2]
      · simp [Channel.send]
    · cases ht : r.touched.config
      · cases r.touched.rooms <;> simp [hs.configChannel, hconfig ht]
      · simp [Channel.send]
    · cases ht : r.touched.pull
      · cases r.touched.rooms <;> simp [hs.pullChannel, hpull ht]
      · simp [Channel.send]
  · rw [if_neg hany]
    have ht : r.touched.rooms = false := by
      simp only [Touched.any, Bool.or_eq_true, not_or, Bool.not_eq_true] at hany
      exact hany.1.1
    exact ⟨hkeyed, by rw [(hrooms ht).1, hs.rooms_eq], hs.roomsChannel, hs.configChannel,
      hs.pullChannel, hs.snapshotChannel⟩

/-- Each of the six changes keeps the store coherent. -/
theorem Coherent.apply (hs : Coherent s) (m : Mutation) : Coherent (s.apply m) := by
  cases m with
  | setConfig c =>
    exact hs.mutate ⟨hs.keyed, fun _ => ⟨rfl, rfl⟩, (fun h => nomatch h), fun _ => rfl⟩
  | replaceRooms entries =>
    exact hs.mutate ⟨Collection.keyed_replaceAll entries, (fun h => nomatch h), fun _ => rfl,
      fun _ => rfl⟩
  | upsertRoom u p =>
    refine hs.mutate ?_
    -- an empty patch on a known room touches nothing; every other upsert touches the rooms
    by_cases hnoop : (u.isEmptyPatch && (s.rooms.get u.id).isSome) = true
    · simp only [if_pos hnoop]
      exact ⟨hs.keyed, fun _ => ⟨rfl, rfl⟩, fun _ => rfl, fun _ => rfl⟩
    · simp only [if_neg hnoop]
      exact ⟨hs.keyed.upsert u p, (fun h => nomatch h), fun _ => rfl, fun _ => rfl⟩
  | removeRoom id =>
    refine hs.mutate ⟨hs.keyed.remove id, fun h => ⟨?_, rfl⟩, fun _ => rfl, fun _ => rfl⟩
    -- the rooms were reported untouched only when nothing was removed
    have hnone : (s.rooms.remove id).1 = none := by
      cases hrm : (s.rooms.remove id).1 with
      | none => rfl
      | some e => simp [hrm] at h
    exact Collection.toVec_remove_of_none hs.keyed hnone
  | swapRoom oldId e p =>
    exact hs.mutate ⟨(hs.keyed.remove oldId).upsert (.full e) p, (fun h => nomatch h),
      fun _ => rfl, fun _ => rfl⟩
  | setPull st =>
    exact hs.mutate ⟨hs.keyed, fun _ => ⟨rfl, rfl⟩, fun _ => rfl, (fun h => nomatch h)⟩

/-- **Every run keeps the store coherent**, by one change at a time. -/
theorem Coherent.run (hs : Coherent s) (ms : List Mutation) : Coherent (s.run ms) := by
  induction ms generalizing s with
  | nil => exact hs
  | cons m ms ih => exact ih (hs.apply m)

/-! ## What coherence gives the reads -/

/-- The collection's rooms have distinct ids. -/
theorem Coherent.ids_nodup (hs : Coherent s) : (s.rooms.toVec.map (·.id)).Nodup :=
  hs.keyed.ids_nodup

/-- The published room list is the collection's. -/
theorem Coherent.snapshot_rooms (hs : Coherent s) : s.snapshot.rooms = s.rooms.toVec := by
  rw [Store.snapshot, hs.snapshotChannel, hs.rooms_eq]

/-- A room read by id is the one published room with that id. -/
theorem Coherent.room_eq_some_iff (hs : Coherent s) {id : String} {e : Entry} :
    s.room id = some e ↔ e ∈ s.snapshot.rooms ∧ e.id = id := by
  rw [hs.snapshot_rooms]
  exact hs.keyed.get_eq_some_iff

/-- The room count is the length of the published list. -/
theorem Coherent.roomCount_eq (hs : Coherent s) : s.roomCount = s.snapshot.rooms.length := by
  rw [hs.snapshot_rooms]
  exact hs.keyed.len_eq

/-- The room channel holds the published list. -/
theorem Coherent.roomsSnapshot_eq (hs : Coherent s) : s.roomsSnapshot = s.snapshot.rooms := by
  rw [Store.roomsSnapshot, Store.snapshot, hs.roomsChannel, hs.snapshotChannel]

/-- A room read by name is the first published room with that name. -/
theorem Coherent.roomByName_eq (hs : Coherent s) (name : String) :
    s.roomByName name = s.snapshot.rooms.find? (·.name == name) := by
  rw [Store.roomByName, ← Store.roomsSnapshot, hs.roomsSnapshot_eq]

/-- **The two kinds of read agree after any changes.** Every store reached
from the empty one is coherent, its collection has distinct ids, and the
reads served by the collection and those served by the channels describe
one room list: the room read by id is the one published room with that
id, and the count is the published list's length. -/
theorem run_reads_agree (ms : List Mutation) :
    let s := ({} : Store).run ms
    Coherent s ∧ (s.rooms.toVec.map (·.id)).Nodup ∧
      (∀ id e, s.room id = some e ↔ e ∈ s.snapshot.rooms ∧ e.id = id) ∧
      s.roomCount = s.snapshot.rooms.length ∧ s.roomsSnapshot = s.snapshot.rooms ∧
      ∀ name, s.roomByName name = s.snapshot.rooms.find? (·.name == name) := by
  have hs := coherent_empty.run ms
  exact ⟨hs, hs.ids_nodup, fun _ _ => hs.room_eq_some_iff, hs.roomCount_eq, hs.roomsSnapshot_eq,
    hs.roomByName_eq⟩

end RoomConsole.Store
