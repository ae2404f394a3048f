import RoomConsole.Proofs.Store.Coherence

/-!
# The store refines the plain list

Read through its published snapshot, a coherent store is a plain list of
rooms, and each change is the plain operation on that list: replacing gives
one room per distinct id, where the id first occurs, with its last entry;
an upsert replaces or patches the named room where it stands, or puts the
new room first or last; a removal keeps the others in their order; a swap
is a removal followed by an upsert, made as one change. The capabilities
and the pull status leave the list alone. An upsert answers whether the id
was new, and a removal answers the room removed.

Every change leaves the rooms with other ids as they were, in their order.
The main statement, `run_refines_plain`, holds at every store reached from
the empty one.
-/

namespace RoomConsole.Store

open RoomConsole.Room

/-! ## What each change leaves in the collection -/

section

variable (s : Store)

theorem rooms_mutate {β : Type} (f : Collection → Snapshot → Edit β) :
    (s.mutate f).1.rooms = (f s.rooms s.current).rooms := by
  unfold mutate
  dsimp only
  split <;> rfl

theorem mutate_snd {β : Type} (f : Collection → Snapshot → Edit β) :
    (s.mutate f).2 = (f s.rooms s.current).answer := by
  unfold mutate
  dsimp only
  split <;> rfl

/-- Whether an upsert changes nothing: an empty patch on a known room. -/
def upsertIsNoop (u : Upsert) : Bool := u.isEmptyPatch && (s.rooms.get u.id).isSome

theorem rooms_upsertRoom (u : Upsert) (p : Placement) :
    (s.upsertRoom u p).1.rooms = if s.upsertIsNoop u then s.rooms else (s.rooms.upsert u p).1 := by
  rw [upsertRoom, rooms_mutate, upsertIsNoop]
  split <;> rfl

theorem upsertRoom_snd (u : Upsert) (p : Placement) :
    (s.upsertRoom u p).2 = if s.upsertIsNoop u then false else (s.rooms.upsert u p).2 := by
  rw [upsertRoom, mutate_snd, upsertIsNoop]
  split <;> rfl

theorem rooms_removeRoom (id : String) : (s.removeRoom id).1.rooms = (s.rooms.remove id).2 := by
  rw [removeRoom, rooms_mutate]

theorem removeRoom_snd (id : String) : (s.removeRoom id).2 = (s.rooms.remove id).1 := by
  rw [removeRoom, mutate_snd]

theorem rooms_swapRoom (oldId : String) (e : Entry) (p : Placement) :
    (s.swapRoom oldId e p).rooms = ((s.rooms.remove oldId).2.upsert (.full e) p).1 := by
  rw [swapRoom, rooms_mutate]

theorem rooms_replaceRooms (entries : List Entry) :
    (s.replaceRooms entries).rooms = Collection.replaceAll entries := by
  rw [replaceRooms, rooms_mutate]

theorem rooms_setConfig (c : Capabilities) : (s.setConfig c).rooms = s.rooms := by
  rw [setConfig, rooms_mutate]

theorem rooms_setPull (st : Pull.Status) : (s.setPull st).rooms = s.rooms := by
  rw [setPull, rooms_mutate]

/-- A swap is one change: it publishes one new version. -/
theorem current_version_swapRoom (oldId : String) (e : Entry) (p : Placement) :
    (s.swapRoom oldId e p).current.version = s.current.version + 1 := by
  simp [swapRoom, mutate, Touched.any]

end

/-! ## The plain operations leave the other rooms alone -/

namespace Plain

/-- An upsert leaves every room its filter keeps, when the filter drops the
room the upsert names. -/
theorem filter_upsert_of {u : Upsert} {P : Entry → Bool} (hP : ∀ x, P x = true → x.id ≠ u.id)
    (p : Placement) (L : List Entry) : (upsert u p L).filter P = L.filter P := by
  have hfresh : P u.fresh = false := by
    cases h : P u.fresh
    · rfl
    · exact absurd (Upsert.fresh_id u) (hP _ h)
  unfold upsert
  split
  · rw [List.filter_map]
    have hkeep : L.filter (P ∘ fun e => if e.id = u.id then u.onto e else e) = L.filter P := by
      refine List.filter_congr fun x _ => ?_
      by_cases hx : x.id = u.id
      · have hon : P (u.onto x) = false := by
          cases h : P (u.onto x)
          · rfl
          · exact absurd (Upsert.onto_id u hx) (hP _ h)
        have hxP : P x = false := by
          cases h : P x
          · rfl
          · exact absurd hx (hP _ h)
        simp [hx, hon, hxP]
      · simp [hx]
    rw [hkeep]
    refine (List.map_congr_left fun x hx => ?_).trans (List.map_id _)
    have hx' : x.id ≠ u.id := hP x (List.mem_filter.1 hx).2
    simp [hx']
  · split
    · simp [hfresh]
    · simp [List.filter_append, hfresh]

/-- An upsert leaves the rooms with other ids, in their order. -/
theorem filter_upsert (u : Upsert) (p : Placement) (L : List Entry) :
    (upsert u p L).filter (·.id ≠ u.id) = L.filter (·.id ≠ u.id) :=
  filter_upsert_of (fun x hx => by simpa using hx) p L

/-- A swap leaves the rooms with neither id, in their order. -/
theorem filter_upsert_remove (oldId : String) (e : Entry) (p : Placement) (L : List Entry) :
    (upsert (.full e) p (remove oldId L)).filter (fun x => x.id ≠ oldId ∧ x.id ≠ e.id) =
      L.filter (fun x => x.id ≠ oldId ∧ x.id ≠ e.id) := by
  rw [filter_upsert_of (fun x hx => by simp at hx; exact hx.2) p, remove, List.filter_filter]
  refine List.filter_congr fun x _ => ?_
  by_cases h : x.id = oldId <;> simp [h]

end Plain

/-! ## Each change, through the snapshot -/

variable {s : Store}

/-- After a change the published list is the collection's, the store being
coherent again. -/
theorem Coherent.snapshot_rooms_apply (hs : Coherent s) (m : Mutation) :
    (s.apply m).snapshot.rooms = (s.apply m).rooms.toVec :=
  (hs.apply m).snapshot_rooms

theorem snapshot_replaceRooms (entries : List Entry) :
    (s.replaceRooms entries).snapshot.rooms = Plain.replace entries := by
  simp [Store.replaceRooms, Store.mutate, Store.snapshot, Channel.send, Touched.any,
    Collection.toVec_replaceAll]

theorem Coherent.snapshot_upsertRoom (hs : Coherent s) (u : Upsert) (p : Placement) :
    (s.upsertRoom u p).1.snapshot.rooms = Plain.upsert u p s.snapshot.rooms := by
  have h := hs.snapshot_rooms_apply (.upsertRoom u p)
  simp only [Store.apply] at h
  rw [h, Store.rooms_upsertRoom, hs.snapshot_rooms]
  split
  · -- an empty patch on a known room: patching in place changes nothing
    rename_i hnoop
    simp only [Store.upsertIsNoop, Bool.and_eq_true] at hnoop
    obtain ⟨hempty, hknown⟩ := hnoop
    have hmem : u.id ∈ s.rooms.toVec.map (·.id) := hs.keyed.get_isSome_iff.1 hknown
    cases u with
    | full e => simp [Upsert.isEmptyPatch] at hempty
    | patch q =>
      unfold Plain.upsert
      rw [if_pos hmem]
      refine ((List.map_congr_left fun x _ => ?_).trans (List.map_id _)).symm
      simp [Upsert.onto, Entry.apply_of_isEmpty hempty]
  · exact Collection.toVec_upsert hs.keyed u p

theorem Coherent.upsertRoom_snd (hs : Coherent s) (u : Upsert) (p : Placement) :
    (s.upsertRoom u p).2 = true ↔ u.id ∉ s.snapshot.rooms.map (·.id) := by
  rw [Store.upsertRoom_snd, hs.snapshot_rooms]
  split
  · rename_i hnoop
    simp only [Store.upsertIsNoop, Bool.and_eq_true] at hnoop
    simpa using hs.keyed.get_isSome_iff.1 hnoop.2
  · simp [Collection.upsert_snd hs.keyed]

theorem Coherent.snapshot_removeRoom (hs : Coherent s) (id : String) :
    (s.removeRoom id).1.snapshot.rooms = Plain.remove id s.snapshot.rooms := by
  have h := hs.snapshot_rooms_apply (.removeRoom id)
  simp only [Store.apply] at h
  rw [h, Store.rooms_removeRoom, hs.snapshot_rooms, Collection.toVec_remove hs.keyed]

theorem Coherent.removeRoom_snd (hs : Coherent s) (id : String) :
    (s.removeRoom id).2 = s.snapshot.rooms.find? (·.id = id) := by
  rw [Store.removeRoom_snd, hs.snapshot_rooms, Collection.remove_fst hs.keyed]

theorem Coherent.snapshot_swapRoom (hs : Coherent s) (oldId : String) (e : Entry) (p : Placement) :
    (s.swapRoom oldId e p).snapshot.rooms =
      Plain.upsert (.full e) p (Plain.remove oldId s.snapshot.rooms) := by
  have h := hs.snapshot_rooms_apply (.swapRoom oldId e p)
  simp only [Store.apply] at h
  rw [h, Store.rooms_swapRoom, Collection.toVec_upsert (hs.keyed.remove oldId),
    Collection.toVec_remove hs.keyed, hs.snapshot_rooms]

theorem Coherent.snapshot_setConfig (hs : Coherent s) (c : Capabilities) :
    (s.setConfig c).snapshot.rooms = s.snapshot.rooms := by
  have h := hs.snapshot_rooms_apply (.setConfig c)
  simp only [Store.apply] at h
  rw [h, Store.rooms_setConfig, hs.snapshot_rooms]

theorem Coherent.snapshot_setPull (hs : Coherent s) (st : Pull.Status) :
    (s.setPull st).snapshot.rooms = s.snapshot.rooms := by
  have h := hs.snapshot_rooms_apply (.setPull st)
  simp only [Store.apply] at h
  rw [h, Store.rooms_setPull, hs.snapshot_rooms]

/-- A swap is a removal followed by an upsert of the whole entry, made as
one change that publishes one new version. -/
theorem Coherent.swapRoom_eq (hs : Coherent s) (oldId : String) (e : Entry) (p : Placement) :
    (s.swapRoom oldId e p).snapshot.rooms =
        (((s.removeRoom oldId).1.upsertRoom (.full e) p).1).snapshot.rooms ∧
      (s.swapRoom oldId e p).version = s.version + 1 := by
  have hrm : Coherent (s.removeRoom oldId).1 := hs.apply (.removeRoom oldId)
  refine ⟨?_, ?_⟩
  · rw [hs.snapshot_swapRoom, hrm.snapshot_upsertRoom, hs.snapshot_removeRoom]
  · have hv := (hs.apply (.swapRoom oldId e p)).snapshotChannel
    simp only [Store.apply] at hv
    rw [Store.version, hv, Store.current_version_swapRoom, Store.version, hs.snapshotChannel]

/-- **Every reachable store is a plain list under its changes.** Read
through the published snapshot, each change of a store reached from the
empty one is its plain counterpart on the published list `L`, an upsert
answers whether the id was new and a removal answers the room removed; a
swap is a removal then an upsert, made as one change; and every upsert and
swap leaves the rooms with other ids as they were, in their order. -/
theorem run_refines_plain (ms : List Mutation) :
    let s := ({} : Store).run ms
    let L := s.snapshot.rooms
    (∀ entries, (s.replaceRooms entries).snapshot.rooms = Plain.replace entries) ∧
    (∀ u p, (s.upsertRoom u p).1.snapshot.rooms = Plain.upsert u p L ∧
      ((s.upsertRoom u p).2 = true ↔ u.id ∉ L.map (·.id)) ∧
      (s.upsertRoom u p).1.snapshot.rooms.filter (·.id ≠ u.id) = L.filter (·.id ≠ u.id)) ∧
    (∀ id, (s.removeRoom id).1.snapshot.rooms = Plain.remove id L ∧
      (s.removeRoom id).2 = L.find? (·.id = id)) ∧
    (∀ oldId e p,
      (s.swapRoom oldId e p).snapshot.rooms = Plain.upsert (.full e) p (Plain.remove oldId L) ∧
      (s.swapRoom oldId e p).snapshot.rooms =
        (((s.removeRoom oldId).1.upsertRoom (.full e) p).1).snapshot.rooms ∧
      (s.swapRoom oldId e p).version = s.version + 1 ∧
      (s.swapRoom oldId e p).snapshot.rooms.filter (fun x => x.id ≠ oldId ∧ x.id ≠ e.id) =
        L.filter (fun x => x.id ≠ oldId ∧ x.id ≠ e.id)) ∧
    (∀ c, (s.setConfig c).snapshot.rooms = L) ∧
    (∀ st, (s.setPull st).snapshot.rooms = L) := by
  have hs := coherent_empty.run ms
  refine ⟨snapshot_replaceRooms,
    fun u p => ⟨hs.snapshot_upsertRoom u p, hs.upsertRoom_snd u p, ?_⟩,
    fun id => ⟨hs.snapshot_removeRoom id, hs.removeRoom_snd id⟩,
    fun oldId e p => ⟨hs.snapshot_swapRoom oldId e p, (hs.swapRoom_eq oldId e p).1,
      (hs.swapRoom_eq oldId e p).2, ?_⟩, hs.snapshot_setConfig, hs.snapshot_setPull⟩
  · rw [hs.snapshot_upsertRoom, Plain.filter_upsert]
  · rw [hs.snapshot_swapRoom, Plain.filter_upsert_remove]

end RoomConsole.Store
