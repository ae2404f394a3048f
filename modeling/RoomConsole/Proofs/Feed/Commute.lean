import RoomConsole.Proofs.Dispatcher
import RoomConsole.Proofs.Feed.Projection

/-!
# A command's change and its events commute

A command that changes a room is also announced on the event stream: a
created room is `created`, a started, stopped or paused room gets that
action, a removed room is `destroyed`, and a recreated room is `destroyed`
under its old id and `created` under its new one, in either order
(`Command.Emits`). The console makes the command's change when the answer
arrives and folds each event when it arrives, so the two race.

The race does not matter: the change made at any point among the events
leaves the same room list as the change made before all of them
(`change_anywhere_among_events`). On the plain list each event commutes
with the change (`Plain.Commutes`):

* a patch the server sends for a start, stop or pause agrees with the
  command's own on every field both carry, and two patches in a row are
  their merge (`Entry.apply_apply`), so they merge to one patch in either
  order;
* `created` adds nothing once the whole entry is there, and a whole entry
  put over the empty room `created` brought stands where that room stood,
  at the front;
* two removals of one id are one removal, and a removal passes an upsert
  of another id, which is why the recreated room must have a new id.
-/

namespace RoomConsole.Store

open RoomConsole.Room RoomConsole.Event

namespace Plain

/-- A change, on the plain room list. -/
def change : Mutation → List Entry → List Entry
  | .setConfig _, L => L
  | .replaceRooms entries, _ => replace entries
  | .upsertRoom u p, L => upsert u p L
  | .removeRoom id, L => remove id L
  | .swapRoom oldId e p, L => upsert (.full e) p (remove oldId L)
  | .setPull _, L => L

/-- A change commutes with an event: made before or after it, it leaves
the same list. -/
def Commutes (m : Mutation) (ev : ServerEvent) : Prop :=
  ∀ L, change m (fold ev L) = fold ev (change m L)

/-! ## Upserts and removals on the plain list -/

/-- Putting each room with an id through `f` keeps the ids, when `f` keeps
the id of such a room. -/
theorem ids_map_onto (u : Upsert) (L : List Entry) :
    (L.map fun e => if e.id = u.id then u.onto e else e).map (·.id) = L.map (·.id) := by
  simp only [List.map_map]
  refine List.map_congr_left fun e _ => ?_
  by_cases he : e.id = u.id
  · simp [he, Upsert.onto_id u he]
  · simp [he]

/-- After an upsert its room stands in the list. -/
theorem mem_ids_upsert (u : Upsert) (p : Placement) (L : List Entry) :
    u.id ∈ (upsert u p L).map (·.id) := by
  unfold upsert
  split
  · rename_i h
    rwa [ids_map_onto]
  · cases p <;> simp

/-- Changing the rooms with an id no room has changes nothing. -/
theorem map_of_not_mem {k : String} {L : List Entry} (h : k ∉ L.map (·.id)) (f : Entry → Entry) :
    (L.map fun e => if e.id = k then f e else e) = L := by
  refine (List.map_congr_left fun e he => ?_).trans (List.map_id _)
  have hne : e.id ≠ k := fun hk => h (hk ▸ List.mem_map_of_mem he)
  simp [hne]

/-- An empty patch on a room that stands in the list changes nothing. -/
theorem upsert_blank_of_mem {id : String} {L : List Entry} (h : id ∈ L.map (·.id))
    (p : Placement) : upsert (.patch (Patch.blank id)) p L = L := by
  rw [upsert_patch_of_mem h]
  refine (List.map_congr_left fun e _ => ?_).trans (List.map_id _)
  have hblank : e.apply (Patch.blank id) = e := rfl
  simp [hblank]

/-- **A whole entry put first over the empty room `created` brought** is
the entry put first. -/
theorem upsert_full_blank (e : Entry) (L : List Entry) :
    upsert (.full e) .front (upsert (.patch (Patch.blank e.id)) .front L) =
      upsert (.full e) .front L := by
  by_cases h : e.id ∈ L.map (·.id)
  · rw [upsert_blank_of_mem h]
  · -- the empty room goes first, and the entry replaces it there
    rw [upsert_patch_front_of_not_mem h]
    have hmem : (Upsert.full e).id ∈ (Entry.ofPatch (Patch.blank e.id) :: L).map (·.id) := by
      simp [Upsert.id]
    have hnot : (Upsert.full e).id ∉ L.map (·.id) := h
    unfold upsert
    rw [if_pos hmem, if_neg hnot, List.map_cons, map_of_not_mem hnot]
    simp [Upsert.id, Upsert.onto, Upsert.fresh]

/-- **Two patches of one room at the front commute** when they merge to
one patch in either order. -/
theorem upsert_patch_comm {p q : Patch} (hid : p.id = q.id) (hm : p.merge q = q.merge p)
    (L : List Entry) :
    upsert (.patch q) .front (upsert (.patch p) .front L) =
      upsert (.patch p) .front (upsert (.patch q) .front L) := by
  by_cases h : p.id ∈ L.map (·.id)
  · -- the room stands in the list: both sides patch it in place, twice
    have hq : q.id ∈ L.map (·.id) := hid ▸ h
    rw [upsert_patch_of_mem h, upsert_patch_of_mem (by rwa [ids_map_apply]),
      upsert_patch_of_mem hq, upsert_patch_of_mem (by rwa [ids_map_apply]), List.map_map,
      List.map_map]
    refine List.map_congr_left fun e _ => ?_
    by_cases he : e.id = p.id
    · have he' : e.id = q.id := he.trans hid
      simp only [Function.comp_apply, Entry.apply_id, if_pos he, if_pos he', Entry.apply_apply, hm]
    · have he' : e.id ≠ q.id := fun h' => he (h'.trans hid.symm)
      simp only [Function.comp_apply, if_neg he, if_neg he']
  · -- the room is new: the first patch brings it in front, the second patches it there
    have hq : q.id ∉ L.map (·.id) := hid ▸ h
    rw [upsert_patch_front_of_not_mem h, upsert_patch_front_of_not_mem hq,
      upsert_patch_of_mem (q := q) (by simp [hid]), upsert_patch_of_mem (q := p) (by simp [hid])]
    have hfirst : (Entry.ofPatch p).apply q = (Entry.ofPatch q).apply p := by
      simp only [Entry.ofPatch, Entry.apply_apply, hm, hid]
    rw [List.map_cons, List.map_cons, map_of_not_mem h, map_of_not_mem hq, Entry.ofPatch_id,
      Entry.ofPatch_id, if_pos hid, if_pos hid.symm, hfirst]

/-- Two removals of one id are one removal. -/
theorem remove_remove (id : String) (L : List Entry) : remove id (remove id L) = remove id L := by
  simp [remove, List.filter_filter]

/-- **A removal passes an upsert of another id.** -/
theorem remove_upsert {u : Upsert} {id : String} (h : u.id ≠ id) (p : Placement)
    (L : List Entry) : remove id (upsert u p L) = upsert u p (remove id L) := by
  have hmem : u.id ∈ (remove id L).map (·.id) ↔ u.id ∈ L.map (·.id) := by
    simp [ids_remove, h]
  unfold upsert
  by_cases hu : u.id ∈ L.map (·.id)
  · -- patching in place keeps every id, so the removal takes out the same rooms
    rw [if_pos hu, if_pos (hmem.2 hu), remove, remove, List.filter_map]
    congr 1
    refine List.filter_congr fun e _ => ?_
    by_cases he : e.id = u.id
    · simp [he, Upsert.onto_id u he]
    · simp [he]
  · rw [if_neg hu, if_neg (mt hmem.1 hu)]
    cases p <;> simp [remove, List.filter_append, h]

/-! ## What commutes with what -/

/-- A change commuting with every event commutes with their fold, made at
any point among them. -/
theorem foldl_change_at {m : Mutation} {evs : List ServerEvent} (hc : ∀ ev ∈ evs, Commutes m ev)
    (k : Nat) (L : List Entry) :
    (evs.drop k).foldl (fun L ev => fold ev L) (change m ((evs.take k).foldl (fun L ev => fold ev L) L)) =
      evs.foldl (fun L ev => fold ev L) (change m L) := by
  induction evs generalizing k L with
  | nil => simp
  | cons ev evs ih =>
    cases k with
    | zero => rfl
    | succ k =>
      rw [List.take_succ_cons, List.drop_succ_cons, List.foldl_cons,
        ih (fun ev' h' => hc ev' (List.mem_cons_of_mem _ h')) k (fold ev L),
        hc ev (List.mem_cons_self ..) L, List.foldl_cons]

/-- A patch at the front commutes with a known action on its room other
than `destroyed`, when their patches merge to one in either order. -/
theorem commutes_patch {p : Patch} {ch : RoomChange} (hid : ch.id = p.id)
    (hk : ch.action.isKnown = true) (hd : ch.action ≠ .destroyed)
    (hm : p.merge (patchFor ch.id ch.action) = (patchFor ch.id ch.action).merge p) :
    Commutes (.upsertRoom (.patch p) .front) (.rooms ch) := by
  intro L
  simp only [change, fold_known hk hd]
  exact upsert_patch_comm (by rw [patchFor_id, hid]) hm.symm L

/-- A created room's whole entry commutes with its `created`. -/
theorem commutes_create (e : Entry) :
    Commutes (.upsertRoom (.full e) .front) (.rooms ⟨e.id, .created⟩) := by
  intro L
  simp only [change, fold]
  rw [upsert_full_blank, upsert_blank_of_mem (show e.id ∈ _ from mem_ids_upsert (.full e) .front L)]

/-- A removal commutes with the `destroyed` of its room. -/
theorem commutes_remove (id : String) : Commutes (.removeRoom id) (.rooms ⟨id, .destroyed⟩) :=
  fun _ => rfl

/-- A swap to a new id commutes with the old room's `destroyed`. -/
theorem commutes_swap_destroyed {oldId : String} {e : Entry} (hnew : e.id ≠ oldId) :
    Commutes (.swapRoom oldId e .front) (.rooms ⟨oldId, .destroyed⟩) := by
  intro L
  simp only [change, fold]
  rw [remove_remove, remove_upsert (u := .full e) hnew, remove_remove]

/-- A swap to a new id commutes with the new room's `created`. -/
theorem commutes_swap_created {oldId : String} {e : Entry} (hnew : e.id ≠ oldId) :
    Commutes (.swapRoom oldId e .front) (.rooms ⟨e.id, .created⟩) := by
  intro L
  simp only [change, fold]
  rw [remove_upsert (u := .patch (Patch.blank e.id)) hnew, upsert_full_blank,
    upsert_blank_of_mem (show e.id ∈ _ from mem_ids_upsert (.full e) .front _)]

end Plain

variable {s : Store}

/-- **A change, through the snapshot**, is its plain counterpart. -/
theorem Coherent.snapshot_apply (hs : Coherent s) (m : Mutation) :
    (s.apply m).snapshot.rooms = Plain.change m s.snapshot.rooms := by
  cases m with
  | setConfig c => exact hs.snapshot_setConfig c
  | replaceRooms entries => exact snapshot_replaceRooms entries
  | upsertRoom u p => exact hs.snapshot_upsertRoom u p
  | removeRoom id => exact hs.snapshot_removeRoom id
  | swapRoom oldId e p => exact hs.snapshot_swapRoom oldId e p
  | setPull st => exact hs.snapshot_setPull st

end RoomConsole.Store

namespace RoomConsole

open RoomConsole.Room RoomConsole.Event RoomConsole.Store

/-- The room events the server emits for a command it confirmed with
outcome `o`: `created` for a created room, the action itself for a start,
stop or pause, `destroyed` for a removal, and for a recreation, under a new
id, `destroyed` for the old id and `created` for the new, in either order. -/
inductive Command.Emits : Command → Outcome → List ServerEvent → Prop
  | create (settings : Settings) (start : Bool) (e : Entry) :
      Command.Emits (.createRoom settings start) (.room e) [.rooms ⟨e.id, .created⟩]
  | start (id : String) (o : Outcome) : Command.Emits (.startRoom id) o [.rooms ⟨id, .started⟩]
  | stop (id : String) (o : Outcome) : Command.Emits (.stopRoom id) o [.rooms ⟨id, .stopped⟩]
  | pause (id : String) (o : Outcome) : Command.Emits (.pauseRoom id) o [.rooms ⟨id, .paused⟩]
  | remove (id : String) (o : Outcome) :
      Command.Emits (.removeRoom id) o [.rooms ⟨id, .destroyed⟩]
  | recreate (id : String) (settings : Option Settings) (start : Option Bool) (e : Entry)
      {evs : List ServerEvent} (hnew : e.id ≠ id)
      (hevs : evs.Perm [.rooms ⟨id, .destroyed⟩, .rooms ⟨e.id, .created⟩]) :
      Command.Emits (.recreateRoom id settings start) (.room e) evs

variable {cmd : Command} {o : Outcome} {evs : List ServerEvent} {m : Mutation}

/-- The change the dispatcher makes for a command commutes with each event
the server emits for it. -/
theorem Command.Emits.commutes (he : cmd.Emits o evs) (hm : cmd.change o = some m) :
    ∀ ev ∈ evs, Plain.Commutes m ev := by
  intro ev hev
  cases he with
  | create settings start e =>
    simp only [Command.change, Option.some.injEq] at hm
    subst hm
    rw [List.mem_singleton] at hev
    subst hev
    exact Plain.commutes_create e
  | start id o | stop id o | pause id o =>
    simp only [Command.change, Option.some.injEq] at hm
    subst hm
    rw [List.mem_singleton] at hev
    subst hev
    exact Plain.commutes_patch rfl rfl (by simp) rfl
  | remove id o =>
    simp only [Command.change, Option.some.injEq] at hm
    subst hm
    rw [List.mem_singleton] at hev
    subst hev
    exact Plain.commutes_remove id
  | recreate id settings start e hnew hevs =>
    simp only [Command.change, Option.some.injEq] at hm
    subst hm
    -- the two events come in either order; each commutes with the swap
    have hpair : ev = .rooms ⟨id, .destroyed⟩ ∨ ev = .rooms ⟨e.id, .created⟩ := by
      simpa using hevs.mem_iff.1 hev
    rcases hpair with rfl | rfl
    · exact Plain.commutes_swap_destroyed hnew
    · exact Plain.commutes_swap_created hnew

/-- **The answer and the events may arrive in any order.** In every store
reached from the empty one, the change the dispatcher makes for a created,
started, stopped, paused, removed or recreated room, made at any point
among the events the server emits for it, leaves the same room list, the
same rooms in the same order, as the change made before all of them. -/
theorem change_anywhere_among_events (ms : List Mutation) (he : cmd.Emits o evs)
    (hm : cmd.change o = some m) (k : Nat) :
    let s := ({} : Store).run ms
    (foldEvents ((foldEvents s (evs.take k)).apply m) (evs.drop k)).snapshot.rooms =
      (foldEvents (s.apply m) evs).snapshot.rooms := by
  intro s
  have hs : Coherent s := coherent_empty.run ms
  have hpre := hs.snapshot_foldEvents (evs.take k)
  rw [((hpre.1.apply m).snapshot_foldEvents _).2, hpre.1.snapshot_apply, hpre.2,
    ((hs.apply m).snapshot_foldEvents evs).2, hs.snapshot_apply]
  exact Plain.foldl_change_at (he.commutes hm) k _

/-- A room recreated under a new id, its `created` arriving before the
answer and its `destroyed` after: the swap made between them leaves what
it leaves made first. -/
theorem recreate_swap_between_events :
    Command.Emits (.recreateRoom "a" none none) (.room { id := "b" })
        [.rooms ⟨"b", .created⟩, .rooms ⟨"a", .destroyed⟩] ∧
      (Command.recreateRoom "a" none none).change (.room { id := "b" }) =
        some (.swapRoom "a" { id := "b" } .front) ∧
      let s := ({} : Store).run [.replaceRooms [{ id := "a" }, { id := "c" }]]
      let evs : List ServerEvent := [.rooms ⟨"b", .created⟩, .rooms ⟨"a", .destroyed⟩]
      (foldEvents ((foldEvents s (evs.take 1)).apply (.swapRoom "a" { id := "b" } .front))
          (evs.drop 1)).snapshot.rooms =
        (foldEvents (s.apply (.swapRoom "a" { id := "b" } .front)) evs).snapshot.rooms := by
  have he : Command.Emits (.recreateRoom "a" none none) (.room { id := "b" })
      [.rooms ⟨"b", .created⟩, .rooms ⟨"a", .destroyed⟩] :=
    .recreate "a" none none { id := "b" } (by decide) (List.Perm.swap _ _ [])
  exact ⟨he, rfl, change_anywhere_among_events _ he rfl 1⟩

end RoomConsole
