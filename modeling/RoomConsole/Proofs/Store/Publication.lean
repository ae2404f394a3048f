import RoomConsole.Proofs.Store.Coherence

/-!
# What a change publishes

A change to the store either does nothing at all or publishes exactly one
new version. It does nothing exactly when it is an empty patch on a room
the store holds, or the removal of a room the store lacks (`Store.isNoop`):
the store is then left as it was, its channels included
(`Store.apply_of_isNoop`). Every other change, a swap and a whole entry or
a listing that repeats what the store holds included, bumps the version by
one, sends the snapshot once, and sends the rooms, the capabilities and the
pull status each exactly when it writes that part (`Published`,
`Coherent.published_apply`).

Over a run from the empty store this counts the changes: the version is
the number of changes that were not no-ops (`Coherent.version_run`), the
snapshots sent carry the versions one, two, three and so on
(`Coherent.versions_published`), and two stores a run passes through with
one version are one store (`Coherent.run_take_eq`). The main statement is
`version_counts_changes`.
-/

namespace RoomConsole.Store

open RoomConsole.Room

/-- The part of the store a change writes: the capabilities, the pull
status, or else the rooms. -/
def Mutation.writes : Mutation → Touched
  | .setConfig _ => { config := true }
  | .setPull _ => { pull := true }
  | _ => { rooms := true }

/-- `t` is `s` after one publication of the parts `w`: the version is one
more, the snapshot was sent once, and the channel of each part once when
`w` names it and not at all otherwise. -/
structure Published (s t : Store) (w : Touched) : Prop where
  version : t.version = s.version + 1
  snapshotSent : t.snapshotSent = s.snapshotSent + 1
  roomsSent : t.roomsSent = s.roomsSent + w.rooms.toNat
  configSent : t.configSent = s.configSent + w.config.toNat
  pullSent : t.pullSent = s.pullSent + w.pull.toNat

@[ext] theorem IndexMap.ext {α : Type} {m m' : IndexMap α} (h : m.pairs = m'.pairs) : m = m' := by
  cases m
  cases m'
  cases h
  rfl

/-- Removing a key the collection lacks leaves it as it was. -/
theorem Collection.remove_of_get_none {c : Collection} {id : String} (h : c.get id = none) :
    (c.remove id).2 = c := by
  have hkeep : ∀ p ∈ c.byId.pairs, p.1 ≠ id := by
    intro p hp hpid
    have hne := List.lookup_eq_none_iff.1 h p hp
    simp [hpid] at hne
  cases c with
  | mk m =>
    simp only [Collection.remove, Collection.mk.injEq]
    ext1
    simpa using hkeep

section

variable {β : Type} {s : Store} {f : Collection → Snapshot → Edit β}

/-- A change that touched nothing leaves only its collection behind. -/
theorem mutate_of_not_any (h : (f s.rooms s.current).touched.any = false) :
    (s.mutate f).1 = { s with rooms := (f s.rooms s.current).rooms } := by
  simp only [mutate, h, Bool.false_eq_true, if_false]

/-- A change that touched the parts `w`, some part at least, publishes
them, once each, and the snapshot with the next version. -/
theorem published_mutate (hs : s.snapshotChannel.value = s.current) {w : Touched}
    (hw : (f s.rooms s.current).touched = w) (h : w.any = true) :
    Published s (s.mutate f).1 w := by
  generalize hr : f s.rooms s.current = r at hw
  subst hw
  simp only [mutate, hr, h, if_true]
  refine ⟨?_, rfl, ?_, ?_, ?_⟩
  · simp [version, Channel.send, hs]
  · cases r.touched.rooms <;> rfl
  · cases r.touched.config <;> rfl
  · cases r.touched.pull <;> rfl

/-- A change that does nothing: an empty patch on a room the store holds,
or removing a room it lacks. -/
def isNoop (s : Store) : Mutation → Bool
  | .upsertRoom (.patch q) _ => q.isEmpty && (s.room q.id).isSome
  | .removeRoom id => (s.room id).isNone
  | _ => false

/-- The condition the upsert itself tests is the no-op's. -/
theorem isNoop_upsertRoom (u : Upsert) (p : Placement) :
    s.isNoop (.upsertRoom u p) = (u.isEmptyPatch && (s.rooms.get u.id).isSome) := by
  cases u <;> rfl

/-- **A no-op changes nothing**, not even a channel. -/
theorem apply_of_isNoop {m : Mutation} (h : s.isNoop m = true) : s.apply m = s := by
  cases m with
  | upsertRoom u p =>
    rw [isNoop_upsertRoom] at h
    show (s.mutate _).1 = s
    rw [mutate_of_not_any (by simp [h, Touched.any])]
    simp [h]
  | removeRoom id =>
    have hnone : s.rooms.get id = none := by simpa [isNoop, room] using h
    show (s.mutate _).1 = s
    have hrm : (s.rooms.remove id).1 = none := hnone
    rw [mutate_of_not_any (by simp [hrm, Touched.any])]
    simp [Collection.remove_of_get_none hnone]
  | setConfig | replaceRooms | swapRoom | setPull => cases h

/-! ## Runs -/

/-- The changes of a run that were not no-ops, counted. -/
def effective (s : Store) : List Mutation → Nat
  | [] => 0
  | m :: ms => (if s.isNoop m then 0 else 1) + (s.apply m).effective ms

/-- The snapshots a run sends on the snapshot channel, in order: after each
change that sent one, the snapshot it sent. -/
def published (s : Store) : List Mutation → List Snapshot
  | [] => []
  | m :: ms =>
    (if (s.apply m).snapshotSent = s.snapshotSent then [] else [(s.apply m).snapshot]) ++
      (s.apply m).published ms

/-- A run of no-ops leaves the store as it was. -/
theorem run_eq_of_effective_eq_zero {ms : List Mutation} (h : s.effective ms = 0) :
    s.run ms = s := by
  induction ms generalizing s with
  | nil => rfl
  | cons m ms ih =>
    rw [effective] at h
    have hn : s.isNoop m = true := by
      cases hn : s.isNoop m with
      | true => rfl
      | false => simp [hn] at h
    have hrest : (s.apply m).effective ms = 0 := by omega
    rw [run_cons, ih hrest, apply_of_isNoop hn]

end

variable {s : Store}

/-- **Every other change publishes once**, writing exactly its own part. -/
theorem Coherent.published_apply (hs : Coherent s) {m : Mutation} (h : s.isNoop m = false) :
    Published s (s.apply m) m.writes := by
  have hch := hs.snapshotChannel
  cases m with
  | setConfig c => exact Store.published_mutate hch rfl rfl
  | replaceRooms entries => exact Store.published_mutate hch rfl rfl
  | upsertRoom u p =>
    rw [Store.isNoop_upsertRoom] at h
    exact Store.published_mutate hch (by simp [h, Mutation.writes]) rfl
  | removeRoom id =>
    -- the room is there, so the removal takes it out and touches the rooms
    have hget : (s.rooms.remove id).1 = s.room id := rfl
    have hsome : (s.rooms.remove id).1.isSome = true := by
      simpa [hget, Store.isNoop, Option.isNone_iff_eq_none, Option.isSome_iff_ne_none] using h
    exact Store.published_mutate hch (by simp [hsome, Mutation.writes]) rfl
  | swapRoom oldId e p => exact Store.published_mutate hch rfl rfl
  | setPull st => exact Store.published_mutate hch rfl rfl

/-- **A change leaves the store as it was exactly when it is a no-op.** -/
theorem Coherent.apply_eq_self_iff (hs : Coherent s) (m : Mutation) :
    s.apply m = s ↔ s.isNoop m = true := by
  refine ⟨fun heq => ?_, Store.apply_of_isNoop⟩
  -- any other change sends the snapshot, so the store differs
  cases hn : s.isNoop m with
  | true => rfl
  | false =>
    have hsent := (hs.published_apply hn).snapshotSent
    rw [heq] at hsent
    omega

/-- **The version counts the changes that took effect.** -/
theorem Coherent.version_run (hs : Coherent s) (ms : List Mutation) :
    (s.run ms).version = s.version + s.effective ms := by
  induction ms generalizing s with
  | nil => rfl
  | cons m ms ih =>
    rw [Store.run_cons, ih (hs.apply m), Store.effective]
    cases hn : s.isNoop m with
    | true => rw [Store.apply_of_isNoop hn, if_pos rfl, Nat.zero_add]
    | false =>
      rw [(hs.published_apply hn).version, if_neg Bool.false_ne_true]
      omega

/-- **The snapshots sent are numbered one by one**: each carries the
version after the last one sent. -/
theorem Coherent.versions_published (hs : Coherent s) (ms : List Mutation) :
    (s.published ms).map (·.version) = List.range' (s.version + 1) (s.effective ms) := by
  induction ms generalizing s with
  | nil => rfl
  | cons m ms ih =>
    rw [Store.published, Store.effective, List.map_append, ih (hs.apply m)]
    cases hn : s.isNoop m with
    | true => simp [Store.apply_of_isNoop hn]
    | false =>
      have hp := hs.published_apply hn
      have hsent : (s.apply m).snapshotSent ≠ s.snapshotSent := by
        rw [hp.snapshotSent]
        exact Nat.succ_ne_self _
      have hv : (s.apply m).snapshot.version = s.version + 1 := hp.version
      rw [if_neg hsent, if_neg Bool.false_ne_true, hp.version, Nat.add_comm 1, List.range'_succ]
      simp [hv]

/-- A later store of a run with the version of an earlier one is that
store: every change between them was a no-op. -/
theorem Coherent.run_take_of_le (hs : Coherent s) (ms : List Mutation) {i j : Nat} (hij : i ≤ j)
    (hv : (s.run (ms.take i)).version = (s.run (ms.take j)).version) :
    s.run (ms.take j) = s.run (ms.take i) := by
  -- the later store is the earlier one run on the changes between them
  have hsplit : ms.take j = ms.take i ++ (ms.take j).drop i := by
    have h := List.take_append_drop i (ms.take j)
    rw [List.take_take, Nat.min_eq_left hij] at h
    exact h.symm
  have hi := hs.run (ms.take i)
  rw [hsplit, Store.run_append] at hv ⊢
  rw [hi.version_run] at hv
  exact Store.run_eq_of_effective_eq_zero (by omega)

/-- **Two stores a run passes through with one version are one store.** -/
theorem Coherent.run_take_eq (hs : Coherent s) (ms : List Mutation) {i j : Nat}
    (h : (s.run (ms.take i)).version = (s.run (ms.take j)).version) :
    s.run (ms.take i) = s.run (ms.take j) := by
  rcases Nat.le_total i j with hij | hji
  · exact (hs.run_take_of_le ms hij h).symm
  · exact hs.run_take_of_le ms hji h.symm

/-- **The version counts the changes that take effect.** In every store
reached from the empty one, a change leaves the store exactly as it was,
channels included, when it is a no-op, and only then; any other change
publishes once, writing exactly its own part. Over every run from the
empty store the version is the number of changes that were not no-ops, the
versions of the snapshots sent strictly increase, and two stores the run
passes through with one version hold one snapshot. -/
theorem version_counts_changes :
    (∀ ms m, let s := ({} : Store).run ms
      (s.apply m = s ↔ s.isNoop m = true) ∧
        (s.isNoop m = false → Published s (s.apply m) m.writes)) ∧
    ∀ ms : List Mutation,
      (({} : Store).run ms).version = Store.effective {} ms ∧
        ((({} : Store).published ms).map (·.version)).Pairwise (· < ·) ∧
        ∀ i j, (({} : Store).run (ms.take i)).version = (({} : Store).run (ms.take j)).version →
          (({} : Store).run (ms.take i)).snapshot = (({} : Store).run (ms.take j)).snapshot := by
  refine ⟨fun ms m => ?_, fun ms => ?_⟩
  · have hs := coherent_empty.run ms
    exact ⟨hs.apply_eq_self_iff m, hs.published_apply⟩
  · refine ⟨(coherent_empty.version_run ms).trans (Nat.zero_add _), ?_, fun i j h => ?_⟩
    · rw [coherent_empty.versions_published ms]
      exact List.pairwise_lt_range'
    · rw [coherent_empty.run_take_eq ms h]

/-! ## The no-op rule for patches -/

/-- A patch on a room the store holds leaves the store as it was exactly
when it can change no room of that id. -/
theorem Coherent.upsert_patch_eq_self_iff (hs : Coherent s) {q : Patch} (p : Placement)
    (hq : (s.room q.id).isSome = true) :
    s.apply (.upsertRoom (.patch q) p) = s ↔ ∀ e : Entry, e.id = q.id → e.apply q = e := by
  rw [hs.apply_eq_self_iff, ← Patch.isEmpty_iff_fixes]
  simp only [Store.isNoop, hq, Bool.and_true]

/-- **Patches merge field by field, and the store skips exactly the patches
that change nothing.** A patch never changes the id; two patches in a row
are their merge, each field taken from the later patch when it carries it,
so a patch applied twice is applied once; the room a patch describes is the
skeleton of its id, patched; and a patch is empty exactly when it leaves
every room of its id as it is. So in every store reached from the empty
one, a patch on a room the store holds leaves the store as it was, channels
included, exactly when it can change no room of that id. -/
theorem patch_laws :
    (∀ (e : Entry) (p : Patch), (e.apply p).id = e.id) ∧
      (∀ (e : Entry) (p q : Patch), (e.apply p).apply q = e.apply (p.merge q)) ∧
      (∀ (e : Entry) (p : Patch), (e.apply p).apply p = e.apply p) ∧
      (∀ p : Patch, Entry.ofPatch p = (Entry.skeleton p.id).apply p) ∧
      (∀ p : Patch, p.isEmpty = true ↔ ∀ e : Entry, e.id = p.id → e.apply p = e) ∧
      ∀ (ms : List Mutation) (q : Patch) (pl : Placement), let s := ({} : Store).run ms
        (s.room q.id).isSome = true →
          (s.apply (.upsertRoom (.patch q) pl) = s ↔ ∀ e : Entry, e.id = q.id → e.apply q = e) :=
  ⟨Entry.apply_id, Entry.apply_apply, Entry.apply_apply_self, fun _ => rfl,
    fun _ => Patch.isEmpty_iff_fixes,
    fun ms _ pl hq => (coherent_empty.run ms).upsert_patch_eq_self_iff pl hq⟩

end RoomConsole.Store
