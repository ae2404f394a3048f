import RoomConsole.Feed
import RoomConsole.Proofs.Store.Refinement

/-!
# What folding the event stream leaves

Folding server events one by one into a coherent store is folding them into
its published room list (`Coherent.snapshot_foldEvents`), each event acting
as a plain operation: `destroyed` removes the room, `created` puts an empty
room first when the id is new, and the other known actions patch the room,
bringing it in first from its patch when it is new.

What the fold leaves is read off the events alone (`Projection`). For a
room `x`, take the known actions on it in order, its **timeline**:

* `x` is there at the end exactly when its last known action is not
  `destroyed`, or it has none and was there at the start;
* it was **brought in** by the events when it was destroyed along the way
  or was not there at the start; it then started as an empty room, and
  otherwise as it was;
* its running and paused flags and its status line are those of its last
  lifecycle action (`started`, `paused`, `stopped`) since it was last
  destroyed, and its readiness that of the last of `ready`, `stopped` and
  `paused`; without one, they are its start's; every other field is its
  start's;
* the rooms brought in come first, the latest arrival first, then the rooms
  of the start never destroyed, in their order.

The main statement is `foldEvents_projection`.
-/

namespace RoomConsole.Event

/-- Whether an action is one of the six the console knows. -/
def Action.isKnown : Action → Bool
  | .other _ => false
  | _ => true

/-- The known action an event takes on room `x`; none for every other event. -/
def ServerEvent.actionOn (x : String) : ServerEvent → Option Action
  | .rooms ch => if ch.id = x ∧ ch.action.isKnown then some ch.action else none
  | _ => none

end RoomConsole.Event

namespace RoomConsole

open RoomConsole.Room RoomConsole.Event

/-- Fold events one by one into the store. -/
def foldEvents (s : Store) (evs : List ServerEvent) : Store :=
  evs.foldl (fun s ev => (foldEvent s ev).1) s

/-- The patch a known action other than `destroyed` makes: `created` makes
the empty one. -/
def patchFor (id : String) (a : Action) : Patch := (actionPatch id a).getD (Patch.blank id)

@[simp] theorem patchFor_id (id : String) (a : Action) : (patchFor id a).id = id := by
  cases a <;> rfl

end RoomConsole

namespace RoomConsole.Store

open RoomConsole.Room RoomConsole.Event

/-! ## The fold on a plain list -/

/-- Folding one event into a plain room list. -/
def Plain.fold : ServerEvent → List Entry → List Entry
  | .rooms ch, L =>
    match ch.action with
    | .destroyed => Plain.remove ch.id L
    | .created => Plain.upsert (.patch (Patch.blank ch.id)) .front L
    | a =>
      match actionPatch ch.id a with
      | some p => Plain.upsert (.patch p) .front L
      | none => L
  | _, L => L

namespace Plain

theorem fold_destroyed {ch : RoomChange} (hd : ch.action = .destroyed) (L : List Entry) :
    fold (.rooms ch) L = remove ch.id L := by
  simp [fold, hd]

theorem fold_known {ch : RoomChange} (hk : ch.action.isKnown = true) (hd : ch.action ≠ .destroyed)
    (L : List Entry) :
    fold (.rooms ch) L = upsert (.patch (patchFor ch.id ch.action)) .front L := by
  cases ha : ch.action <;> simp_all [fold, patchFor, actionPatch, Action.isKnown]

theorem fold_not_known {ch : RoomChange} (hk : ch.action.isKnown = false) (L : List Entry) :
    fold (.rooms ch) L = L := by
  cases ha : ch.action <;> simp_all [fold, actionPatch, Action.isKnown]

/-- A patch on a room that stands in the list patches it in place. -/
theorem upsert_patch_of_mem {q : Patch} {L : List Entry} (h : q.id ∈ L.map (·.id))
    (p : Placement) :
    upsert (.patch q) p L = L.map fun e => if e.id = q.id then e.apply q else e := by
  have h' : (Upsert.patch q).id ∈ L.map (·.id) := h
  unfold upsert
  rw [if_pos h']
  rfl

/-- A patch on a new room puts the room it describes first. -/
theorem upsert_patch_front_of_not_mem {q : Patch} {L : List Entry} (h : q.id ∉ L.map (·.id)) :
    upsert (.patch q) .front L = Entry.ofPatch q :: L := by
  have h' : (Upsert.patch q).id ∉ L.map (·.id) := h
  unfold upsert
  rw [if_neg h']
  rfl

theorem ids_remove (id : String) (L : List Entry) :
    (remove id L).map (·.id) = (L.map (·.id)).filter (· ≠ id) := by
  simp [remove, List.filter_map, Function.comp_def]

/-- Patching rooms in place keeps their ids. -/
theorem ids_map_apply (k : String) (q : Patch) (L : List Entry) :
    (L.map fun e => if e.id = k then e.apply q else e).map (·.id) = L.map (·.id) := by
  simp only [List.map_map]
  refine List.map_congr_left fun e _ => ?_
  by_cases he : e.id = k <;> simp [he]

end Plain

variable {s : Store}

/-- Folding an event keeps the store coherent: it is one change, or none. -/
theorem Coherent.foldEvent_fst (hs : Coherent s) (ev : ServerEvent) :
    Coherent (foldEvent s ev).1 := by
  cases ev with
  | rooms ch =>
    cases ha : ch.action with
    | created => simpa [foldEvent, ha, Store.apply] using hs.apply (.upsertRoom _ .front)
    | destroyed => simpa [foldEvent, ha, Store.apply] using hs.apply (.removeRoom ch.id)
    | started | ready | stopped | paused =>
      simpa [foldEvent, ha, actionPatch, Store.apply] using hs.apply (.upsertRoom _ .front)
    | other name => simpa [foldEvent, ha, actionPatch] using hs
  | pull st => exact hs.apply (.setPull _)
  | unknown name data => exact hs

/-- **One event, through the snapshot**, is its plain fold. -/
theorem Coherent.snapshot_foldEvent (hs : Coherent s) (ev : ServerEvent) :
    (foldEvent s ev).1.snapshot.rooms = Plain.fold ev s.snapshot.rooms := by
  cases ev with
  | rooms ch =>
    cases ha : ch.action with
    | created => simp [foldEvent, Plain.fold, ha, hs.snapshot_upsertRoom]
    | destroyed => simp [foldEvent, Plain.fold, ha, hs.snapshot_removeRoom]
    | started | ready | stopped | paused =>
      simp [foldEvent, Plain.fold, ha, actionPatch, hs.snapshot_upsertRoom]
    | other name => simp [foldEvent, Plain.fold, ha, actionPatch]
  | pull st => exact hs.snapshot_setPull _
  | unknown name data => rfl

/-- **Folding events into a coherent store** keeps it coherent and folds
them into its published list. -/
theorem Coherent.snapshot_foldEvents (hs : Coherent s) (evs : List ServerEvent) :
    Coherent (foldEvents s evs) ∧
      (foldEvents s evs).snapshot.rooms =
        evs.foldl (fun L ev => Plain.fold ev L) s.snapshot.rooms := by
  induction evs generalizing s with
  | nil => exact ⟨hs, rfl⟩
  | cons ev evs ih =>
    obtain ⟨hc, hr⟩ := ih (hs.foldEvent_fst ev)
    exact ⟨hc, by rw [foldEvents, List.foldl_cons, ← foldEvents, hr, hs.snapshot_foldEvent,
      List.foldl_cons]⟩

end RoomConsole.Store

/-! ## The events, room by room -/

namespace RoomConsole.Feed

open RoomConsole.Room RoomConsole.Event RoomConsole.Store

/-- The known actions taken on room `x`, each with its place in the
sequence. -/
def timeline (x : String) (evs : List ServerEvent) : List (Action × Nat) :=
  evs.zipIdx.filterMap fun p => (p.1.actionOn x).map (·, p.2)

/-- The part of a timeline since its last `destroyed`: all of it when there
is none. -/
def sinceDestroyed (t : List (Action × Nat)) : List (Action × Nat) :=
  (t.reverse.takeWhile (·.1 ≠ .destroyed)).reverse

/-- The actions on `x` since it was last destroyed. -/
def recent (x : String) (evs : List ServerEvent) : List Action :=
  (sinceDestroyed (timeline x evs)).map (·.1)

/-- Room `x` stands in the list after the events: its last known action is
not `destroyed`, or it has none and `x` stood in `L0`. -/
def PresentAfter (L0 : List Entry) (x : String) (evs : List ServerEvent) : Prop :=
  match (timeline x evs).getLast? with
  | some p => p.1 ≠ .destroyed
  | none => x ∈ L0.map (·.id)

/-- The events brought `x` in: it was destroyed along the way, or did not
stand in `L0`. -/
def BroughtIn (L0 : List Entry) (x : String) (evs : List ServerEvent) : Prop :=
  .destroyed ∈ (timeline x evs).map (·.1) ∨ x ∉ L0.map (·.id)

instance (L0 : List Entry) (x : String) (evs : List ServerEvent) : Decidable (BroughtIn L0 x evs) :=
  inferInstanceAs (Decidable (_ ∨ _))

/-- What room `x` starts from: an empty room when the events brought it in,
else itself as it stood in `L0`. -/
def start (L0 : List Entry) (x : String) (evs : List ServerEvent) : Entry :=
  if BroughtIn L0 x evs then Entry.skeleton x else (L0.find? (·.id = x)).getD (Entry.skeleton x)

/-- The running and paused flags and the status line a lifecycle action
leaves. -/
def lifecycle : Action → Option (Bool × Bool × String)
  | .started => some (true, false, "Up")
  | .paused => some (false, true, "Paused")
  | .stopped => some (false, false, "Exited")
  | _ => none

/-- The readiness an action leaves. -/
def readiness : Action → Option Bool
  | .ready => some true
  | .stopped | .paused => some false
  | _ => none

/-- Room `base` after the actions `as`: flags and status from the last
lifecycle action, readiness from the last action that sets it, each kept
from `base` without one; every other field from `base`. -/
def settle (base : Entry) (as : List Action) : Entry :=
  let life := (as.filterMap lifecycle).getLast?
  { base with
    running := (life.map (·.1)).getD base.running
    paused := (life.map (·.2.1)).getD base.paused
    status := (life.map (·.2.2)).getD base.status
    ready := ((as.filterMap readiness).getLast?).getD base.ready }

/-- Where in the sequence room `x` last arrived: the first of its actions
since it was last destroyed. -/
def arrival (x : String) (evs : List ServerEvent) : Nat :=
  ((sinceDestroyed (timeline x evs)).head?.map (·.2)).getD 0

/-- The rooms of `L0` never destroyed, in their order. -/
def survivors (L0 : List Entry) (evs : List ServerEvent) : List String :=
  (L0.map (·.id)).filter fun x => .destroyed ∉ (timeline x evs).map (·.1)

/-- **What folding events leaves of a room list `L0`**, read off the events
alone. -/
structure Projection (L0 : List Entry) (evs : List ServerEvent) (L : List Entry) : Prop where
  /-- No id stands twice. -/
  nodup : (L.map (·.id)).Nodup
  /-- A room stands in the list exactly when its last known action is not
  `destroyed`, or it has none and stood in `L0`. -/
  present : ∀ x, x ∈ L.map (·.id) ↔ PresentAfter L0 x evs
  /-- Each room is its start, settled by its actions since it was last
  destroyed. -/
  settled : ∀ e ∈ L, e = settle (start L0 e.id evs) (recent e.id evs)
  /-- The rooms the events brought in come first, the latest arrival first,
  then the rooms of `L0` never destroyed, in their order. -/
  order : ∃ F, L.map (·.id) = F ++ survivors L0 evs ∧
    (∀ x, x ∈ F ↔ x ∈ L.map (·.id) ∧ BroughtIn L0 x evs) ∧
    F.Pairwise fun x y => arrival y evs < arrival x evs

/-! ### One more event, on the timelines -/

theorem timeline_concat (x : String) (evs : List ServerEvent) (ev : ServerEvent) :
    timeline x (evs ++ [ev]) = timeline x evs ++ ((ev.actionOn x).map (·, evs.length)).toList := by
  cases h : ev.actionOn x <;> simp [timeline, List.zipIdx_append, h]

/-- Every place on a timeline is a place of the sequence. -/
theorem snd_lt_of_mem_timeline {x : String} {evs : List ServerEvent} {p : Action × Nat}
    (hp : p ∈ timeline x evs) : p.2 < evs.length := by
  obtain ⟨q, hq, hqp⟩ := List.mem_filterMap.1 hp
  obtain ⟨a, -, rfl⟩ := Option.map_eq_some_iff.1 hqp
  exact (List.mem_zipIdx' hq).1

@[simp] theorem sinceDestroyed_nil : sinceDestroyed [] = [] := rfl

theorem sinceDestroyed_concat_destroyed (t : List (Action × Nat)) (i : Nat) :
    sinceDestroyed (t ++ [(.destroyed, i)]) = [] := by
  simp [sinceDestroyed]

theorem sinceDestroyed_concat {a : Action} (ha : a ≠ .destroyed) (t : List (Action × Nat))
    (i : Nat) :
    sinceDestroyed (t ++ [(a, i)]) = sinceDestroyed t ++ [(a, i)] := by
  simp [sinceDestroyed, ha]

theorem mem_of_mem_sinceDestroyed {t : List (Action × Nat)} {p : Action × Nat}
    (hp : p ∈ sinceDestroyed t) : p ∈ t :=
  List.mem_reverse.1 (List.takeWhile_subset _ (List.mem_reverse.1 hp))

theorem actionOn_self {ch : RoomChange} (hk : ch.action.isKnown = true) :
    (ServerEvent.rooms ch).actionOn ch.id = some ch.action := by
  simp [ServerEvent.actionOn, hk]

theorem actionOn_other {ch : RoomChange} {y : String} (hy : ch.id ≠ y) :
    (ServerEvent.rooms ch).actionOn y = none := by
  simp [ServerEvent.actionOn, hy]

/-! ### Readings that depend on the timeline only -/

section Congr

variable {L0 : List Entry} {x : String} {evs evs' : List ServerEvent}

theorem presentAfter_congr (h : timeline x evs' = timeline x evs) :
    PresentAfter L0 x evs' ↔ PresentAfter L0 x evs := by
  rw [PresentAfter, PresentAfter, h]

theorem broughtIn_congr (h : timeline x evs' = timeline x evs) :
    BroughtIn L0 x evs' ↔ BroughtIn L0 x evs := by
  rw [BroughtIn, BroughtIn, h]

theorem start_congr (h : timeline x evs' = timeline x evs) : start L0 x evs' = start L0 x evs := by
  simp only [start, broughtIn_congr h]

theorem recent_congr (h : timeline x evs' = timeline x evs) : recent x evs' = recent x evs := by
  rw [recent, recent, h]

theorem arrival_congr (h : timeline x evs' = timeline x evs) : arrival x evs' = arrival x evs := by
  rw [arrival, arrival, h]

/-- A room's settled form depends on its timeline only. -/
theorem settled_congr (h : timeline x evs' = timeline x evs) :
    settle (start L0 x evs') (recent x evs') = settle (start L0 x evs) (recent x evs) := by
  rw [start_congr h, recent_congr h]

end Congr

/-! ### One more action other than `destroyed` -/

section OneAction

variable {L0 : List Entry} {x : String} {evs evs' : List ServerEvent} {a : Action} {i : Nat}

theorem destroyed_mem_concat (ha : a ≠ .destroyed) (t : List (Action × Nat)) :
    .destroyed ∈ (t ++ [(a, i)]).map (·.1) ↔ .destroyed ∈ t.map (·.1) := by
  simp [Ne.symm ha]

theorem presentAfter_of_concat (ha : a ≠ .destroyed)
    (h : timeline x evs' = timeline x evs ++ [(a, i)]) : PresentAfter L0 x evs' := by
  rw [PresentAfter, h, List.getLast?_concat]
  exact ha

theorem broughtIn_of_concat (ha : a ≠ .destroyed)
    (h : timeline x evs' = timeline x evs ++ [(a, i)]) :
    BroughtIn L0 x evs' ↔ BroughtIn L0 x evs := by
  rw [BroughtIn, BroughtIn, h, destroyed_mem_concat ha]

theorem recent_of_concat (ha : a ≠ .destroyed)
    (h : timeline x evs' = timeline x evs ++ [(a, i)]) : recent x evs' = recent x evs ++ [a] := by
  rw [recent, recent, h, sinceDestroyed_concat ha, List.map_append]
  rfl

theorem start_congr' (ha : a ≠ .destroyed) (h : timeline x evs' = timeline x evs ++ [(a, i)]) :
    start L0 x evs' = start L0 x evs := by
  simp only [start, broughtIn_of_concat ha h]

/-- A room that had arrived keeps its arrival. -/
theorem arrival_of_concat (ha : a ≠ .destroyed) (h : timeline x evs' = timeline x evs ++ [(a, i)])
    (hne : sinceDestroyed (timeline x evs) ≠ []) : arrival x evs' = arrival x evs := by
  obtain ⟨p, t, hpt⟩ := List.exists_cons_of_ne_nil hne
  rw [arrival, arrival, h, sinceDestroyed_concat ha, hpt]
  rfl

/-- A room that had not arrived arrives now. -/
theorem arrival_of_concat_nil (ha : a ≠ .destroyed)
    (h : timeline x evs' = timeline x evs ++ [(a, i)])
    (hnil : sinceDestroyed (timeline x evs) = []) : arrival x evs' = i := by
  rw [arrival, h, sinceDestroyed_concat ha, hnil]
  rfl

end OneAction

/-! ### One more room change -/

section Change

variable {L0 : List Entry} {ch : RoomChange}

theorem timeline_concat_self (hk : ch.action.isKnown = true) (evs : List ServerEvent) :
    timeline ch.id (evs ++ [.rooms ch]) = timeline ch.id evs ++ [(ch.action, evs.length)] := by
  rw [timeline_concat, actionOn_self hk]
  rfl

/-- A room change leaves every other room's timeline. -/
theorem timeline_concat_other {y : String} (hy : y ≠ ch.id) (evs : List ServerEvent) :
    timeline y (evs ++ [.rooms ch]) = timeline y evs := by
  rw [timeline_concat, actionOn_other (Ne.symm hy)]
  simp

/-- A known action other than `destroyed` brings no room in. -/
theorem broughtIn_concat_known (hk : ch.action.isKnown = true) (hd : ch.action ≠ .destroyed)
    (evs : List ServerEvent) (y : String) :
    BroughtIn L0 y (evs ++ [.rooms ch]) ↔ BroughtIn L0 y evs := by
  by_cases hy : y = ch.id
  · subst hy
    exact broughtIn_of_concat hd (timeline_concat_self hk evs)
  · exact broughtIn_congr (timeline_concat_other hy evs)

/-- A known action other than `destroyed` keeps the survivors. -/
theorem survivors_concat_known (hk : ch.action.isKnown = true) (hd : ch.action ≠ .destroyed)
    (evs : List ServerEvent) : survivors L0 (evs ++ [.rooms ch]) = survivors L0 evs := by
  unfold survivors
  refine List.filter_congr fun y _ => ?_
  by_cases hy : y = ch.id
  · subst hy
    simp only [timeline_concat_self hk evs, destroyed_mem_concat hd]
  · rw [timeline_concat_other hy evs]

end Change

/-! ### Presence -/

section Presence

variable {L0 : List Entry} {x : String} {evs : List ServerEvent}

/-- A room absent after the events has nothing since its last `destroyed`,
and was brought in if it comes back. -/
theorem not_present_spec (h : ¬ PresentAfter L0 x evs) :
    sinceDestroyed (timeline x evs) = [] ∧ BroughtIn L0 x evs := by
  rcases List.eq_nil_or_concat (timeline x evs) with ht | ⟨t, ⟨a, i⟩, ht⟩
  · rw [PresentAfter, ht] at h
    exact ⟨by rw [ht]; rfl, Or.inr h⟩
  · rw [List.concat_eq_append] at ht
    rw [PresentAfter, ht, List.getLast?_concat] at h
    have ha : a = .destroyed := Classical.not_not.1 h
    subst ha
    refine ⟨by rw [ht, sinceDestroyed_concat_destroyed], Or.inl ?_⟩
    rw [ht]
    simp

/-- A room brought in and present has arrived since its last `destroyed`. -/
theorem sinceDestroyed_ne_nil (hp : PresentAfter L0 x evs) (hb : BroughtIn L0 x evs) :
    sinceDestroyed (timeline x evs) ≠ [] := by
  rcases List.eq_nil_or_concat (timeline x evs) with ht | ⟨t, ⟨a, i⟩, ht⟩
  · -- with no action, present means it stood in `L0`, so nothing brought it in
    rw [PresentAfter, ht] at hp
    rw [BroughtIn, ht] at hb
    simp_all
  · rw [List.concat_eq_append] at ht
    rw [PresentAfter, ht, List.getLast?_concat] at hp
    rw [ht, sinceDestroyed_concat hp]
    simp

theorem arrival_lt (hne : sinceDestroyed (timeline x evs) ≠ []) : arrival x evs < evs.length := by
  cases hh : (sinceDestroyed (timeline x evs)).head? with
  | none => exact absurd (List.head?_eq_none_iff.1 hh) hne
  | some q =>
    rw [arrival, hh]
    exact snd_lt_of_mem_timeline (mem_of_mem_sinceDestroyed (List.mem_of_head? hh))

end Presence

/-! ### Settling a room -/

@[simp] theorem settle_nil (base : Entry) : settle base [] = base := rfl

/-- **Settling by one more action is patching by it.** -/
theorem settle_concat (base : Entry) (as : List Action) {a : Action} (hk : a.isKnown = true)
    (hd : a ≠ .destroyed) (id : String) :
    settle base (as ++ [a]) = (settle base as).apply (patchFor id a) := by
  cases a with
  | created => simp [settle, lifecycle, readiness, patchFor, actionPatch, Entry.apply, Patch.blank]
  | started => simp [settle, lifecycle, readiness, patchFor, actionPatch, Entry.apply]
  | ready => simp [settle, lifecycle, readiness, patchFor, actionPatch, Entry.apply]
  | stopped => simp [settle, lifecycle, readiness, patchFor, actionPatch, Entry.apply]
  | paused => simp [settle, lifecycle, readiness, patchFor, actionPatch, Entry.apply]
  | destroyed => exact absurd rfl hd
  | other name => simp [Action.isKnown] at hk

/-! ## The fold keeps the projection -/

section Step

variable {L0 : List Entry} {evs : List ServerEvent} {L : List Entry}

/-- An event that takes no known action on any room changes no reading. -/
theorem Projection.skip (hp : Projection L0 evs L) {ev : ServerEvent}
    (hev : ∀ y, ev.actionOn y = none) : Projection L0 (evs ++ [ev]) L := by
  have ht : ∀ y, timeline y (evs ++ [ev]) = timeline y evs := fun y => by
    rw [timeline_concat, hev y]
    simp
  obtain ⟨hnd, hpres, hset, F, hids, hF, hpair⟩ := hp
  have hsurv : survivors L0 (evs ++ [ev]) = survivors L0 evs := by simp only [survivors, ht]
  refine ⟨hnd, fun x => (hpres x).trans (presentAfter_congr (ht x)).symm, fun e he => ?_,
    F, hsurv ▸ hids,
    fun x => (hF x).trans (and_congr_right fun _ => (broughtIn_congr (ht x)).symm), ?_⟩
  · rw [settled_congr (ht _)]
    exact hset e he
  · simpa only [arrival_congr (ht _)] using hpair

/-- **`destroyed` takes its room out**; every other room reads the same. -/
theorem Projection.destroy (hp : Projection L0 evs L) {ch : RoomChange}
    (hd : ch.action = .destroyed) : Projection L0 (evs ++ [.rooms ch]) (Plain.remove ch.id L) := by
  obtain ⟨hnd, hpres, hset, F, hids, hF, hpair⟩ := hp
  have hself := timeline_concat_self (by rw [hd]; rfl) evs
  rw [hd] at hself
  -- the room is gone afterwards, and was destroyed along the way
  have hgone : ¬ PresentAfter L0 ch.id (evs ++ [.rooms ch]) := by simp [PresentAfter, hself]
  have hdest : .destroyed ∈ (timeline ch.id (evs ++ [.rooms ch])).map (·.1) := by simp [hself]
  have hsurv : survivors L0 (evs ++ [.rooms ch]) = (survivors L0 evs).filter (· ≠ ch.id) := by
    simp only [survivors, List.filter_filter]
    refine List.filter_congr fun y _ => ?_
    by_cases hy : y = ch.id
    · subst hy
      simp [hdest]
    · simp [timeline_concat_other hy evs, hy]
  refine ⟨hnd.sublist (List.filter_sublist.map _), fun y => ?_, fun e he => ?_,
    F.filter (· ≠ ch.id), ?_, fun y => ?_, ?_⟩
  · rw [Plain.ids_remove, List.mem_filter]
    by_cases hy : y = ch.id
    · subst hy
      simp [hgone]
    · simp [hy, hpres, presentAfter_congr (timeline_concat_other hy evs)]
  · obtain ⟨heL, hne⟩ : e ∈ L ∧ e.id ≠ ch.id := by simpa [Plain.remove] using he
    rw [settled_congr (timeline_concat_other hne evs)]
    exact hset e heL
  · rw [Plain.ids_remove, hids, List.filter_append, hsurv]
  · rw [Plain.ids_remove, List.mem_filter, List.mem_filter, hF]
    by_cases hy : y = ch.id
    · simp [hy]
    · simp [hy, broughtIn_congr (timeline_concat_other hy evs)]
  · refine (hpair.filter _).imp_of_mem fun ha hb hab => ?_
    have ha' : _ ≠ ch.id := of_decide_eq_true (List.mem_filter.1 ha).2
    have hb' : _ ≠ ch.id := of_decide_eq_true (List.mem_filter.1 hb).2
    rwa [arrival_congr (timeline_concat_other ha' evs),
      arrival_congr (timeline_concat_other hb' evs)]

/-- **A known action on a room in the list patches it in place**; the list
keeps its ids and order. -/
theorem Projection.patch (hp : Projection L0 evs L) {ch : RoomChange}
    (hk : ch.action.isKnown = true) (hd : ch.action ≠ .destroyed) (hx : ch.id ∈ L.map (·.id)) :
    Projection L0 (evs ++ [.rooms ch])
      (Plain.upsert (.patch (patchFor ch.id ch.action)) .front L) := by
  obtain ⟨hnd, hpres, hset, F, hids, hF, hpair⟩ := hp
  have hself := timeline_concat_self hk evs
  rw [Plain.upsert_patch_of_mem (by rwa [patchFor_id]), patchFor_id]
  -- a room of `F` was brought in and is present, so it had arrived and keeps its arrival
  have harr : ∀ z ∈ F, arrival z (evs ++ [.rooms ch]) = arrival z evs := by
    intro z hz
    by_cases hzx : z = ch.id
    · subst hzx
      obtain ⟨hzL, hzb⟩ := (hF _).1 hz
      exact arrival_of_concat hd hself (sinceDestroyed_ne_nil ((hpres _).1 hzL) hzb)
    · exact arrival_congr (timeline_concat_other hzx evs)
  refine ⟨by rwa [Plain.ids_map_apply], fun y => ?_, fun e' he' => ?_, F, ?_, fun y => ?_, ?_⟩
  · rw [Plain.ids_map_apply]
    by_cases hy : y = ch.id
    · subst hy
      exact iff_of_true hx (presentAfter_of_concat hd hself)
    · exact (hpres y).trans (presentAfter_congr (timeline_concat_other hy evs)).symm
  · obtain ⟨e, he, rfl⟩ := List.mem_map.1 he'
    by_cases hex : e.id = ch.id
    · -- the patched room is its settling by one more action
      have hset' := hset e he
      rw [hex] at hset'
      rw [if_pos hex, Entry.apply_id, hex, start_congr' hd hself, recent_of_concat hd hself,
        settle_concat _ _ hk hd ch.id, ← hset']
    · rw [if_neg hex, settled_congr (timeline_concat_other hex evs)]
      exact hset e he
  · rw [Plain.ids_map_apply, hids, survivors_concat_known hk hd]
  · rw [Plain.ids_map_apply, hF, broughtIn_concat_known hk hd]
  · exact hpair.imp_of_mem fun ha hb hab => by rwa [harr _ ha, harr _ hb]

/-- **A known action on a room not in the list brings it in first**, made
from the action's patch; it is the latest arrival. -/
theorem Projection.arrive (hp : Projection L0 evs L) {ch : RoomChange}
    (hk : ch.action.isKnown = true) (hd : ch.action ≠ .destroyed) (hx : ch.id ∉ L.map (·.id)) :
    Projection L0 (evs ++ [.rooms ch])
      (Plain.upsert (.patch (patchFor ch.id ch.action)) .front L) := by
  obtain ⟨hnd, hpres, hset, F, hids, hF, hpair⟩ := hp
  have hself := timeline_concat_self hk evs
  rw [Plain.upsert_patch_front_of_not_mem (by rwa [patchFor_id])]
  -- absent before, the room has nothing since its last `destroyed` and comes in anew
  obtain ⟨hnil, hb⟩ := not_present_spec (mt (hpres _).2 hx)
  have hne : ∀ z ∈ L.map (·.id), z ≠ ch.id := fun z hz hzx => hx (hzx ▸ hz)
  have hidsF : ∀ z ∈ F, z ∈ L.map (·.id) := fun z hz => ((hF z).1 hz).1
  refine ⟨?_, fun y => ?_, fun e he => ?_, ch.id :: F, ?_, fun y => ?_, ?_⟩
  · simpa [hx] using hnd
  · simp only [List.map_cons, Entry.ofPatch_id, patchFor_id, List.mem_cons]
    by_cases hy : y = ch.id
    · subst hy
      exact iff_of_true (Or.inl rfl) (presentAfter_of_concat hd hself)
    · simp only [hy, false_or]
      exact (hpres y).trans (presentAfter_congr (timeline_concat_other hy evs)).symm
  · rcases List.mem_cons.1 he with rfl | he
    · -- the new room is the empty room settled by the one action since it came in
      have hstart : start L0 ch.id (evs ++ [.rooms ch]) = Entry.skeleton ch.id := by
        rw [start, if_pos ((broughtIn_of_concat hd hself).2 hb)]
      rw [Entry.ofPatch_id, patchFor_id, hstart, recent_of_concat hd hself, recent, hnil,
        List.map_nil, settle_concat _ _ hk hd ch.id, settle_nil, Entry.ofPatch, patchFor_id]
    · have hex := hne _ (List.mem_map_of_mem he)
      rw [settled_congr (timeline_concat_other hex evs)]
      exact hset e he
  · rw [List.map_cons, Entry.ofPatch_id, patchFor_id, hids, survivors_concat_known hk hd]
    rfl
  · rw [List.map_cons, Entry.ofPatch_id, patchFor_id, List.mem_cons, List.mem_cons, hF,
      broughtIn_concat_known hk hd]
    by_cases hy : y = ch.id
    · simp [hy, hb]
    · simp [hy]
  · -- the others arrived before this event; their arrivals stay
    have harr : ∀ z ∈ F, arrival z (evs ++ [.rooms ch]) = arrival z evs :=
      fun z hz => arrival_congr (timeline_concat_other (hne z (hidsF z hz)) evs)
    refine List.pairwise_cons.2 ⟨fun z hz => ?_, hpair.imp_of_mem fun ha hb hab => ?_⟩
    · rw [harr z hz, arrival_of_concat_nil hd hself hnil]
      exact arrival_lt (sinceDestroyed_ne_nil ((hpres z).1 (hidsF z hz)) ((hF z).1 hz).2)
    · rwa [harr _ ha, harr _ hb]

/-- **One event keeps the projection.** -/
theorem Projection.step (hp : Projection L0 evs L) (ev : ServerEvent) :
    Projection L0 (evs ++ [ev]) (Plain.fold ev L) := by
  cases ev with
  | rooms ch =>
    cases hk : ch.action.isKnown
    · rw [Plain.fold_not_known hk]
      exact hp.skip fun y => by simp [ServerEvent.actionOn, hk]
    · by_cases hd : ch.action = .destroyed
      · rw [Plain.fold_destroyed hd]
        exact hp.destroy hd
      · rw [Plain.fold_known hk hd]
        by_cases hx : ch.id ∈ L.map (·.id)
        · exact hp.patch hk hd hx
        · exact hp.arrive hk hd hx
  | pull st => exact hp.skip fun _ => rfl
  | unknown name data => exact hp.skip fun _ => rfl

/-- Every further run of events keeps it, by one event at a time. -/
theorem Projection.foldl (hp : Projection L0 evs L) (more : List ServerEvent) :
    Projection L0 (evs ++ more) (more.foldl (fun L ev => Plain.fold ev L) L) := by
  induction more generalizing evs L with
  | nil => simpa using hp
  | cons ev more ih =>
    rw [List.foldl_cons, ← List.singleton_append, ← List.append_assoc]
    exact ih (hp.step ev)

end Step

/-- Before any event, a list with distinct ids is its own projection. -/
theorem projection_nil {L0 : List Entry} (hnd : (L0.map (·.id)).Nodup) : Projection L0 [] L0 where
  nodup := hnd
  present _ := Iff.rfl
  settled e he := by
    have hin : e.id ∈ L0.map (·.id) := List.mem_map_of_mem he
    have hstart : start L0 e.id [] = e := by
      simp [start, BroughtIn, timeline, hin, find?_id_of_mem hnd he]
    rw [hstart]
    rfl
  order := by
    -- nothing is destroyed yet, so every room of the start survives
    have hsurv : survivors L0 [] = L0.map (·.id) := List.filter_eq_self.2 fun _ _ => rfl
    exact ⟨[], hsurv.symm, fun x => by simp [BroughtIn, timeline], List.Pairwise.nil⟩

/-- **Folding events into a coherent store leaves their projection** of the
room list it had published. -/
theorem foldEvents_projection {s : Store} (hs : Coherent s) (evs : List ServerEvent) :
    Projection s.snapshot.rooms evs (foldEvents s evs).snapshot.rooms := by
  have hnd : (s.snapshot.rooms.map (·.id)).Nodup := by
    rw [hs.snapshot_rooms]
    exact hs.ids_nodup
  have h := (projection_nil hnd).foldl evs
  rw [List.nil_append] at h
  rw [(hs.snapshot_foldEvents evs).2]
  exact h

/-- From the empty store, a room created and then started is folded into
its projection. -/
theorem foldEvents_projection_created_started :
    Coherent ({} : Store) ∧
      Projection ({} : Store).snapshot.rooms
        [.rooms ⟨"web", .created⟩, .rooms ⟨"web", .started⟩]
        (foldEvents {} [.rooms ⟨"web", .created⟩, .rooms ⟨"web", .started⟩]).snapshot.rooms
    :=
  ⟨coherent_empty, foldEvents_projection coherent_empty _⟩

end RoomConsole.Feed
