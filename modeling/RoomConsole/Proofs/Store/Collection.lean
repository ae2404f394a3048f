import RoomConsole.Store.Basic
import RoomConsole.Proofs.Room.Patch

/-!
# The room collection, read as a plain list

A collection is **keyed** when every room stands under its own id. A keyed
collection is nothing but its room list: its pairs are the rooms paired
with their ids (`Keyed.pairs_eq`), its keys are distinct ids, and lookup by
id is the first room of the list with that id.

`Plain` gives the collection's operations on a plain list of rooms:
replacing keeps one room per distinct id, where the id first occurs, with
its last value; an upsert replaces the named room where it stands or puts
the new one first or last; a removal keeps the others in their order. Each
operation of a keyed collection is its plain counterpart on the room list,
and leaves the collection keyed (`pairs_upsert`, `pairs_remove`,
`pairs_replaceAll`).
-/

namespace RoomConsole.Room

@[simp] theorem Upsert.fresh_id (u : Upsert) : u.fresh.id = u.id := by
  cases u <;> rfl

/-- An upsert keeps the id of the room it names. -/
theorem Upsert.onto_id (u : Upsert) {e : Entry} (h : e.id = u.id) : (u.onto e).id = u.id := by
  cases u with
  | full n => rfl
  | patch q => exact h

end RoomConsole.Room

namespace RoomConsole.Store

open RoomConsole.Room

namespace IndexMap

variable {α : Type} (m : IndexMap α) (k : String)

@[simp] theorem pairs_empty : (empty : IndexMap α).pairs = [] := rfl

@[simp] theorem pairs_modify (f : α → α) :
    (m.modify k f).pairs = m.pairs.map fun p => (p.1, if p.1 = k then f p.2 else p.2) := rfl

theorem insert_of_mem {v : α} (h : k ∈ m.keys) : m.insert k v = m.modify k fun _ => v := by
  rw [insert, dif_pos h]

theorem pairs_insert_of_not_mem {v : α} (h : k ∉ m.keys) :
    (m.insert k v).pairs = m.pairs ++ [(k, v)] := by
  rw [insert, dif_neg h]

@[simp] theorem pairs_shiftInsertFront (v : α) :
    (m.shiftInsertFront k v).pairs = (k, v) :: m.pairs.filter (·.1 ≠ k) := rfl

@[simp] theorem shiftRemove_fst : (m.shiftRemove k).1 = m.get? k := rfl

@[simp] theorem pairs_shiftRemove : (m.shiftRemove k).2.pairs = m.pairs.filter (·.1 ≠ k) := rfl

end IndexMap

/-! ## Keyed collections -/

/-- A room list with each room under its id. -/
def keyedPairs (L : List Entry) : List (String × Entry) := L.map fun e => (e.id, e)

@[simp] theorem keyedPairs_nil : keyedPairs [] = [] := rfl

@[simp] theorem keyedPairs_cons (e : Entry) (L : List Entry) :
    keyedPairs (e :: L) = (e.id, e) :: keyedPairs L := rfl

@[simp] theorem keyedPairs_append (L L' : List Entry) :
    keyedPairs (L ++ L') = keyedPairs L ++ keyedPairs L' := List.map_append

theorem keys_keyedPairs (L : List Entry) : (keyedPairs L).map (·.1) = L.map (·.id) := by
  simp [keyedPairs]

theorem values_keyedPairs (L : List Entry) : (keyedPairs L).map (·.2) = L := by
  simp [keyedPairs, Function.comp_def]

/-- Lookup by id in a keyed list is the first room with that id. -/
theorem lookup_keyedPairs (L : List Entry) (k : String) :
    (keyedPairs L).lookup k = L.find? (·.id = k) := by
  induction L with
  | nil => rfl
  | cons e L ih =>
    by_cases hk : e.id = k
    · simp [hk]
    · have hne : (k == e.id) = false := by simpa using Ne.symm hk
      simp [List.lookup_cons, hne, hk, ih]

/-- In a list of distinct ids, the first room with a room's id is that room. -/
theorem find?_id_of_mem {L : List Entry} (hd : (L.map (·.id)).Nodup) {e : Entry} (he : e ∈ L) :
    L.find? (·.id = e.id) = some e := by
  induction L with
  | nil => cases he
  | cons x L ih =>
    rw [List.map_cons, List.nodup_cons] at hd
    by_cases hx : x.id = e.id
    · -- `e` cannot sit further down: its id would then occur twice
      have hex : e = x := by
        rcases List.mem_cons.1 he with rfl | hL
        · rfl
        · exact absurd (hx ▸ List.mem_map_of_mem hL) hd.1
      simp [hex]
    · have hL : e ∈ L := by
        rcases List.mem_cons.1 he with rfl | hL
        · exact absurd rfl hx
        · exact hL
      simp [hx, ih hd.2 hL]

/-! ## The plain list model -/

namespace Plain

/-- One room per distinct id of `entries`, standing where the id first
occurs and carrying the id's last entry. -/
def replace (entries : List Entry) : List Entry :=
  (entries.map (·.id)).eraseDups.filterMap fun k => (entries.filter (·.id = k)).getLast?

/-- The list after an upsert: the room it names changed where it stands, or
else the new room first or last. -/
def upsert (u : Upsert) (p : Placement) (L : List Entry) : List Entry :=
  if u.id ∈ L.map (·.id) then L.map fun e => if e.id = u.id then u.onto e else e
  else
    match p with
    | .front => u.fresh :: L
    | .back => L ++ [u.fresh]

/-- The list without the room `id`, the others in their order. -/
def remove (id : String) (L : List Entry) : List Entry := L.filter (·.id ≠ id)

variable {entries : List Entry}

/-- An id of `entries` has a last entry, which carries it. -/
theorem exists_last_of_mem {k : String} (hk : k ∈ entries.map (·.id)) :
    ∃ x, (entries.filter (·.id = k)).getLast? = some x ∧ x.id = k := by
  obtain ⟨e, he, rfl⟩ := List.mem_map.1 hk
  have hne : entries.filter (·.id = e.id) ≠ [] :=
    List.ne_nil_of_mem (List.mem_filter.2 ⟨he, by simp⟩)
  obtain ⟨x, hx⟩ := Option.isSome_iff_exists.1 (List.getLast?_isSome.2 hne)
  exact ⟨x, hx, by simpa using (List.mem_filter.1 (List.mem_of_getLast? hx)).2⟩

/-- Reading the last entries of ids of `entries` keeps the ids. -/
theorem ids_filterMap_last {A : List String} (hA : ∀ k ∈ A, k ∈ entries.map (·.id)) :
    (A.filterMap fun k => (entries.filter (·.id = k)).getLast?).map (·.id) = A := by
  induction A with
  | nil => rfl
  | cons k A ih =>
    obtain ⟨x, hx, hxk⟩ := exists_last_of_mem (hA k (List.mem_cons_self ..))
    rw [List.filterMap_cons, hx, List.map_cons, hxk,
      ih fun k' hk' => hA k' (List.mem_cons_of_mem _ hk')]

/-- The ids of a replaced list are the distinct ids, by first occurrence. -/
theorem ids_replace (entries : List Entry) :
    (replace entries).map (·.id) = (entries.map (·.id)).eraseDups :=
  ids_filterMap_last fun _ hk => List.mem_eraseDups.1 hk

/-- A later entry for a known id takes the place of its last one. -/
theorem filterMap_last_concat {e : Entry} {A : List String}
    (hA : ∀ k ∈ A, k ∈ entries.map (·.id)) :
    (A.filterMap fun k => if e.id = k then some e else (entries.filter (·.id = k)).getLast?) =
      (A.filterMap fun k => (entries.filter (·.id = k)).getLast?).map
        fun x => if x.id = e.id then e else x := by
  induction A with
  | nil => rfl
  | cons k A ih =>
    obtain ⟨x, hx, hxk⟩ := exists_last_of_mem (hA k (List.mem_cons_self ..))
    have ih' := ih fun k' hk' => hA k' (List.mem_cons_of_mem _ hk')
    by_cases hk : e.id = k
    · have hxe : x.id = e.id := hxk.trans hk.symm
      simp only [List.filterMap_cons, if_pos hk, hx, List.map_cons, ih', if_pos hxe]
    · have hxe : ¬ x.id = e.id := fun h => hk (hxk ▸ h).symm
      simp only [List.filterMap_cons, if_neg hk, hx, List.map_cons, ih', if_neg hxe]

/-- An entry for a new id leaves the last entries of the others alone. -/
theorem filterMap_last_fresh {e : Entry} {A : List String} (hA : e.id ∉ A) :
    (A.filterMap fun k => if e.id = k then some e else (entries.filter (·.id = k)).getLast?) =
      A.filterMap fun k => (entries.filter (·.id = k)).getLast? := by
  induction A with
  | nil => rfl
  | cons k A ih =>
    rw [List.mem_cons, not_or] at hA
    rw [List.filterMap_cons, List.filterMap_cons, if_neg hA.1, ih hA.2]

/-- **Replacing, one entry at a time**: an entry whose id came before takes
that id's place with its own value; a new id goes last. -/
theorem replace_concat (es : List Entry) (e : Entry) :
    replace (es ++ [e]) =
      if e.id ∈ es.map (·.id) then (replace es).map fun x => if x.id = e.id then e else x
      else replace es ++ [e] := by
  have hlast : ∀ k, ((es ++ [e]).filter (·.id = k)).getLast? =
      if e.id = k then some e else (es.filter (·.id = k)).getLast? := by
    intro k
    by_cases hk : e.id = k <;> simp [List.filter_append, hk]
  have hsub : ∀ k ∈ (es.map (·.id)).eraseDups, k ∈ es.map (·.id) :=
    fun _ hk => List.mem_eraseDups.1 hk
  unfold replace
  simp only [hlast, List.map_append, List.map_cons, List.map_nil, List.eraseDups_append,
    List.filterMap_append]
  by_cases he : e.id ∈ es.map (·.id)
  · have hrm : [e.id].removeAll (es.map (·.id)) = [] := by
      simpa [List.removeAll] using he
    rw [hrm, List.eraseDups_nil, List.filterMap_nil, List.append_nil, if_pos he,
      filterMap_last_concat hsub]
  · have hrm : [e.id].removeAll (es.map (·.id)) = [e.id] := by
      simpa [List.removeAll] using he
    have hfresh : e.id ∉ (es.map (·.id)).eraseDups := fun h => he (hsub _ h)
    rw [hrm, if_neg he, filterMap_last_fresh hfresh]
    simp [List.eraseDups_cons]

end Plain

namespace Collection

/-- Every room of the collection stands under its own id. -/
def Keyed (c : Collection) : Prop := ∀ p ∈ c.byId.pairs, p.2.id = p.1

variable {c : Collection} {L : List Entry}

theorem keyed_of_pairs (h : c.byId.pairs = keyedPairs L) : c.Keyed := by
  intro p hp
  rw [h] at hp
  obtain ⟨e, -, rfl⟩ := List.mem_map.1 hp
  rfl

theorem toVec_of_pairs (h : c.byId.pairs = keyedPairs L) : c.toVec = L := by
  rw [toVec, IndexMap.values, h, values_keyedPairs]

/-- **A keyed collection is its room list**, each room under its id. -/
theorem Keyed.pairs_eq (h : c.Keyed) : c.byId.pairs = keyedPairs c.toVec := by
  simp only [keyedPairs, toVec, IndexMap.values, List.map_map]
  calc c.byId.pairs = c.byId.pairs.map id := (List.map_id _).symm
    _ = _ := List.map_congr_left fun p hp => by simp [h p hp]

theorem Keyed.mem_keys (h : c.Keyed) {k : String} :
    k ∈ c.byId.keys ↔ k ∈ c.toVec.map (·.id) := by
  rw [IndexMap.keys, h.pairs_eq, keys_keyedPairs]

/-- The rooms of a keyed collection have distinct ids. -/
theorem Keyed.ids_nodup (h : c.Keyed) : (c.toVec.map (·.id)).Nodup := by
  have hd := c.byId.distinct
  rwa [h.pairs_eq, keys_keyedPairs] at hd

theorem Keyed.get_eq (h : c.Keyed) (id : String) : c.get id = c.toVec.find? (·.id = id) := by
  rw [get, IndexMap.get?, h.pairs_eq, lookup_keyedPairs]

theorem Keyed.len_eq (h : c.Keyed) : c.len = c.toVec.length := by
  rw [len, IndexMap.size, h.pairs_eq, keyedPairs, List.length_map]

/-- In a keyed collection, the room under an id is the one room of the list
with that id. -/
theorem Keyed.get_eq_some_iff (h : c.Keyed) {id : String} {e : Entry} :
    c.get id = some e ↔ e ∈ c.toVec ∧ e.id = id := by
  rw [h.get_eq]
  constructor
  · intro he
    exact ⟨List.mem_of_find?_eq_some he, by simpa using List.find?_some he⟩
  · rintro ⟨he, rfl⟩
    exact find?_id_of_mem h.ids_nodup he

theorem Keyed.get_isSome_iff (h : c.Keyed) {id : String} :
    (c.get id).isSome ↔ id ∈ c.toVec.map (·.id) := by
  rw [h.get_eq, List.find?_isSome, List.mem_map]
  simp

/-! ## Each operation is its plain counterpart -/

/-- **Upserting** into a keyed collection is upserting into its list. -/
theorem pairs_upsert (h : c.Keyed) (u : Upsert) (p : Placement) :
    (c.upsert u p).1.byId.pairs = keyedPairs (Plain.upsert u p c.toVec) := by
  unfold upsert
  cases hg : c.byId.get? u.id with
  | some e =>
    have hmem : u.id ∈ c.toVec.map (·.id) := h.get_isSome_iff.1 (by simp [get, hg])
    simp only [Plain.upsert, if_pos hmem, IndexMap.pairs_modify, h.pairs_eq, keyedPairs,
      List.map_map]
    refine List.map_congr_left fun x _ => ?_
    by_cases hx : x.id = u.id
    · simp [hx, Upsert.onto_id u hx]
    · simp [hx]
  | none =>
    have hmem : u.id ∉ c.toVec.map (·.id) := fun hm => by
      simpa [get, hg] using h.get_isSome_iff.2 hm
    have hkeys : u.id ∉ c.byId.keys := fun hk => hmem (h.mem_keys.1 hk)
    cases p with
    | front =>
      have hkeep : (keyedPairs c.toVec).filter (·.1 ≠ u.id) = keyedPairs c.toVec := by
        refine List.filter_eq_self.2 fun q hq => ?_
        have hq1 : q.1 ∈ c.toVec.map (·.id) := by
          rw [← keys_keyedPairs]
          exact List.mem_map_of_mem hq
        exact decide_eq_true fun hq' => hmem (hq' ▸ hq1)
      simp only [Plain.upsert, if_neg hmem, IndexMap.pairs_shiftInsertFront,
        Upsert.fresh_id, h.pairs_eq, hkeep, keyedPairs_cons]
    | back =>
      simp only [Plain.upsert, if_neg hmem, Upsert.fresh_id]
      rw [IndexMap.pairs_insert_of_not_mem _ _ (by simpa using hkeys), h.pairs_eq,
        keyedPairs_append, keyedPairs_cons, keyedPairs_nil, Upsert.fresh_id]

/-- **Removing** from a keyed collection is removing from its list. -/
theorem pairs_remove (h : c.Keyed) (id : String) :
    (c.remove id).2.byId.pairs = keyedPairs (Plain.remove id c.toVec) := by
  simp [remove, Plain.remove, h.pairs_eq, keyedPairs, List.filter_map, Function.comp_def]

/-- The room removed is the room of the list with that id. -/
theorem remove_fst (h : c.Keyed) (id : String) : (c.remove id).1 = c.toVec.find? (·.id = id) := by
  simp [remove, ← h.get_eq, get]

/-- Inserting a room into a replacement replaces by one entry more. -/
theorem pairs_insert_replace {m : IndexMap Entry} {pre : List Entry}
    (hm : m.pairs = keyedPairs (Plain.replace pre)) (e : Entry) :
    (m.insert e.id e).pairs = keyedPairs (Plain.replace (pre ++ [e])) := by
  have hkeys : e.id ∈ m.keys ↔ e.id ∈ pre.map (·.id) := by
    rw [IndexMap.keys, hm, keys_keyedPairs, Plain.ids_replace, List.mem_eraseDups]
  rw [Plain.replace_concat]
  by_cases he : e.id ∈ pre.map (·.id)
  · rw [if_pos he, IndexMap.insert_of_mem _ _ (hkeys.2 he), IndexMap.pairs_modify, hm]
    simp only [keyedPairs, List.map_map]
    refine List.map_congr_left fun x _ => ?_
    by_cases hx : x.id = e.id <;> simp [hx]
  · rw [if_neg he, IndexMap.pairs_insert_of_not_mem _ _ (mt hkeys.1 he), hm, keyedPairs_append,
      keyedPairs_cons, keyedPairs_nil]

/-- Inserting rooms one by one into a replacement replaces by all of them. -/
theorem pairs_foldl_insert (es : List Entry) :
    ∀ {m : IndexMap Entry} {pre : List Entry}, m.pairs = keyedPairs (Plain.replace pre) →
      (es.foldl (fun m e => m.insert e.id e) m).pairs = keyedPairs (Plain.replace (pre ++ es)) := by
  induction es with
  | nil => intro m pre hm; simpa using hm
  | cons e es ih =>
    intro m pre hm
    rw [List.foldl_cons, ih (pairs_insert_replace hm e), List.append_assoc, List.singleton_append]

/-- **Replacing** gives the plain replacement, each room under its id. -/
theorem pairs_replaceAll (entries : List Entry) :
    (replaceAll entries).byId.pairs = keyedPairs (Plain.replace entries) :=
  pairs_foldl_insert entries (show IndexMap.empty.pairs = keyedPairs (Plain.replace []) from rfl)

theorem keyed_replaceAll (entries : List Entry) : (replaceAll entries).Keyed :=
  keyed_of_pairs (pairs_replaceAll entries)

theorem Keyed.upsert (h : c.Keyed) (u : Upsert) (p : Placement) : (c.upsert u p).1.Keyed :=
  keyed_of_pairs (pairs_upsert h u p)

theorem toVec_upsert (h : c.Keyed) (u : Upsert) (p : Placement) :
    (c.upsert u p).1.toVec = Plain.upsert u p c.toVec :=
  toVec_of_pairs (pairs_upsert h u p)

/-- An upsert answers whether the id was new. -/
theorem upsert_snd (h : c.Keyed) (u : Upsert) (p : Placement) :
    (c.upsert u p).2 = decide (u.id ∉ c.toVec.map (·.id)) := by
  have hiff : (c.get u.id).isSome ↔ u.id ∈ c.toVec.map (·.id) := h.get_isSome_iff
  unfold upsert
  cases hg : c.byId.get? u.id with
  | some e =>
    have hmem : u.id ∈ c.toVec.map (·.id) := hiff.1 (by simp [get, hg])
    simp [hmem]
  | none =>
    have hmem : u.id ∉ c.toVec.map (·.id) := fun hm => by simpa [get, hg] using hiff.2 hm
    simp [hmem]

theorem Keyed.remove (h : c.Keyed) (id : String) : (c.remove id).2.Keyed :=
  keyed_of_pairs (pairs_remove h id)

theorem toVec_remove (h : c.Keyed) (id : String) :
    (c.remove id).2.toVec = Plain.remove id c.toVec :=
  toVec_of_pairs (pairs_remove h id)

/-- Removing an id the collection lacks leaves its rooms as they were. -/
theorem toVec_remove_of_none (h : c.Keyed) {id : String} (hn : (c.remove id).1 = none) :
    (c.remove id).2.toVec = c.toVec := by
  rw [toVec_remove h, Plain.remove, List.filter_eq_self]
  intro x hx
  rw [remove_fst h, List.find?_eq_none] at hn
  exact decide_eq_true fun hxid => hn x hx (decide_eq_true hxid)

theorem toVec_replaceAll (entries : List Entry) :
    (replaceAll entries).toVec = Plain.replace entries :=
  toVec_of_pairs (pairs_replaceAll entries)

end Collection

end RoomConsole.Store
