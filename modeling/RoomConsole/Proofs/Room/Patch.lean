import RoomConsole.Room.Entry

/-!
# The algebra of patches

A patch overwrites the fields it carries and keeps the others, so patches
compose as a last-writer-wins merge: two patches in a row are one patch
taking each field from the later one when it carries it and from the
earlier one otherwise (`Entry.apply_apply`). A patch applied twice is
applied once (`Entry.apply_apply_self`), and none touches the id.

A patch is empty when it is the blank patch of its id. That is a statement
about its fields, and it is also exactly what `apply` can see: an empty
patch fixes every room, and a patch that fixes every room of its id is empty
(`Patch.isEmpty_iff_fixes`). The second half needs two rooms of that id that
differ in every field a patch can set: a patch that sets a field moves one
of the two.
-/

namespace RoomConsole.Room

/-- A patch keeps the id. -/
@[simp] theorem Entry.apply_id (e : Entry) (q : Patch) : (e.apply q).id = e.id := rfl

@[simp] theorem Entry.ofPatch_id (q : Patch) : (Entry.ofPatch q).id = q.id := rfl

@[simp] theorem Patch.blank_id (id : String) : (Patch.blank id).id = id := rfl

/-- **Two patches in a row are their merge.** -/
theorem Entry.apply_apply (e : Entry) (p q : Patch) : (e.apply p).apply q = e.apply (p.merge q) := by
  simp only [Entry.apply, Patch.merge, Option.getD_or, Option.or_assoc]

@[simp] theorem Patch.merge_self (p : Patch) : p.merge p = p := by
  cases p
  simp only [Patch.merge, Option.or_self]

/-- Applying a patch twice is applying it once. -/
theorem Entry.apply_apply_self (e : Entry) (p : Patch) : (e.apply p).apply p = e.apply p := by
  rw [Entry.apply_apply, Patch.merge_self]

theorem Patch.isEmpty_iff {p : Patch} : p.isEmpty = true ↔ p = Patch.blank p.id := by
  simp only [Patch.isEmpty, beq_iff_eq]

/-- A patch that carries no field changes no room. -/
theorem Entry.apply_of_isEmpty {q : Patch} (hq : q.isEmpty = true) (e : Entry) :
    e.apply q = e := by
  rw [Patch.isEmpty_iff.1 hq]
  rfl

/-- An optional field that keeps two different fallbacks is absent. -/
theorem Patch.eq_none_of_getD {α : Type} {o : Option α} {a b : α} (hab : a ≠ b)
    (ha : o.getD a = a) (hb : o.getD b = b) : o = none := by
  cases o with
  | none => rfl
  | some v =>
    simp only [Option.getD_some] at ha hb
    exact absurd (ha.symm.trans hb) hab

/-- A patch that fixes every room of its id carries no field. -/
theorem Patch.isEmpty_of_fixes {p : Patch} (h : ∀ e : Entry, e.id = p.id → e.apply p = e) :
    p.isEmpty = true := by
  -- the skeleton and a room unlike it in every field a patch can set
  have h0 := h (Entry.skeleton p.id) rfl
  have h1 := h
    { id := p.id, url := "-", name := "-", image := "-", outdated := true, maxConnections := 1,
      running := true, paused := true, ready := true, status := "-", labels := [("", "")] } rfl
  rcases p with ⟨id, url, name, image, outdated, maxConnections, running, paused, ready, status,
    created, labels⟩
  simp only [Entry.apply, Entry.skeleton, Entry.mk.injEq, true_and] at h0 h1
  obtain ⟨u0, n0, i0, o0, m0, r0, p0, d0, s0, c0, l0⟩ := h0
  obtain ⟨u1, n1, i1, o1, m1, r1, p1, d1, s1, -, l1⟩ := h1
  have hc : created = none := by simpa using c0
  rw [Patch.isEmpty_iff, Patch.eq_none_of_getD (by decide) u0 u1,
    Patch.eq_none_of_getD (by decide) n0 n1, Patch.eq_none_of_getD (by decide) i0 i1,
    Patch.eq_none_of_getD (by decide) o0 o1, Patch.eq_none_of_getD (by decide) m0 m1,
    Patch.eq_none_of_getD (by decide) r0 r1, Patch.eq_none_of_getD (by decide) p0 p1,
    Patch.eq_none_of_getD (by decide) d0 d1, Patch.eq_none_of_getD (by decide) s0 s1, hc,
    Patch.eq_none_of_getD (by decide) l0 l1]
  rfl

/-- **A patch is empty exactly when it can change no room of its id.** -/
theorem Patch.isEmpty_iff_fixes {p : Patch} :
    p.isEmpty = true ↔ ∀ e : Entry, e.id = p.id → e.apply p = e :=
  ⟨fun h e _ => Entry.apply_of_isEmpty h e, Patch.isEmpty_of_fixes⟩

end RoomConsole.Room
