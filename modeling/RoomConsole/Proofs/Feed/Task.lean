import Mathlib
import RoomConsole.Feed.Task

/-!
# The feed task, step by step

What one step of each task does, said once, so that what a run keeps is
argued once per kind of step: the feed task's moves (`FeedTask.next_*`),
what folding an event spawns (`FeedTask.handle_*`), and the events a feed
sent, which only ever grow at their end (`FeedRun.feedStep_sent`). A
hydration takes one fetch out of those in flight
(`FeedRun.hydrationStep_eq`). A run is cut anywhere (`FeedRun.run_append`),
and what every step keeps, every run keeps (`FeedRun.run_preserves`).

A receiver only ever loses messages from its front: a message sent is kept
at its end, and receiving takes the oldest one.
-/

namespace RoomConsole

open RoomConsole.Event

/-! ## Receivers -/

namespace Inbox

variable {α : Type}

/-- What an optional receiver has yet to receive. -/
def queued : Option (Inbox α) → List α
  | none => []
  | some b => b.pending

@[simp] theorem queued_none : queued (none : Option (Inbox α)) = [] := rfl

@[simp] theorem queued_some (b : Inbox α) : queued (some b) = b.pending := rfl

/-- A message sent is kept at the end, and only the oldest may go. -/
theorem push_pending (b : Inbox α) (a : α) : (b.push a).pending.Sublist (b.pending ++ [a]) := by
  unfold push
  split
  · exact List.Sublist.refl _
  · exact (List.tail_sublist _).append_right [a]

theorem queued_map_push (r : Option (Inbox α)) (a : α) :
    (queued (r.map (·.push a))).Sublist (queued r ++ [a]) := by
  cases r with
  | none => exact List.nil_sublist _
  | some b => exact push_pending b a

/-- Receiving a message takes the oldest one kept. -/
theorem take_message {b b' : Inbox α} {a : α} (h : b.take = some (.message a, b')) :
    b.pending = a :: b'.pending := by
  unfold take at h
  split at h
  · cases h
  · split at h
    · cases h
    · next x rest hp =>
      cases h
      exact hp

/-- Being told of skipped messages keeps the messages kept. -/
theorem take_lagged {b b' : Inbox α} {n : Nat} (h : b.take = some (.lagged n, b')) :
    b'.pending = b.pending := by
  unfold take at h
  split at h
  · cases h
    rfl
  · split at h <;> cases h

end Inbox

/-! ## The feed task's moves -/

namespace FeedTask

variable {c : Bool} {f : FeedTask}

/-- An ended task does not move. -/
theorem next_of_final (h : f.final.isSome = true) : f.next c = none := by
  simp [next, h]

/-- A cancelled token ends the task before anything is read. -/
theorem next_cancelled (h : f.final = none) :
    f.next true = some (.finish .closed, { f with final := some .closed }) := by
  simp [next, h]

theorem next_ok {e : ServerEvent} {rest : List (Except Client.Error ServerEvent)} (h : f.final = none)
    (hi : f.items = .ok e :: rest) : f.next false = some (.event e, { f with items := rest }) := by
  simp [next, h, hi]

theorem next_deserialization {m body : String} {rest : List (Except Client.Error ServerEvent)}
    (h : f.final = none) (hi : f.items = .error (.deserialization m body) :: rest) :
    f.next false = some (.skip, { f with items := rest }) := by
  simp [next, h, hi]

theorem next_error {err : Client.Error} {rest : List (Except Client.Error ServerEvent)}
    (h : f.final = none) (hi : f.items = .error err :: rest)
    (hne : ∀ m body, err ≠ .deserialization m body) :
    f.next false = some (.finish (.failed err.message), { f with final := some (.failed err.message) }) := by
  cases err with
  | deserialization m body => exact absurd rfl (hne m body)
  | _ => simp [next, h, hi]

/-- At the end of what was sent, the task ends when the server ended the
stream, and waits while it keeps it open. -/
theorem next_nil (h : f.final = none) (hi : f.items = []) :
    f.next false = if f.ends then some (.finish .closed, { f with final := some .closed }) else none := by
  simp [next, h, hi]

/-- Once its token is cancelled, the task's one move is to end `Closed`. -/
theorem next_true {mv : Move} {f' : FeedTask} (h : f.next true = some (mv, f')) : mv = .finish .closed := by
  cases hf : f.final with
  | none =>
    rw [next_cancelled hf] at h
    cases h
    rfl
  | some st =>
    have hend : f.final.isSome = true := by simp [hf]
    rw [next_of_final hend] at h
    cases h

/-- A task over a stream the server keeps open, in which every item left is
an event or a payload that does not decode: nothing it reads ends it. -/
def Endless (f : FeedTask) : Prop :=
  f.ends = false ∧ ∀ x ∈ f.items, ∀ err, x = .error err → ∃ m body, err = .deserialization m body

/-- **An endless task that runs keeps running** while its token stands. -/
theorem Endless.next {mv : Move} {f' : FeedTask} (he : f.Endless) (hf : f.final = none)
    (h : f.next false = some (mv, f')) : f'.final = none ∧ f'.Endless := by
  obtain ⟨hends, hitems⟩ := he
  unfold FeedTask.next at h
  simp only [hf, Option.isSome_none, Bool.false_eq_true, if_false] at h
  split at h
  · simp [hends] at h
  · next e rest heq =>
    cases h
    exact ⟨rfl, hends, fun x hx => hitems x (heq ▸ List.mem_cons_of_mem _ hx)⟩
  · next m body rest heq =>
    cases h
    exact ⟨rfl, hends, fun x hx => hitems x (heq ▸ List.mem_cons_of_mem _ hx)⟩
  · next err rest hne heq =>
    -- an error that ends the task is not in an endless stream
    obtain ⟨m, body, rfl⟩ := hitems _ (heq ▸ List.mem_cons_self) err rfl
    exact absurd rfl (hne m body)

/-- Folding makes the same store whether or not it spawns a fetch. -/
@[simp] theorem handle_fst (hydrate : Bool) (s : Store) (e : ServerEvent) :
    (handle hydrate s e).1 = (foldEvent s e).1 := by
  unfold handle
  split <;> rename_i heq <;> rw [heq]

/-- Without hydration nothing is spawned. -/
theorem handle_false (s : Store) (e : ServerEvent) : handle false s e = ((foldEvent s e).1, none) := by
  unfold handle
  split <;> rename_i heq <;> simp [heq]

end FeedTask

/-! ## A feed and its hydrations -/

namespace FeedRun

variable {net : Http.Network} {c : Client} {hydrate : Bool} {r r' : FeedRun}

/-- **The events sent grow at their end**, by the one the step sent. -/
theorem feedStep_sent {x : Option ServerEvent} (h : r.feedStep hydrate = some (r', x)) :
    r'.sent = r.sent ++ x.toList := by
  unfold feedStep at h
  split at h
  · cases h
  · cases h
    rfl
  · cases h
    simp

/-- An ended feed task does not move. -/
theorem feedStep_of_final (h : r.task.final.isSome = true) : r.feedStep hydrate = none := by
  simp [feedStep, FeedTask.next_of_final h]

/-- A hydration takes one fetch out of those in flight and writes its
answer. -/
theorem hydrationStep_eq {i : Nat} (h : r.hydrationStep net c i = some r') :
    ∃ id, r.pending[i]? = some id ∧
      r' = { r with store := FeedTask.hydrated net c r.store id, pending := r.pending.eraseIdx i } := by
  unfold hydrationStep at h
  split at h
  · cases h
  · next id hid =>
    cases h
    exact ⟨id, hid, rfl⟩

theorem run_append (r : FeedRun) (ms ns : List Mover) :
    r.run net c hydrate (ms ++ ns) = (r.run net c hydrate ms).bind fun r' => r'.run net c hydrate ns := by
  induction ms generalizing r with
  | nil => rfl
  | cons m ms ih => simp only [List.cons_append, run, ih, Option.bind_assoc]

/-- What every step keeps, every run keeps. -/
theorem run_preserves {P : FeedRun → Prop}
    (hstep : ∀ {r r' : FeedRun} {m : Mover}, P r → r.step net c hydrate m = some r' → P r')
    {ms : List Mover} (hp : P r) (h : r.run net c hydrate ms = some r') : P r' := by
  induction ms generalizing r with
  | nil =>
    cases h
    exact hp
  | cons m ms ih =>
    obtain ⟨r₁, h₁, h₂⟩ := Option.bind_eq_some_iff.1 h
    exact ih (hstep hp h₁) h₂

end FeedRun

end RoomConsole
