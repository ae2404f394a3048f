import RoomConsole.Proofs.Feed.Task

/-!
# Hydrations run on their own

A hydration writes the store when the server answers, whatever the feed
folded meanwhile and whether or not the feed was shut down. So a fetch
spawned for `created x` that answers after `destroyed x` was folded puts
`x` back, and one still in flight when the shutdown returns writes the
store after it (`hydration_outlives_destroy_and_shutdown`).

What does hold is said by two invariants. Once the feed task has ended,
and so once the shutdown has returned, the store changes only by the
fetches in flight, each at most once, each writing the server's answer for
its room (`run_of_ended`). And where the feed is headed (`outcome`: let
every fetch in flight answer, then fold the rest of the stream fetching
each created room at once, as `foldItems` does) is kept by every step of a
prompt schedule, in which the feed reads on only once its fetches have
answered and nobody shuts it down (`outcome_step`). A prompt run that has
ended with nothing in flight is therefore the sequential fold
(`prompt_run_folds_items`). The main statement is
`hydrations_after_end_and_when_prompt`.
-/

namespace RoomConsole

open RoomConsole.Event

namespace FeedRun

variable {net : Http.Network} {c : Client} {hydrate : Bool} {r r' : FeedRun}

/-! ## After the feed task ended -/

/-- **After its end, only the fetches in flight write the store.** Every run
from a feed whose task has ended lets some of the fetches in flight answer,
each once, and changes the store by their answers alone; the events sent
stay as they were. -/
theorem run_of_ended {ms : List Mover} (h : r.run net c hydrate ms = some r')
    (hend : r.task.final.isSome = true) :
    ∃ ids, (ids ++ r'.pending).Perm r.pending ∧
      r'.store = ids.foldl (FeedTask.hydrated net c) r.store ∧ r'.sent = r.sent := by
  induction ms generalizing r with
  | nil =>
    cases h
    exact ⟨[], List.Perm.refl _, rfl, rfl⟩
  | cons m ms ih =>
    obtain ⟨r₁, h₁, h₂⟩ := Option.bind_eq_some_iff.1 h
    cases m with
    | feed =>
      -- the ended task does not move
      simp [step, feedStep_of_final hend] at h₁
    | hydration i =>
      obtain ⟨id, hid, rfl⟩ := hydrationStep_eq h₁
      obtain ⟨ids, hperm, hstore, hsent⟩ := ih h₂ hend
      have hi : i < r.pending.length := (List.getElem?_eq_some_iff.1 hid).1
      have hget : r.pending[i] = id := (List.getElem?_eq_some_iff.1 hid).2
      refine ⟨id :: ids, ?_, hstore, hsent⟩
      -- the fetch answered is put back in front of those still in flight
      have hback : (id :: r.pending.eraseIdx i).Perm r.pending := hget ▸ List.getElem_cons_eraseIdx_perm hi
      exact (hperm.cons id).trans hback
    | shutdown =>
      cases h₁
      exact @ih r.cancel h₂ hend

/-- With nothing in flight, an ended feed leaves the store as it is. -/
theorem run_of_ended_idle (hend : r.task.final.isSome = true) (hidle : r.pending = [])
    {ms : List Mover} (h : r.run net c hydrate ms = some r') : r'.store = r.store := by
  obtain ⟨ids, hperm, hstore, -⟩ := run_of_ended h hend
  have hnil : ids = [] := by
    have hlen := hperm.length_eq
    simp only [hidle, List.length_append, List.length_nil] at hlen
    exact List.eq_nil_of_length_eq_zero (by omega)
  rw [hstore, hnil, List.foldl_nil]

/-! ## Prompt runs -/

/-- Folding an event and letting the fetch it spawned answer at once is
the sequential fold's step. -/
theorem foldItems_ok_hydrated (s : Store) (seen : List ServerEvent) (e : ServerEvent)
    (rest : List (Except Client.Error ServerEvent)) :
    foldItems net c hydrate s seen (.ok e :: rest) =
      foldItems net c hydrate
        ((FeedTask.handle hydrate s e).2.toList.foldl (FeedTask.hydrated net c) (FeedTask.handle hydrate s e).1)
        (e :: seen) rest := by
  rw [foldItems]
  unfold FeedTask.handle
  rcases foldEvent s e with ⟨s', fd⟩
  cases fd <;> cases hydrate <;> rfl

/-- Where the feed is headed: every fetch in flight answers, then the rest
of the stream is folded with each created room fetched at once. -/
def outcome (net : Http.Network) (c : Client) (hydrate : Bool) (r : FeedRun) :
    Store × List ServerEvent × FeedState :=
  match r.task.final with
  | none => foldItems net c hydrate (r.pending.foldl (FeedTask.hydrated net c) r.store) r.sent.reverse r.task.items
  | some st => (r.pending.foldl (FeedTask.hydrated net c) r.store, r.sent, st)

/-- A feed that nobody shut down, over a stream the server ends, with at
most one fetch in flight. -/
structure Steady (r : FeedRun) : Prop where
  uncancelled : r.cancelled = false
  ends : r.task.ends = true
  inFlight : r.pending.length ≤ 1

/-- A schedule is prompt when the feed task reads on only once every fetch
it spawned has answered, and nobody shuts the feed down. -/
def Prompt (net : Http.Network) (c : Client) (hydrate : Bool) : FeedRun → List Mover → Prop
  | _, [] => True
  | r, m :: ms => (m = .feed → r.pending = []) ∧ m ≠ .shutdown ∧
      match r.step net c hydrate m with
      | none => True
      | some r' => Prompt net c hydrate r' ms

instance Prompt.decide : ∀ r ms, Decidable (Prompt net c hydrate r ms)
  | _, [] => isTrue trivial
  | r, m :: ms =>
    have : Decidable (match r.step net c hydrate m with
        | none => True
        | some r' => Prompt net c hydrate r' ms) :=
      match r.step net c hydrate m with
      | none => isTrue trivial
      | some r' => Prompt.decide r' ms
    inferInstanceAs (Decidable (_ ∧ _ ∧ _))

/-- The feed task's step, with nothing in flight, keeps where the feed is
headed. -/
theorem outcome_feed (hs : Steady r) (hidle : r.pending = []) {x : Option ServerEvent}
    (h : r.feedStep hydrate = some (r', x)) :
    Steady r' ∧ outcome net c hydrate r' = outcome net c hydrate r := by
  obtain ⟨hc, hends, -⟩ := hs
  obtain ⟨⟨items, tends, final⟩, store, pending, sent, cancelled⟩ := r
  dsimp only at hc hends hidle
  subst hc hends hidle
  cases final with
  | some st => simp [feedStep, FeedTask.next] at h
  | none =>
    cases items with
    | nil =>
      -- the server ends the stream: the task ends `Closed`
      simp only [feedStep, FeedTask.next, Option.isSome_none, Bool.false_eq_true, if_false, if_true,
        Option.some.injEq, Prod.mk.injEq] at h
      obtain ⟨rfl, rfl⟩ := h
      exact ⟨⟨rfl, rfl, by simp⟩, by simp [outcome, foldItems]⟩
    | cons item rest =>
      cases item with
      | ok e =>
        simp only [feedStep, FeedTask.next, Option.isSome_none, Bool.false_eq_true, if_false,
          Option.some.injEq, Prod.mk.injEq] at h
        obtain ⟨rfl, rfl⟩ := h
        refine ⟨⟨rfl, rfl, ?_⟩, ?_⟩
        · cases (FeedTask.handle hydrate store e).2 <;> simp
        · simp only [outcome, List.nil_append, List.foldl_nil, List.reverse_append, List.reverse_cons,
            List.reverse_nil, List.nil_append, List.singleton_append]
          exact (foldItems_ok_hydrated store sent.reverse e rest).symm
      | error err =>
        cases err with
        | deserialization m body =>
          simp only [feedStep, FeedTask.next, Option.isSome_none, Bool.false_eq_true, if_false,
            Option.some.injEq, Prod.mk.injEq] at h
          obtain ⟨rfl, rfl⟩ := h
          exact ⟨⟨rfl, rfl, by simp⟩, by simp [outcome, foldItems]⟩
        | _ =>
          simp only [feedStep, FeedTask.next, Option.isSome_none, Bool.false_eq_true, if_false,
            Option.some.injEq, Prod.mk.injEq] at h
          obtain ⟨rfl, rfl⟩ := h
          exact ⟨⟨rfl, rfl, by simp⟩, by simp [outcome, foldItems]⟩

/-- A fetch answering keeps where the feed is headed: its answer is the
first of those `outcome` lets in. -/
theorem outcome_hydration (hs : Steady r) {i : Nat} (h : r.hydrationStep net c i = some r') :
    Steady r' ∧ outcome net c hydrate r' = outcome net c hydrate r := by
  obtain ⟨id, hid, rfl⟩ := hydrationStep_eq h
  -- at most one fetch is in flight, so it is the one at position 0
  have hi : i < r.pending.length := (List.getElem?_eq_some_iff.1 hid).1
  have hlen : r.pending.length = 1 := by
    have := hs.inFlight
    omega
  have hi0 : i = 0 := by omega
  subst hi0
  obtain ⟨a, ha⟩ := List.length_eq_one_iff.1 hlen
  rw [ha] at hid
  simp only [List.getElem?_cons_zero, Option.some.injEq] at hid
  subst hid
  refine ⟨⟨hs.uncancelled, hs.ends, by simp [ha]⟩, ?_⟩
  unfold outcome
  simp only [ha, List.eraseIdx_cons_zero, List.foldl_nil, List.foldl_cons]

/-- **Every step of a prompt schedule keeps where the feed is headed.** -/
theorem outcome_step {m : Mover} (hs : Steady r) (hpf : m = .feed → r.pending = [])
    (hm : m ≠ .shutdown) (h : r.step net c hydrate m = some r') :
    Steady r' ∧ outcome net c hydrate r' = outcome net c hydrate r := by
  cases m with
  | feed =>
    obtain ⟨⟨r₁, x⟩, h₁, rfl⟩ := Option.map_eq_some_iff.1 h
    exact outcome_feed hs (hpf rfl) h₁
  | hydration i => exact outcome_hydration hs h
  | shutdown => exact absurd rfl hm

theorem Prompt.outcome_run {ms : List Mover} (hp : Prompt net c hydrate r ms) (hs : Steady r)
    (h : r.run net c hydrate ms = some r') :
    Steady r' ∧ outcome net c hydrate r' = outcome net c hydrate r := by
  induction ms generalizing r with
  | nil =>
    cases h
    exact ⟨hs, rfl⟩
  | cons m ms ih =>
    obtain ⟨r₁, h₁, h₂⟩ := Option.bind_eq_some_iff.1 h
    obtain ⟨hpf, hm, hrest⟩ := hp
    rw [h₁] at hrest
    obtain ⟨hs₁, ho₁⟩ := outcome_step hs hpf hm h₁
    obtain ⟨hs', ho'⟩ := ih hrest hs₁ h₂
    exact ⟨hs', ho'.trans ho₁⟩

/-- **A prompt run is the sequential fold.** When every fetch answers before
the feed reads on and nobody shuts the feed down, a feed that has ended
with nothing in flight has the store, the events sent and the end that
folding its stream with each created room fetched at once gives. -/
theorem prompt_run_folds_items (s : Store) (items : List (Except Client.Error ServerEvent))
    {ms : List Mover} (hp : Prompt net c hydrate (start s items) ms)
    (h : (start s items).run net c hydrate ms = some r') {st : FeedState} (hend : r'.task.final = some st)
    (hidle : r'.pending = []) :
    (r'.store, r'.sent, st) = foldItems net c hydrate s [] items := by
  obtain ⟨-, ho⟩ := hp.outcome_run ⟨rfl, rfl, Nat.zero_le _⟩ h
  unfold outcome at ho
  simp only [hend, hidle, List.foldl_nil] at ho
  exact ho

end FeedRun

/-- **A feed's hydrations, after its end and when prompt.** Once the feed
task has ended, and so once the feed's shutdown has returned, every run
changes the store only by fetches that were in flight, each at most once,
each writing the server's answer for its room; with none in flight the
store no longer changes. And when every fetch answers before the feed task
reads on and nobody shuts the feed down, a feed that has ended with nothing
in flight has the store, the events sent and the end that the sequential
fold gives, in which each created room is fetched at once. -/
theorem hydrations_after_end_and_when_prompt (net : Http.Network) (c : Client) (hydrate : Bool) :
    (∀ (r r' : FeedRun) (ms : List FeedRun.Mover),
      r.task.final.isSome = true → r.run net c hydrate ms = some r' →
        (∃ ids, (ids ++ r'.pending).Perm r.pending ∧
          r'.store = ids.foldl (FeedTask.hydrated net c) r.store ∧ r'.sent = r.sent) ∧
        (r.pending = [] → r'.store = r.store)) ∧
      ∀ (s : Store) (items : List (Except Client.Error ServerEvent)) (ms : List FeedRun.Mover) (r : FeedRun)
        (st : FeedState),
        FeedRun.Prompt net c hydrate (FeedRun.start s items) ms →
        (FeedRun.start s items).run net c hydrate ms = some r → r.task.final = some st → r.pending = [] →
          (r.store, r.sent, st) = foldItems net c hydrate s [] items :=
  ⟨fun _ _ _ hend h => ⟨FeedRun.run_of_ended h hend, fun hidle => FeedRun.run_of_ended_idle hend hidle h⟩,
    fun s items _ _ _ hp h hend hidle => FeedRun.prompt_run_folds_items s items hp h hend hidle⟩

/-- A `200` response whose body is this text. -/
def okAnswer (body : String) : Http.Response := { status := ⟨200, by decide⟩, chunks := [Text.Utf8.encode body] }

/-- A server that answers every request with the room `x`, named `lobby`. -/
def lobbyServer : Http.Network := fun _ => .ok (okAnswer "\x7b\"id\": \"x\", \"name\": \"lobby\"\x7d")

/-- A client of the console at `http://mock/api/`. -/
def mockClient : Client := { base := { scheme := "http", host := some (.domain "mock"), path := "/api/" } }

/-- A stream that creates the room `x` and destroys it. -/
def createdThenDestroyed : List (Except Client.Error ServerEvent) :=
  [.ok (.rooms { id := "x", action := .created }), .ok (.rooms { id := "x", action := .destroyed })]

/-- Both halves at the stream `createdThenDestroyed`. Shut down right after
`created x`, the ended feed still has the fetch of `x` in flight, and its
answer is all that changes the store. Scheduled promptly, the fetch answers
before `destroyed x` is read, and the run is the sequential fold. -/
theorem hydrations_of_createdThenDestroyed :
    (∃ r r', (FeedRun.start {} createdThenDestroyed).run lobbyServer mockClient true
        [.feed, .shutdown, .feed] = some r ∧ r.task.final.isSome = true ∧
      r.run lobbyServer mockClient true [.hydration 0] = some r' ∧
      ∃ ids, (ids ++ r'.pending).Perm r.pending ∧
        r'.store = ids.foldl (FeedTask.hydrated lobbyServer mockClient) r.store ∧ r'.sent = r.sent) ∧
    ∃ r, FeedRun.Prompt lobbyServer mockClient true (FeedRun.start {} createdThenDestroyed)
        [.feed, .hydration 0, .feed, .feed] ∧
      (FeedRun.start {} createdThenDestroyed).run lobbyServer mockClient true
        [.feed, .hydration 0, .feed, .feed] = some r ∧ r.task.final = some .closed ∧ r.pending = [] ∧
      (r.store, r.sent, FeedState.closed) = foldItems lobbyServer mockClient true {} [] createdThenDestroyed := by
  obtain ⟨r, hr⟩ : ∃ r, (FeedRun.start {} createdThenDestroyed).run lobbyServer mockClient true
      [.feed, .shutdown, .feed] = some r := ⟨_, rfl⟩
  have hend : r.task.final.isSome = true := by
    cases hr
    decide +kernel
  obtain ⟨r', hr'⟩ : ∃ r', r.run lobbyServer mockClient true [.hydration 0] = some r' := by
    cases hr
    exact ⟨_, rfl⟩
  obtain ⟨q, hq⟩ : ∃ q, (FeedRun.start {} createdThenDestroyed).run lobbyServer mockClient true
      [.feed, .hydration 0, .feed, .feed] = some q := ⟨_, rfl⟩
  have hp : FeedRun.Prompt lobbyServer mockClient true (FeedRun.start {} createdThenDestroyed)
      [.feed, .hydration 0, .feed, .feed] := by decide +kernel
  have hqend : q.task.final = some .closed := by
    cases hq
    rfl
  have hqidle : q.pending = [] := by
    cases hq
    decide +kernel
  have hafter := hydrations_after_end_and_when_prompt lobbyServer mockClient true
  exact ⟨⟨r, r', hr, hend, hr', (hafter.1 r r' _ hend hr').1⟩,
    q, hp, hq, hqend, hqidle, hafter.2 {} createdThenDestroyed _ q _ hp hq hqend hqidle⟩

/-- **A late fetch brings a destroyed room back, and writes after the
shutdown.** With hydration on, the feed folds `created x` and spawns the
fetch of `x`, then folds `destroyed x`; the fetch then answers and puts `x`
back, named as the server named it. And when the feed is shut down right
after `created x`, the shutdown returns (the task ends at once) with the
fetch still in flight, which then rewrites the store's entry for `x`. -/
theorem hydration_outlives_destroy_and_shutdown :
    ((FeedRun.start {} createdThenDestroyed).run lobbyServer mockClient true
        [.feed, .feed, .hydration 0]).map (fun r => (r.store.room "x").map (·.name)) = some (some "lobby") ∧
      ((FeedRun.start {} createdThenDestroyed).run lobbyServer mockClient true
        [.feed, .shutdown, .feed]).map (fun r => (r.shutDown, (r.store.room "x").map (·.name))) =
          some (true, some "") ∧
      ((FeedRun.start {} createdThenDestroyed).run lobbyServer mockClient true
        [.feed, .shutdown, .feed, .hydration 0]).map (fun r => (r.store.room "x").map (·.name)) =
          some (some "lobby") :=
  ⟨by decide +kernel, by decide +kernel, by decide +kernel⟩

end RoomConsole
