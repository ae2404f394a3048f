import Mathlib
import RoomConsole.Cli.Watch
import RoomConsole.Proofs.Feed.Task

/-!
# What a watch prints, whatever the schedule

Every event the command prints was folded by the feed, and the command
prints them in the order they were folded, each once: along the way from
the feed to the command an event is only ever moved on or dropped
(`Tasks.InOrder`). The way is the command's printed events, then what its
receiver holds, then what the relay's receiver holds; a feed step puts the
folded event at the end of it and of the folded events alike, the relay
and the command move the oldest event one place on, a full receiver drops
its oldest, and a receiver that subscribes late starts empty. A hydration
writes the store and nothing else. And `Event stream closed by server` is
the last thing the command prints (`Tasks.NoticeLast`), since the command
prints it only as it stops.

Which of the folded events get printed depends on the schedule. When each
event is relayed and printed before the feed reads on, and the feed ends
only after that (`paced`), every folded event is printed before the
notice; without hydration each is printed with the store as the feed left
it (`run_paced`). Under another schedule the command can meet the closed
feed state while an event is still on its way and stop without printing it
(`closed_state_seen_before_relayed_event`): the loop looks at the feed
state first.

How an event is printed depends on the output asked for: one JSON line
(`renderAll_structured`), one table (`length_renderAll_table`), or nothing
when quiet (`renderAll_quiet`).
-/

namespace RoomConsole.Cli.Watch

open RoomConsole.Event

namespace Tasks

variable {o : Setup} {net : Http.Network} {c : Client} {w w' : Tasks}

/-- What every step of every task keeps, every schedule keeps. -/
theorem run_preserves {P : Tasks → Prop}
    (hstep : ∀ {w w' : Tasks} {t : Task}, P w → w.step o net c t = some w' → P w') {ts : List Task}
    (hp : P w) (h : Tasks.run o net c w ts = some w') : P w' := by
  induction ts generalizing w with
  | nil =>
    cases h
    exact hp
  | cons t ts ih =>
    obtain ⟨w₁, h₁, h₂⟩ := Option.bind_eq_some_iff.1 h
    exact ih (hstep hp h₁) h₂

/-! ## Events are printed in the order they were folded -/

/-- The way from the feed to the command: what the command printed, then
what its receiver holds, then what the relay's holds. -/
def way (w : Tasks) : List ServerEvent := w.handled ++ Inbox.queued w.inbox ++ Inbox.queued w.relay

/-- A step moves events along the way or drops some, and adds at its end
what the feed folds. -/
def Advances (w w' : Tasks) : Prop := ∃ new, w'.feed.sent = w.feed.sent ++ new ∧ w'.way.Sublist (w.way ++ new)

theorem Advances.of_sublist (hs : w'.feed.sent = w.feed.sent) (hw : w'.way.Sublist w.way) :
    Advances w w' :=
  ⟨[], by rw [hs, List.append_nil], by rwa [List.append_nil]⟩

theorem Advances.of_eq (hs : w'.feed.sent = w.feed.sent) (hw : w'.way = w.way) : Advances w w' :=
  .of_sublist hs (hw ▸ List.Sublist.refl _)

theorem feedStep_advances (h : w.feedStep o = some w') : Advances w w' := by
  unfold feedStep at h
  split at h
  · cases h
  · next r sent hr =>
    cases h
    refine ⟨sent.toList, FeedRun.feedStep_sent hr, ?_⟩
    cases sent with
    | none => simp [way]
    | some e =>
      simp only [way, Option.toList_some, List.append_assoc]
      exact (List.Sublist.refl _).append ((List.Sublist.refl _).append (Inbox.queued_map_push _ _))

theorem hydrationStep_advances {i : Nat} (h : w.hydrationStep net c i = some w') : Advances w w' := by
  obtain ⟨r, hr, rfl⟩ := Option.map_eq_some_iff.1 h
  obtain ⟨_, _, rfl⟩ := FeedRun.hydrationStep_eq hr
  exact .of_eq rfl rfl

theorem relayStep_advances (h : w.relayStep = some w') : Advances w w' := by
  unfold relayStep at h
  split at h
  · cases h
  · next b hr =>
    split at h
    · cases h
    · next b' ht =>
      cases h
      refine .of_eq rfl ?_
      simp only [way, hr, Inbox.queued_some, Inbox.take_lagged ht]
    · next e b' ht =>
      cases h
      -- the oldest event the relay held goes to the end of the command's receiver
      refine .of_sublist rfl ?_
      have hmove := (Inbox.queued_map_push w.inbox e).append_right b'.pending
      rw [List.append_assoc, List.singleton_append] at hmove
      simp only [way, hr, Inbox.queued_some, Inbox.take_message ht, List.append_assoc]
      exact (List.Sublist.refl _).append hmove

theorem commandStep_advances (h : w.commandStep o = some w') : Advances w w' := by
  unfold commandStep at h
  split at h
  · cases h
    -- the relay starts listening with nothing held
    exact .of_sublist rfl (by simp [way])
  · split at h <;> cases h <;> exact .of_eq rfl rfl
  · cases h
    -- the command starts listening with nothing held
    exact .of_sublist rfl (by simp [way])
  · split at h
    · split at h <;> cases h <;> exact .of_eq rfl rfl
    · split at h
      · cases h
        exact .of_eq rfl rfl
      · split at h
        · cases h
        · next b hb =>
          split at h
          · cases h
          · next b' ht =>
            cases h
            refine .of_eq rfl ?_
            simp only [way, hb, Inbox.queued_some, Inbox.take_lagged ht]
          · next e b' ht =>
            cases h
            -- the oldest event the command held is printed
            refine .of_eq rfl ?_
            simp only [way, hb, Inbox.queued_some, Inbox.take_message ht, List.append_assoc,
              List.singleton_append]
  · cases h

theorem step_advances {t : Task} (h : w.step o net c t = some w') : Advances w w' := by
  cases t with
  | feed => exact feedStep_advances h
  | hydration i => exact hydrationStep_advances h
  | relay => exact relayStep_advances h
  | command => exact commandStep_advances h

/-- The way is, in order, a part of the folded events. -/
def InOrder (w : Tasks) : Prop := w.way.Sublist w.feed.sent

theorem inOrder_start (s : Store) (items : List (Except Client.Error ServerEvent)) :
    InOrder (start s items) :=
  List.nil_sublist _

theorem InOrder.step {t : Task} (hi : InOrder w) (h : w.step o net c t = some w') : InOrder w' := by
  obtain ⟨new, hs, hw⟩ := step_advances h
  rw [InOrder, hs]
  exact hw.trans (hi.append_right new)

theorem InOrder.run {ts : List Task} (hi : InOrder w) (h : Tasks.run o net c w ts = some w') :
    InOrder w' :=
  run_preserves (fun hi h => InOrder.step hi h) hi h

theorem InOrder.handled (hi : InOrder w) : w.handled.Sublist w.feed.sent :=
  (List.sublist_append_left _ _ |>.trans (List.sublist_append_left _ _)).trans hi

/-! ## The notice is the last thing printed -/

theorem closedByServer_not_mem_greeting (s : Store) : Shown.closedByServer ∉ o.greeting s := by
  unfold Setup.greeting
  split
  · exact List.not_mem_nil
  · split <;> simp

theorem closedByServer_not_mem_render (s : Store) (e : ServerEvent) :
    Shown.closedByServer ∉ o.render s e := by
  unfold Setup.render
  split
  · exact List.not_mem_nil
  · split
    · simp
    · split
      · simp
      · split <;> simp

/-- A step that prints nothing prints no notice. -/
theorem prints_nothing (l : List Shown) (q : List Shown → Prop) :
    ∃ extra, l = l ++ extra ∧ (Shown.closedByServer ∉ extra ∨ q extra) :=
  ⟨[], (List.append_nil l).symm, .inl List.not_mem_nil⟩

/-- The command prints only while it runs, and the notice only as the
last thing before it stops. -/
theorem commandStep_shown (h : w.commandStep o = some w') :
    w.stage ≠ .stopped none ∧ ∃ extra, w'.shown = w.shown ++ extra ∧
      (Shown.closedByServer ∉ extra ∨ (extra = [.closedByServer] ∧ w'.stage = .stopped none)) := by
  unfold commandStep at h
  split at h
  · next hs =>
    cases h
    exact ⟨by simp [hs], prints_nothing _ _⟩
  · next hs =>
    refine ⟨by simp [hs], ?_⟩
    split at h <;> cases h <;> exact prints_nothing _ _
  · next hs =>
    cases h
    exact ⟨by simp [hs], _, rfl, .inl (closedByServer_not_mem_greeting _)⟩
  · next hs =>
    refine ⟨by simp [hs], ?_⟩
    split at h
    · split at h
      · cases h
        exact prints_nothing _ _
      · cases h
        split
        · exact ⟨[], rfl, .inl List.not_mem_nil⟩
        · exact ⟨_, rfl, .inr ⟨rfl, rfl⟩⟩
      · cases h
        exact prints_nothing _ _
    · split at h
      · cases h
        exact prints_nothing _ _
      · split at h
        · cases h
        · split at h
          · cases h
          · cases h
            exact prints_nothing _ _
          · cases h
            exact ⟨_, rfl, .inl (closedByServer_not_mem_render _ _)⟩
  · cases h

/-- Once the notice is printed the command has stopped, and nothing came
after it. -/
def NoticeLast (w : Tasks) : Prop :=
  Shown.closedByServer ∈ w.shown →
    w.stage = .stopped none ∧ ∃ pre, w.shown = pre ++ [.closedByServer] ∧ Shown.closedByServer ∉ pre

theorem noticeLast_start (s : Store) (items : List (Except Client.Error ServerEvent)) :
    NoticeLast (start s items) :=
  fun h => absurd h List.not_mem_nil

/-- The feed, the hydrations and the relay print nothing and leave the
command where it is. -/
theorem NoticeLast.of_frame (hn : NoticeLast w) (hs : w'.shown = w.shown) (hst : w'.stage = w.stage) :
    NoticeLast w' := by
  unfold NoticeLast
  rw [hs, hst]
  exact hn

theorem NoticeLast.commandStep (hn : NoticeLast w) (h : w.commandStep o = some w') : NoticeLast w' := by
  obtain ⟨hrun, extra, hs, hx⟩ := commandStep_shown h
  -- the command still runs, so it has not printed the notice yet
  have hfresh : Shown.closedByServer ∉ w.shown := fun hm => hrun (hn hm).1
  intro hm
  rw [hs] at hm ⊢
  rcases hx with hx | ⟨rfl, hst⟩
  · rcases List.mem_append.1 hm with hm | hm
    · exact absurd hm hfresh
    · exact absurd hm hx
  · exact ⟨hst, w.shown, rfl, hfresh⟩

theorem feedStep_frame (h : w.feedStep o = some w') : w'.shown = w.shown ∧ w'.stage = w.stage := by
  unfold feedStep at h
  split at h
  · cases h
  · cases h
    exact ⟨rfl, rfl⟩

theorem hydrationStep_frame {i : Nat} (h : w.hydrationStep net c i = some w') :
    w'.shown = w.shown ∧ w'.stage = w.stage := by
  obtain ⟨r, -, rfl⟩ := Option.map_eq_some_iff.1 h
  exact ⟨rfl, rfl⟩

theorem relayStep_frame (h : w.relayStep = some w') : w'.shown = w.shown ∧ w'.stage = w.stage := by
  unfold relayStep at h
  split at h
  · cases h
  · split at h <;> cases h <;> exact ⟨rfl, rfl⟩

theorem NoticeLast.step {t : Task} (hn : NoticeLast w) (h : w.step o net c t = some w') :
    NoticeLast w' := by
  cases t with
  | feed =>
    obtain ⟨hs, hst⟩ := feedStep_frame h
    exact hn.of_frame hs hst
  | hydration i =>
    obtain ⟨hs, hst⟩ := hydrationStep_frame h
    exact hn.of_frame hs hst
  | relay =>
    obtain ⟨hs, hst⟩ := relayStep_frame h
    exact hn.of_frame hs hst
  | command => exact hn.commandStep h

theorem NoticeLast.run {ts : List Task} (hn : NoticeLast w) (h : Tasks.run o net c w ts = some w') :
    NoticeLast w' :=
  run_preserves (fun hn h => NoticeLast.step hn h) hn h

/-! ## A paced schedule prints every event -/

theorem run_append (w : Tasks) (ts us : List Task) :
    Tasks.run o net c w (ts ++ us) = (Tasks.run o net c w ts).bind fun w' => Tasks.run o net c w' us := by
  induction ts generalizing w with
  | nil => rfl
  | cons t ts ih =>
    simp only [List.cons_append, Tasks.run, ih, Option.bind_assoc]

/-- An item after which the feed reads on: an event, or a payload that
does not decode. -/
def readsOn : Except Client.Error ServerEvent → Bool
  | .ok _ => true
  | .error (.deserialization _ _) => true
  | .error _ => false

/-- The schedule for one item: the feed reads it, and an event is relayed
and printed before anything else happens. -/
def pacedFor : Except Client.Error ServerEvent → List Task
  | .ok _ => [.feed, .relay, .command]
  | .error _ => [.feed]

/-- The paced schedule: the command connects, reads the feed state and
subscribes; then the items one by one; then the end of the stream. -/
def paced (items : List (Except Client.Error ServerEvent)) : List Task :=
  [.command, .command, .command] ++ items.flatMap pacedFor ++ [.feed, .command]

/-- What printing the events shows, each with the store as folding it left
the store. -/
def renderAll (o : Setup) : Store → List ServerEvent → List Shown
  | _, [] => []
  | s, e :: es => o.render (foldEvent s e).1 e ++ renderAll o (foldEvent s e).1 es

/-- The store after folding the events. -/
def foldAll : Store → List ServerEvent → Store
  | s, [] => s
  | s, e :: es => foldAll (foldEvent s e).1 es

theorem renderAll_append (s : Store) (es es' : List ServerEvent) :
    renderAll o s (es ++ es') = renderAll o s es ++ renderAll o (foldAll s es) es' := by
  induction es generalizing s with
  | nil => rfl
  | cons e es ih => simp only [List.cons_append, renderAll, foldAll, ih, List.append_assoc]

theorem foldAll_append (s : Store) (es es' : List ServerEvent) :
    foldAll s (es ++ es') = foldAll (foldAll s es) es' := by
  induction es generalizing s with
  | nil => rfl
  | cons e es ih => exact ih _

/-- When printing an event does not look at the store, printing the events
prints each in turn. -/
theorem renderAll_of_render (f : ServerEvent → List Shown) (hf : ∀ s e, o.render s e = f e)
    (s : Store) (es : List ServerEvent) : renderAll o s es = es.flatMap f := by
  induction es generalizing s with
  | nil => rfl
  | cons e es ih => rw [renderAll, hf, ih, List.flatMap_cons]

/-- Quiet, no event is printed. -/
theorem renderAll_quiet (hq : o.globals.quiet = true) (s : Store) (es : List ServerEvent) :
    renderAll o s es = [] := by
  rw [renderAll_of_render (fun _ => []) (fun _ _ => by simp [Setup.render, hq])]
  exact List.flatMap_eq_nil_iff.2 fun _ _ => rfl

/-- With JSON output and no table, each event is one JSON line. -/
theorem renderAll_structured (hq : o.globals.quiet = false) (ht : o.table = false)
    (hs : o.structured = true) (s : Store) (es : List ServerEvent) :
    renderAll o s es = es.map .json := by
  rw [renderAll_of_render (fun e => [.json e]) (fun _ _ => by simp [Setup.render, hq, ht, hs])]
  exact List.map_eq_flatMap.symm

/-- With `--table`, each event prints one table. -/
theorem length_renderAll_table (hq : o.globals.quiet = false) (ht : o.table = true)
    (s : Store) (es : List ServerEvent) : (renderAll o s es).length = es.length := by
  induction es generalizing s with
  | nil => rfl
  | cons e es ih => simp [renderAll, Setup.render, hq, ht, ih]

/-- Paced and in its loop: both receivers empty, the feed live at its first
state, not cancelled and seen by the command, and every folded event
printed. -/
structure Paced (o : Setup) (s : Store) (w : Tasks) : Prop where
  relay : w.relay = some {}
  inbox : w.inbox = some {}
  stage : w.stage = .looping
  seen : w.seen = 1
  live : w.feed.task.final = none
  ends : w.feed.task.ends = true
  uncancelled : w.feed.cancelled = false
  handled : w.handled = w.feed.sent
  store : w.feed.store = foldAll s w.feed.sent
  shown : w.shown = o.greeting s ++ renderAll o s w.feed.sent

theorem run_connect (s : Store) (items : List (Except Client.Error ServerEvent)) :
    Tasks.run o net c (start s items) [.command, .command, .command] =
      some { start s items with relay := some {}, stage := .looping, seen := 1, inbox := some {},
                                shown := o.greeting s } :=
  rfl

theorem paced_connect (s : Store) (items : List (Except Client.Error ServerEvent)) :
    Paced o s { start s items with relay := some {}, stage := .looping, seen := 1, inbox := some {},
                                   shown := o.greeting s } :=
  ⟨rfl, rfl, rfl, rfl, rfl, rfl, rfl, rfl, rfl, by simp [start, renderAll]⟩

/-- Without hydration, a live feed that is not cancelled folds the next
event and sends it to the relay. -/
theorem feedStep_ok (ho : o.hydrate = false) (hf : w.feed.task.final = none)
    (hc : w.feed.cancelled = false) {e : ServerEvent} {rest : List (Except Client.Error ServerEvent)}
    (hi : w.feed.task.items = .ok e :: rest) :
    w.feedStep o = some { w with
      feed := { w.feed with task := { w.feed.task with items := rest },
                            store := (foldEvent w.feed.store e).1, sent := w.feed.sent ++ [e] },
      relay := w.relay.map (·.push e) } := by
  simp [feedStep, FeedRun.feedStep, hc, FeedTask.next_ok hf hi, ho, FeedTask.handle_false]

/-- One event, paced: folded, relayed and printed. -/
theorem Paced.run_event (ho : o.hydrate = false) {s : Store} (hp : Paced o s w) {e : ServerEvent}
    {rest : List (Except Client.Error ServerEvent)} (hi : w.feed.task.items = .ok e :: rest) :
    ∃ w', Tasks.run o net c w [.feed, .relay, .command] = some w' ∧ Paced o s w' ∧
      w'.feed.task.items = rest ∧ w'.feed.sent = w.feed.sent ++ [e] := by
  have hfeed := feedStep_ok ho hp.live hp.uncancelled hi
  obtain ⟨hr, hb, hst, hseen, hlive, hends, hc, hh, hstore, hshown⟩ := hp
  obtain ⟨⟨⟨items, tends, final⟩, store, pending, sent, cancelled⟩, relay, stage, seen, inbox, handled,
    shown⟩ := w
  dsimp only at hfeed hi hr hb hst hseen hlive hends hc hh hstore hshown ⊢
  subst hr hb hst hseen hh hstore hshown hlive
  refine ⟨_, by simp only [Tasks.run, step, hfeed, Option.bind_some]; rfl,
    ⟨rfl, rfl, rfl, rfl, rfl, hends, hc, rfl, ?_, ?_⟩, rfl, rfl⟩
  · exact (foldAll_append s _ [e]).symm
  · simp only [renderAll_append, renderAll, List.append_nil, List.append_assoc]

/-- A payload that does not decode, paced: skipped. -/
theorem Paced.run_skip {s : Store} (hp : Paced o s w) {m body : String}
    {rest : List (Except Client.Error ServerEvent)}
    (hi : w.feed.task.items = .error (.deserialization m body) :: rest) :
    Tasks.run o net c w [.feed] =
      some { w with feed := { w.feed with task := { w.feed.task with items := rest } } } := by
  simp [Tasks.run, step, feedStep, FeedRun.feedStep, hp.uncancelled,
    FeedTask.next_deserialization hp.live hi]

theorem Paced.run_items (ho : o.hydrate = false) {s : Store}
    (items : List (Except Client.Error ServerEvent)) (hp : Paced o s w) (hi : w.feed.task.items = items)
    (hr : items.all readsOn = true) :
    ∃ w', Tasks.run o net c w (items.flatMap pacedFor) = some w' ∧ Paced o s w' ∧
      w'.feed.task.items = [] ∧ w'.feed.sent = w.feed.sent ++ items.filterMap Except.toOption := by
  induction items generalizing w with
  | nil => exact ⟨w, rfl, hp, hi, by simp⟩
  | cons i rest ih =>
    rw [List.all_cons, Bool.and_eq_true] at hr
    rw [List.flatMap_cons, run_append]
    cases i with
    | ok e =>
      obtain ⟨w₁, h₁, hp₁, hi₁, hs₁⟩ := hp.run_event ho hi
      obtain ⟨w₂, h₂, hp₂, hi₂, hs₂⟩ := ih hp₁ hi₁ hr.2
      refine ⟨w₂, by rw [pacedFor, h₁, Option.bind_some, h₂], hp₂, hi₂, ?_⟩
      rw [hs₂, hs₁, List.filterMap_cons, Except.toOption, List.append_assoc, List.singleton_append]
    | error err =>
      -- only a payload that does not decode lets the feed read on
      cases err with
      | deserialization m body =>
        have hp₁ : Paced o s { w with feed := { w.feed with task := { w.feed.task with items := rest } } } :=
          ⟨hp.relay, hp.inbox, hp.stage, hp.seen, hp.live, hp.ends, hp.uncancelled, hp.handled, hp.store,
            hp.shown⟩
        obtain ⟨w₂, h₂, hp₂, hi₂, hs₂⟩ := ih hp₁ rfl hr.2
        refine ⟨w₂, by rw [pacedFor, hp.run_skip hi, Option.bind_some, h₂], hp₂, hi₂, ?_⟩
        rw [hs₂, List.filterMap_cons, Except.toOption]
      | _ => simp [readsOn] at hr

/-- The end of the stream, paced: the feed closes, the command sees it,
prints the notice and stops. -/
theorem Paced.run_end {s : Store} (hp : Paced o s w) (hi : w.feed.task.items = []) :
    Tasks.run o net c w [.feed, .command] =
      some { w with feed := { w.feed with task := { w.feed.task with final := some .closed } }, seen := 2,
                    stage := .stopped none,
                    shown := w.shown ++ (if o.globals.quiet then [] else [.closedByServer]) } := by
  have hfeed : w.feed.feedStep o.hydrate =
      some ({ w.feed with task := { w.feed.task with final := some .closed } }, none) := by
    simp [FeedRun.feedStep, hp.uncancelled, FeedTask.next_nil hp.live hi, hp.ends]
  obtain ⟨hr, hb, hst, hseen, hlive, hends, hc, hh, hstore, hshown⟩ := hp
  obtain ⟨⟨⟨items, tends, final⟩, store, pending, sent, cancelled⟩, relay, stage, seen, inbox, handled,
    shown⟩ := w
  dsimp only at hfeed hi hr hb hst hseen hlive hends hc hh hstore hshown ⊢
  subst hst hseen hlive
  simp only [Tasks.run, step, feedStep, hfeed, Option.bind_some]
  rfl

/-- **Paced, every folded event is printed.** Without hydration, when each
event is relayed and printed before the feed reads on, the command prints
its greeting, then every event of the stream, in order, each with the store
as folding it left the store, and then the notice. -/
theorem run_paced (o : Setup) (ho : o.hydrate = false) (net : Http.Network) (c : Client) (s : Store)
    (items : List (Except Client.Error ServerEvent)) (hr : items.all readsOn = true) :
    ∃ w, Tasks.run o net c (start s items) (paced items) = some w ∧ w.stage = .stopped none ∧
      (stateOf w.feed.task).value = .closed ∧ w.feed.sent = items.filterMap Except.toOption ∧
      w.handled = w.feed.sent ∧
      w.shown = o.greeting s ++ renderAll o s w.feed.sent ++
        (if o.globals.quiet then [] else [.closedByServer]) := by
  obtain ⟨w₁, h₁, hp₁, hi₁, hs₁⟩ := (paced_connect (o := o) s items).run_items ho items rfl hr
  refine ⟨{ w₁ with feed := { w₁.feed with task := { w₁.feed.task with final := some .closed } },
                    seen := 2, stage := .stopped none,
                    shown := w₁.shown ++ (if o.globals.quiet then [] else [.closedByServer]) },
    ?_, rfl, rfl, hs₁, hp₁.handled, by rw [hp₁.shown]⟩
  rw [paced, run_append, run_append, run_connect, Option.bind_some, h₁, Option.bind_some,
    hp₁.run_end hi₁]

end Tasks

/-- **The closed feed state can win over an event on its way.** The feed
folds a room's start and ends the stream before the relay moves; the
command looks at the feed state first, prints the notice and stops, and the
folded event is never printed. So it is not so that, under every schedule,
a watch that prints the notice has printed every folded event. -/
theorem closed_state_seen_before_relayed_event :
    ¬ ∀ (o : Setup) (net : Http.Network) (c : Client) (s : Store)
        (items : List (Except Client.Error ServerEvent)) (sched : List Task) (w : Tasks),
        Tasks.run o net c (Tasks.start s items) sched = some w → (stateOf w.feed.task).value = .closed →
          Shown.closedByServer ∈ w.shown → w.handled = w.feed.sent := by
  intro h
  have hlost := h { globals := { output := .json }, url := "http://mock/api/" } Http.Network.offline
    { base := { scheme := "http" } } {} [.ok (.rooms { id := "r1", action := .started })]
    [.command, .command, .command, .feed, .feed, .command]
    _ rfl rfl (List.mem_append_right _ (List.mem_singleton_self _))
  exact nomatch hlost

/-- **A watch prints folded events in their order, and the notice last.**
Whatever the schedule of the feed task, the hydrations, the relay and the
command, the events the command printed are, in order, some of the events
the feed folded, none twice, and `Event stream closed by server`, once
printed, is the last line. Which events are printed depends on the
schedule. Without hydration, when each event is relayed and printed before
the feed reads on (`Tasks.paced`), a stream the server ends has every
event printed, in order, each with the store as folding it left the store,
and then the notice. -/
theorem watch_prints_folded_events_in_order :
    (∀ (o : Setup) (net : Http.Network) (c : Client) (s : Store)
        (items : List (Except Client.Error ServerEvent)) (sched : List Task) (w : Tasks),
        Tasks.run o net c (Tasks.start s items) sched = some w →
        w.handled.Sublist w.feed.sent ∧
          (Shown.closedByServer ∈ w.shown →
            ∃ pre, w.shown = pre ++ [.closedByServer] ∧ Shown.closedByServer ∉ pre)) ∧
      ∀ (o : Setup) (net : Http.Network) (c : Client) (s : Store)
        (items : List (Except Client.Error ServerEvent)),
        o.hydrate = false → items.all Tasks.readsOn = true →
        ∃ w, Tasks.run o net c (Tasks.start s items) (Tasks.paced items) = some w ∧
          w.stage = .stopped none ∧ (stateOf w.feed.task).value = .closed ∧
          w.feed.sent = items.filterMap Except.toOption ∧ w.handled = w.feed.sent ∧
          w.shown = o.greeting s ++ Tasks.renderAll o s w.feed.sent ++
            (if o.globals.quiet then [] else [.closedByServer]) :=
  ⟨fun _ _ _ s items _ _ h =>
    ⟨((Tasks.inOrder_start s items).run h).handled,
      fun hm => ((Tasks.noticeLast_start s items).run h hm).2⟩,
    fun o net c s items ho hr => Tasks.run_paced o ho net c s items hr⟩

end RoomConsole.Cli.Watch
