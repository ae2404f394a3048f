import Mathlib
import RoomConsole.Console.Calls
import RoomConsole.Proofs.Feed.Task
import RoomConsole.Proofs.Feed.Hydration

/-!
# One feed at a time, while calls do not overlap

When calls on the clones of a console overlap, the two slots race
(`overlapping_connects_leave_a_feed_running`). Two connects that both stop
the feed before either makes its token each put a new token in the token
slot, the second over the first without cancelling it, and each spawns a
feed: both feeds run, and the console's channel gets every event twice. A
disconnect after them cancels the token in the slot and shuts down the feed
in the slot, the second one; the first feed goes on folding events after
the disconnect returned.

What holds is said of serial schedules, in which a call moves only while
every other call is idle (`Serial`); feed tasks, relays and hydrations move
as they like in between. One invariant carries it (`Inv`). Every feed whose
token stands has the token in the token slot, and a token is new when made,
so at most one feed's token stands (`Sound.one_feed`) and only that feed's
relay forwards (`Sound.one_relay`). While a call is under way the shared
state shows where it is (`Phase`): from the moment it cancels the token in
the slot until it makes a new one no token stands; a connect that
subscribes with token `t` has `t` in the slot and no feed with it; one that
holds its feed has that feed's token in the slot. So when no call is under
way (`Settled`), some feed's token stands, and over streams the server
keeps open its task runs, exactly when the call that returned last was a
connect that returned Ok, and the console is connected exactly then. The
main statement is `serial_calls_keep_one_feed`.
-/

namespace RoomConsole.Console

open RoomConsole.Event

namespace Shared

variable {net : Http.Network} {w w' : Shared} {i j : Nat} {c : Call}

/-! ## Views of the shared state -/

/-- The tokens of the feeds spawned, in the order they were spawned. -/
def tokens (w : Shared) : List Nat := w.feeds.map (·.token)

/-- The call that returned last was a connect that returned Ok. -/
def lastOk (w : Shared) : Bool :=
  match w.returns.getLast? with
  | some (.connect, .ok ()) => true
  | _ => false

/-- The call that returned last was a disconnect. -/
def lastDisconnect (w : Shared) : Bool :=
  match w.returns.getLast? with
  | some (.disconnect, _) => true
  | _ => false

/-- No call is under way. -/
def Quiet (w : Shared) : Prop := ∀ c ∈ w.calls, c.idle = true

instance (w : Shared) : Decidable w.Quiet := inferInstanceAs (Decidable (∀ c ∈ w.calls, c.idle = true))

/-- Every call but call `i` is idle. -/
def IdleBut (w : Shared) (i : Nat) : Prop := ∀ j (h : j < w.calls.length), j ≠ i → w.calls[j].idle = true

instance (w : Shared) (i : Nat) : Decidable (w.IdleBut i) :=
  inferInstanceAs (Decidable (∀ j (h : j < w.calls.length), j ≠ i → w.calls[j].idle = true))

/-- In a serial schedule a call moves only while every other call is idle. -/
def MayMove (w : Shared) : Actor → Prop
  | .call i => w.IdleBut i
  | _ => True

instance (w : Shared) : ∀ a, Decidable (w.MayMove a)
  | .call i => inferInstanceAs (Decidable (w.IdleBut i))
  | .feed _ | .relay _ | .hydration _ => isTrue trivial

/-- A schedule is serial when no call moves while another is under way. -/
def Serial (net : Http.Network) (streamsOpen : Bool) : Shared → List Actor → Prop
  | _, [] => True
  | w, a :: as => w.MayMove a ∧
      match w.step net streamsOpen a with
      | none => True
      | some w' => Serial net streamsOpen w' as

instance Serial.decide {streamsOpen : Bool} : ∀ w as, Decidable (Serial net streamsOpen w as)
  | _, [] => isTrue trivial
  | w, a :: as =>
    have : Decidable (match w.step net streamsOpen a with
        | none => True
        | some w' => Serial net streamsOpen w' as) :=
      match w.step net streamsOpen a with
      | none => isTrue trivial
      | some w' => Serial.decide w' as
    inferInstanceAs (Decidable (_ ∧ _))

/-- The server keeps every event stream open, and sends on it only events
and payloads that do not decode. -/
def KeepsStreamsOpen (net : Http.Network) (c : Client) : Prop :=
  ∀ items, c.subscribeEvents net = .ok items → FeedTask.Endless { items, ends := false }

theorem lastOk_finish (r : Except Error Unit) (conn : Connection) :
    (w.finish i c r conn).lastOk = (c.kind == .connect && r matches .ok ()) := by
  simp only [lastOk, finish, List.getLast?_concat]
  rcases c with ⟨_ | _, st⟩ <;> rcases r with e | ⟨⟩ <;> rfl

theorem lastOk_of_lastDisconnect (h : w.lastDisconnect = true) : w.lastOk = false := by
  unfold lastDisconnect at h
  unfold lastOk
  split at h
  · next r hr => simp [hr]
  · cases h

/-! ## What the spawned tasks leave as it was -/

/-- A step that leaves everything the calls read and write as it was, but
the store and what the feeds hold besides their tokens. -/
structure Frame (w w' : Shared) : Prop where
  config : w'.config = w.config
  client : w'.client = w.client
  connection : w'.connection = w.connection
  token : w'.token = w.token
  fresh : w'.fresh = w.fresh
  cancelled : w'.cancelled = w.cancelled
  calls : w'.calls = w.calls
  returns : w'.returns = w.returns
  tokens : w'.tokens = w.tokens

/-- Replacing an element by one that agrees with it under `g` keeps the
list's image under `g`. -/
theorem map_set_of_eq {α β : Type} {l : List α} {a b : α} (g : α → β) (ha : l[j]? = some a)
    (hb : g b = g a) : (l.set j b).map g = l.map g := by
  apply List.ext_getElem?
  intro k
  rw [List.map_set, List.getElem?_set]
  split
  · next hjk =>
    subst hjk
    obtain ⟨hj, hget⟩ := List.getElem?_eq_some_iff.1 ha
    simp [hj, hb, hget]
  · rfl

theorem tokens_set {f f' : Spawned} (hf : w.feeds[j]? = some f) (ht : f'.token = f.token) :
    (w.feeds.set j f').map (·.token) = w.tokens :=
  map_set_of_eq (·.token) hf ht

/-- **What a feed step can do.** The task moves, keeping its token; a move
that is not an event leaves the store and the events folded alone. -/
theorem feedStep_cases (h : w.feedStep j = some w') :
    ∃ f f' mv, w.feeds[j]? = some f ∧ f.task.next (w.cancelled.contains f.token) = some (mv, f'.task) ∧
      f'.token = f.token ∧ w'.feeds = w.feeds.set j f' ∧ Frame w w' ∧
      ((∀ e, mv ≠ .event e) → w'.store = w.store ∧ f'.folded = f.folded) := by
  unfold feedStep at h
  split at h
  · cases h
  · next f hf =>
    split at h
    · cases h
    · next e t hn =>
      cases h
      exact ⟨f, { f with task := t, folded := f.folded ++ [e], relay := f.relay.push e }, .event e, hf, hn, rfl,
        rfl, ⟨rfl, rfl, rfl, rfl, rfl, rfl, rfl, rfl, tokens_set hf rfl⟩, fun hne => absurd rfl (hne e)⟩
    · next mv t hne hn =>
      cases h
      refine ⟨f, { f with task := t }, mv, hf, hn, rfl, rfl, ⟨rfl, rfl, rfl, rfl, rfl, rfl, rfl, rfl, tokens_set hf rfl⟩,
        fun _ => ⟨rfl, rfl⟩⟩

/-- **What a relay step can do.** Only a relay whose token stands moves, and
it leaves the feeds' tokens and tasks alone. -/
theorem relayStep_cases (h : w.relayStep j = some w') :
    ∃ f f', w.feeds[j]? = some f ∧ f.token ∉ w.cancelled ∧ f'.token = f.token ∧ f'.task = f.task ∧
      w'.feeds = w.feeds.set j f' ∧ Frame w w' := by
  unfold relayStep at h
  split at h
  · cases h
  · next f hf =>
    split at h
    · cases h
    · next hc =>
      have hs : f.token ∉ w.cancelled := fun hm => hc (List.contains_iff_mem.2 hm)
      split at h
      · cases h
      · next b ht =>
        cases h
        exact ⟨f, { f with relay := b }, hf, hs, rfl, rfl, rfl, ⟨rfl, rfl, rfl, rfl, rfl, rfl, rfl, rfl, tokens_set hf rfl⟩⟩
      · next e b ht =>
        cases h
        exact ⟨f, { f with relay := b }, hf, hs, rfl, rfl, rfl, ⟨rfl, rfl, rfl, rfl, rfl, rfl, rfl, rfl, tokens_set hf rfl⟩⟩

/-- A hydration writes the store and leaves the feeds alone. -/
theorem hydrationStep_cases {k : Nat} (h : w.hydrationStep net k = some w') : w'.feeds = w.feeds ∧ Frame w w' := by
  unfold hydrationStep at h
  split at h
  · cases h
  · cases h
    exact ⟨rfl, rfl, rfl, rfl, rfl, rfl, rfl, rfl, rfl, rfl⟩

/-! ## The invariant -/

/-- What holds at every state, whatever the calls are doing. -/
structure Sound (w : Shared) : Prop where
  token_lt : w.token < w.fresh
  tokens_lt : ∀ t ∈ w.tokens, t < w.fresh
  cancelled_lt : ∀ t ∈ w.cancelled, t < w.fresh
  /-- Each feed has a token of its own. -/
  nodup : w.tokens.Nodup
  /-- A feed whose token stands has the token in the token slot. -/
  slotted : ∀ t ∈ w.tokens, t ∉ w.cancelled → t = w.token
  /-- A feed whose token stands runs, over a stream that stays open. -/
  running : ∀ f ∈ w.feeds, f.token ∉ w.cancelled → f.task.final = none ∧ f.task.Endless

/-- Where a call under way is, as the shared state shows it. -/
def Phase (w : Shared) (c : Call) : Prop :=
  match c.stage with
  | .begin | .returned => True
  | .take | .wait _ => w.token ∈ w.cancelled
  | .load | .arm => c.kind = .connect ∧ w.token ∈ w.cancelled
  | .subscribe t => c.kind = .connect ∧ w.token = t ∧ t ∉ w.cancelled ∧ t ∉ w.tokens
  | .hold j => c.kind = .connect ∧ w.tokens[j]? = some w.token ∧ w.token ∉ w.cancelled

/-- What holds when no call is under way. -/
structure Settled (w : Shared) : Prop where
  connected : w.connection = .connected ↔ w.lastOk = true
  standing : (∃ t ∈ w.tokens, t ∉ w.cancelled) ↔ w.lastOk = true

/-- The invariant of serial schedules, with the premises no step changes:
events are on and the server keeps every event stream open. -/
structure Inv (net : Http.Network) (w : Shared) : Prop extends Sound w where
  events : w.config.eventsEnabled = true
  opens : KeepsStreamsOpen net w.client
  phase : ∀ (i : Nat) (c : Call), w.calls[i]? = some c → Phase w c
  settled : w.Quiet → Settled w

/-! ### Sound -/

/-- `Sound` reads the token slot, the tokens made and cancelled, and the
feeds. -/
theorem Sound.of_eq (hs : Sound w) (htoken : w'.token = w.token) (hfresh : w'.fresh = w.fresh)
    (hcancelled : w'.cancelled = w.cancelled) (hfeeds : w'.feeds = w.feeds) : Sound w' := by
  have htokens : w'.tokens = w.tokens := by rw [tokens, tokens, hfeeds]
  obtain ⟨h₁, h₂, h₃, h₄, h₅, h₆⟩ := hs
  constructor <;> simp only [htoken, hfresh, hcancelled, hfeeds, htokens] <;> assumption

theorem Sound.of_frame (hs : Sound w) (hf : Frame w w')
    (hr : ∀ f ∈ w'.feeds, f.token ∉ w'.cancelled → f.task.final = none ∧ f.task.Endless) : Sound w' := by
  obtain ⟨h₁, h₂, h₃, h₄, h₅, -⟩ := hs
  refine ⟨?_, ?_, ?_, ?_, ?_, hr⟩ <;> simp only [hf.token, hf.fresh, hf.cancelled, hf.tokens] <;> assumption

/-- Cancelling a token made already keeps the invariant. -/
theorem Sound.cancel (hs : Sound w) {t : Nat} (ht : t < w.fresh) : Sound (w.cancel t) where
  token_lt := hs.token_lt
  tokens_lt := hs.tokens_lt
  cancelled_lt t' h := by
    rcases List.mem_cons.1 h with rfl | h
    · exact ht
    · exact hs.cancelled_lt t' h
  nodup := hs.nodup
  slotted t' h hc := hs.slotted t' h fun hm => hc (List.mem_cons_of_mem _ hm)
  running f h hc := hs.running f h fun hm => hc (List.mem_cons_of_mem _ hm)

/-- Shutting a feed down cancels its token, or does nothing. -/
theorem shutDown_cases (w : Shared) (j : Nat) :
    w.shutDown j = w ∨ ∃ f, w.feeds[j]? = some f ∧ w.shutDown j = w.cancel f.token := by
  unfold Shared.shutDown
  split
  · next f hf => exact .inr ⟨f, hf, rfl⟩
  · exact .inl rfl

/-- A feed spawned with the token in the slot, which no feed has, and whose
task runs over a stream that stays open, keeps the invariant. -/
theorem Sound.spawn (hs : Sound w) {task : FeedTask} (hnew : w.token ∉ w.tokens)
    (hrun : task.final = none ∧ task.Endless) :
    Sound { w with feeds := w.feeds ++ [{ token := w.token, task }] } := by
  have htokens : ({ w with feeds := w.feeds ++ [{ token := w.token, task }] } : Shared).tokens =
      w.tokens ++ [w.token] := by
    simp [tokens]
  refine ⟨hs.token_lt, ?_, hs.cancelled_lt, ?_, ?_, ?_⟩
  · rw [htokens]
    intro t hm
    rcases List.mem_append.1 hm with hm | hm
    · exact hs.tokens_lt t hm
    · rw [List.mem_singleton.1 hm]
      exact hs.token_lt
  · rw [htokens]
    exact hs.nodup.append (List.nodup_singleton _) (by simpa using hnew)
  · rw [htokens]
    intro t hm hc
    rcases List.mem_append.1 hm with hm | hm
    · exact hs.slotted t hm hc
    · exact List.mem_singleton.1 hm
  · intro f hm hc
    rcases List.mem_append.1 hm with hm | hm
    · exact hs.running f hm hc
    · rw [List.mem_singleton.1 hm]
      exact hrun

/-- With the token in the slot cancelled, no feed's token stands. -/
theorem Sound.none_standing (hs : Sound w) (ht : w.token ∈ w.cancelled) : ¬ ∃ t ∈ w.tokens, t ∉ w.cancelled := by
  rintro ⟨t, hm, hc⟩
  exact hc (hs.slotted t hm hc ▸ ht)

/-- Making a new token while no feed's token stands keeps the invariant. -/
theorem Sound.arm (hs : Sound w) (hn : ¬ ∃ t ∈ w.tokens, t ∉ w.cancelled) :
    Sound { w with token := w.fresh, fresh := w.fresh + 1 } where
  token_lt := Nat.lt_succ_self _
  tokens_lt t hm := Nat.lt_succ_of_lt (hs.tokens_lt t hm)
  cancelled_lt t hm := Nat.lt_succ_of_lt (hs.cancelled_lt t hm)
  nodup := hs.nodup
  slotted t hm hc := absurd ⟨t, hm, hc⟩ hn
  running := hs.running

/-- **At most one feed's token stands.** -/
theorem Sound.one_feed (hs : Sound w) {k : Nat} {f g : Spawned} (hf : w.feeds[j]? = some f)
    (hg : w.feeds[k]? = some g) (hfs : f.token ∉ w.cancelled) (hgs : g.token ∉ w.cancelled) : j = k := by
  have htf : w.tokens[j]? = some f.token := by simp [tokens, List.getElem?_map, hf]
  have htg : w.tokens[k]? = some g.token := by simp [tokens, List.getElem?_map, hg]
  -- both tokens are the one in the token slot
  have hf' : f.token = w.token := hs.slotted _ (List.mem_of_getElem? htf) hfs
  have hg' : g.token = w.token := hs.slotted _ (List.mem_of_getElem? htg) hgs
  have hj : j < w.tokens.length := (List.getElem?_eq_some_iff.1 htf).1
  exact (List.getElem?_inj hj hs.nodup).1 (by rw [htf, htg, hf', hg'])

/-- **At most one relay forwards**: only the relay of the feed whose token
stands can move. -/
theorem Sound.one_relay (hs : Sound w) {k : Nat} {w₁ w₂ : Shared} (h₁ : w.relayStep j = some w₁)
    (h₂ : w.relayStep k = some w₂) : j = k := by
  obtain ⟨f, -, hf, hfs, -⟩ := relayStep_cases h₁
  obtain ⟨g, -, hg, hgs, -⟩ := relayStep_cases h₂
  exact hs.one_feed hf hg hfs hgs

/-- With no feed's token standing, a feed step folds nothing. -/
theorem feedStep_folds_nothing (hn : ¬ ∃ t ∈ w.tokens, t ∉ w.cancelled) (h : w.feedStep j = some w') :
    w'.store = w.store ∧ w'.feeds.map (·.folded) = w.feeds.map (·.folded) := by
  obtain ⟨f, f', mv, hf, hnext, -, hfeeds, -, hquiet⟩ := feedStep_cases h
  have hc : w.cancelled.contains f.token = true := by
    by_contra hc
    exact hn ⟨f.token, List.mem_map_of_mem (List.mem_of_getElem? hf), fun hm => hc (List.contains_iff_mem.2 hm)⟩
  rw [hc] at hnext
  -- a task whose token is cancelled only ends
  obtain ⟨hstore, hfolded⟩ := hquiet fun e he => by cases (FeedTask.next_true hnext).symm.trans he
  rw [hfeeds]
  exact ⟨hstore, map_set_of_eq (·.folded) hf hfolded⟩

/-! ### The spawned tasks keep the invariant -/

theorem Phase.of_frame (hf : Frame w w') (hp : Phase w c) : Phase w' c := by
  simpa only [Phase, hf.token, hf.cancelled, hf.tokens] using hp

theorem Inv.of_frame (hi : Inv net w) (hf : Frame w w')
    (hr : ∀ f ∈ w'.feeds, f.token ∉ w'.cancelled → f.task.final = none ∧ f.task.Endless) : Inv net w' where
  toSound := hi.toSound.of_frame hf hr
  events := hf.config ▸ hi.events
  opens := hf.client ▸ hi.opens
  phase i c h := (hi.phase i c (hf.calls ▸ h)).of_frame hf
  settled hq := by
    obtain ⟨hc, hs⟩ := hi.settled fun c hm => hq c (hf.calls ▸ hm)
    have hl : w'.lastOk = w.lastOk := by rw [lastOk, lastOk, hf.returns]
    exact ⟨by rw [hf.connection, hl]; exact hc, by rw [hf.tokens, hf.cancelled, hl]; exact hs⟩

/-- Replacing feed `j` by one that keeps its token and, if its token
stands, runs over a stream that stays open, keeps every standing feed
running. -/
theorem running_set (hr : ∀ f ∈ w.feeds, f.token ∉ w.cancelled → f.task.final = none ∧ f.task.Endless)
    {f' : Spawned} (hf' : f'.token ∉ w.cancelled → f'.task.final = none ∧ f'.task.Endless) :
    ∀ g ∈ w.feeds.set j f', g.token ∉ w.cancelled → g.task.final = none ∧ g.task.Endless := by
  intro g hg
  rcases List.mem_or_eq_of_mem_set hg with hg | rfl
  · exact hr g hg
  · exact hf'

theorem Inv.feedStep (hi : Inv net w) (h : w.feedStep j = some w') : Inv net w' := by
  obtain ⟨f, f', mv, hf, hnext, htoken, hfeeds, hframe, -⟩ := feedStep_cases h
  refine hi.of_frame hframe ?_
  rw [hfeeds, hframe.cancelled]
  refine running_set hi.running fun hs => ?_
  rw [htoken] at hs
  -- a standing token: the task ran before the step, and keeps running
  obtain ⟨hfin, hend⟩ := hi.running f (List.mem_of_getElem? hf) hs
  have hc : w.cancelled.contains f.token = false := by simpa [List.contains_iff_mem] using hs
  rw [hc] at hnext
  exact hend.next hfin hnext

theorem Inv.relayStep (hi : Inv net w) (h : w.relayStep j = some w') : Inv net w' := by
  obtain ⟨f, f', hf, -, htoken, htask, hfeeds, hframe⟩ := relayStep_cases h
  refine hi.of_frame hframe ?_
  rw [hfeeds, hframe.cancelled]
  refine running_set hi.running fun hs => ?_
  rw [htask]
  exact hi.running f (List.mem_of_getElem? hf) (htoken ▸ hs)

theorem Inv.hydrationStep (hi : Inv net w) {k : Nat} (h : w.hydrationStep net k = some w') : Inv net w' := by
  obtain ⟨hfeeds, hframe⟩ := hydrationStep_cases h
  refine hi.of_frame hframe ?_
  rw [hfeeds, hframe.cancelled]
  exact hi.running

/-! ### The calls keep the invariant -/

theorem Phase.of_idle (h : c.idle = true) : Phase w c := by
  simp only [Call.idle, Bool.or_eq_true, beq_iff_eq] at h
  unfold Phase
  rcases h with h | h <;> simp [h]

/-- After call `i` moves, every call is where the shared state says: call
`i` by `hp`, the others because they are idle. -/
theorem phase_set (hidle : w.IdleBut i) {w₁ : Shared} {c' : Call} (hp : Phase w₁ c') :
    ∀ (k : Nat) (d : Call), (w.calls.set i c')[k]? = some d → Phase w₁ d := by
  intro k d hd
  rw [List.getElem?_set] at hd
  split at hd
  · split at hd
    · cases hd
      exact hp
    · cases hd
  · next hik =>
    obtain ⟨hk, rfl⟩ := List.getElem?_eq_some_iff.1 hd
    exact Phase.of_idle (hidle k hk (Ne.symm hik))

/-- A call that goes on to an await point keeps the invariant, when what it
did before keeps `Sound` and its new stage is where the state says. -/
theorem Inv.advance (hi : Inv net w) (hidle : w.IdleBut i) (hc : w.calls[i]? = some c) (w₁ : Shared)
    (hs : Sound w₁) (hconfig : w₁.config = w.config) (hclient : w₁.client = w.client) (hcalls : w₁.calls = w.calls)
    (st : Stage) (hst : (({ c with stage := st } : Call)).idle = false)
    (hp : Phase (w₁.advance i c st) { c with stage := st }) : Inv net (w₁.advance i c st) where
  toSound := hs.of_eq rfl rfl rfl rfl
  events := hconfig ▸ hi.events
  opens := hclient ▸ hi.opens
  phase k d hd := by
    have hd' : (w₁.calls.set i { c with stage := st })[k]? = some d := hd
    rw [hcalls] at hd'
    exact phase_set hidle hp k d hd'
  settled hq := by
    -- the call that moved is under way
    have hmem : ({ c with stage := st } : Call) ∈ w₁.calls.set i { c with stage := st } := by
      rw [hcalls]
      exact List.mem_set (List.getElem?_eq_some_iff.1 hc).1 _
    cases hst.symm.trans (hq _ hmem)

/-- A call that returns keeps the invariant, when what it did before keeps
`Sound` and the state it leaves is settled. -/
theorem Inv.finish (hi : Inv net w) (hidle : w.IdleBut i) (w₁ : Shared) (hs : Sound w₁)
    (hconfig : w₁.config = w.config) (hclient : w₁.client = w.client) (hcalls : w₁.calls = w.calls)
    (r : Except Error Unit) (conn : Connection) (hset : Settled (w₁.finish i c r conn)) :
    Inv net (w₁.finish i c r conn) where
  toSound := hs.of_eq rfl rfl rfl rfl
  events := hconfig ▸ hi.events
  opens := hclient ▸ hi.opens
  phase k d hd := by
    have hd' : (w₁.calls.set i { c with stage := .returned })[k]? = some d := hd
    rw [hcalls] at hd'
    exact phase_set hidle (show Phase (w₁.finish i c r conn) { c with stage := .returned } from trivial) k d hd'
  settled _ := hset

/-- A call that returns with no feed's token standing, and not as a connect
that returned Ok, leaves the state settled. -/
theorem settled_of_none_standing {w₁ : Shared} {r : Except Error Unit} {conn : Connection}
    (hn : ¬ ∃ t ∈ w₁.tokens, t ∉ w₁.cancelled) (hconn : conn ≠ .connected)
    (hl : (c.kind == .connect && r matches .ok ()) = false) : Settled (w₁.finish i c r conn) := by
  have hlast : (w₁.finish i c r conn).lastOk = false := by rw [lastOk_finish, hl]
  have hfalse : (w₁.finish i c r conn).lastOk = true → False := fun h => by rw [hlast] at h; cases h
  exact ⟨⟨fun h => absurd h hconn, fun h => (hfalse h).elim⟩, ⟨fun h => absurd h hn, fun h => (hfalse h).elim⟩⟩

/-- The feed is stopped with no feed's token standing: a connect goes on to
load, a disconnect returns. -/
theorem Inv.stopped (hi : Inv net w) (hidle : w.IdleBut i) (hc : w.calls[i]? = some c) (w₁ : Shared)
    (hs : Sound w₁) (hconfig : w₁.config = w.config) (hclient : w₁.client = w.client) (hcalls : w₁.calls = w.calls)
    (ht : w₁.token ∈ w₁.cancelled) : Inv net (w₁.stopped i c) := by
  unfold Shared.stopped
  split
  · next hk =>
    exact hi.advance hidle hc { w₁ with connection := .connecting } (hs.of_eq rfl rfl rfl rfl) hconfig hclient hcalls
      .load rfl ⟨hk, ht⟩
  · next hk =>
    exact hi.finish hidle w₁ hs hconfig hclient hcalls (.ok ()) .disconnected
      (settled_of_none_standing (hs.none_standing ht) (by decide) (by simp [hk]))

/-- **Every step of a call keeps the invariant**, while the other calls
are idle. -/
theorem Inv.callStep (hi : Inv net w) (hidle : w.IdleBut i) (h : w.callStep net true i = some w') :
    Inv net w' := by
  unfold Shared.callStep at h
  split at h
  · cases h
  · next c hc =>
    have hp := hi.phase i c hc
    split at h
    · -- begin: the token in the slot is cancelled
      cases h
      exact hi.advance hidle hc (w.cancel w.token) (hi.cancel hi.token_lt) rfl rfl rfl .take rfl List.mem_cons_self
    · -- take: the feed in the slot, if any, is shut down
      next hst =>
      simp only [Phase, hst] at hp
      split at h
      · cases h
      · split at h
        · cases h
          exact hi.stopped hidle hc w hi.toSound rfl rfl rfl hp
        · next j _ =>
          cases h
          have hs : Sound { w with slot := none, locked := true } := hi.of_eq rfl rfl rfl rfl
          rcases shutDown_cases { w with slot := none, locked := true } j with hsd | ⟨f, hf, hsd⟩ <;> rw [hsd]
          · exact hi.advance hidle hc _ hs rfl rfl rfl (.wait j) rfl hp
          · have hlt : f.token < w.fresh := hi.tokens_lt _ (List.mem_map_of_mem (List.mem_of_getElem? hf))
            exact hi.advance hidle hc _ (hs.cancel hlt) rfl rfl rfl (.wait j) rfl (List.mem_cons_of_mem _ hp)
    · -- wait: the feed shut down has ended
      next j hst =>
      simp only [Phase, hst] at hp
      split at h
      · cases h
        exact hi.stopped hidle hc { w with locked := false } (hi.of_eq rfl rfl rfl rfl) rfl rfl rfl hp
      · cases h
    · -- load: the capabilities and the rooms
      next hst =>
      simp only [Phase, hst] at hp
      obtain ⟨hk, ht⟩ := hp
      split at h
      · next e s _ =>
        cases h
        exact hi.finish hidle { w with store := s } (hi.of_eq rfl rfl rfl rfl) rfl rfl rfl (.error e) .failed
          (settled_of_none_standing (hi.none_standing ht) (by decide) (by simp))
      · next s _ =>
        split at h
        · cases h
          exact hi.advance hidle hc { w with store := s } (hi.of_eq rfl rfl rfl rfl) rfl rfl rfl .arm rfl ⟨hk, ht⟩
        · next hev => exact absurd hi.events hev
    · -- arm: a new token, which no feed has and nobody cancelled
      next hst =>
      simp only [Phase, hst] at hp
      obtain ⟨hk, ht⟩ := hp
      cases h
      exact hi.advance hidle hc _ (hi.arm (hi.none_standing ht)) rfl rfl rfl (.subscribe w.fresh) rfl
        ⟨hk, rfl, fun hm => Nat.lt_irrefl _ (hi.cancelled_lt _ hm), fun hm => Nat.lt_irrefl _ (hi.tokens_lt _ hm)⟩
    · -- subscribe: the feed and its relay are spawned with the token in the slot
      next t hst =>
      simp only [Phase, hst] at hp
      obtain ⟨hk, rfl, hs, hfresh⟩ := hp
      split at h
      · next e _ =>
        cases h
        refine hi.finish hidle w hi.toSound rfl rfl rfl (.error e.toConsole) .failed
          (settled_of_none_standing ?_ (by decide) (by simp))
        rintro ⟨t, hm, hc⟩
        exact hfresh (hi.slotted t hm hc ▸ hm)
      · next items hitems =>
        cases h
        exact hi.advance hidle hc _ (hi.spawn hfresh ⟨rfl, hi.opens items hitems⟩) rfl rfl rfl
          (.hold w.feeds.length) rfl ⟨hk, by simp [Shared.tokens, Shared.advance], hs⟩
    · -- hold: the feed goes in the slot and the connect returns Ok
      next j hst =>
      simp only [Phase, hst] at hp
      obtain ⟨hk, hj, hs⟩ := hp
      split at h
      · cases h
      · cases h
        have hl : ({ w with slot := some j }.finish i c (.ok ()) .connected).lastOk = true := by
          rw [lastOk_finish, hk]
          rfl
        exact hi.finish hidle { w with slot := some j } (hi.of_eq rfl rfl rfl rfl) rfl rfl rfl (.ok ()) .connected
          ⟨⟨fun _ => hl, fun _ => rfl⟩, ⟨fun _ => hl, fun _ => ⟨w.token, List.mem_of_getElem? hj, hs⟩⟩⟩
    · -- returned: nothing moves
      cases h

/-- **Every step of a serial schedule keeps the invariant.** -/
theorem Inv.step (hi : Inv net w) {a : Actor} (hm : w.MayMove a) (h : w.step net true a = some w') :
    Inv net w' := by
  cases a with
  | call i => exact hi.callStep hm h
  | feed j => exact hi.feedStep h
  | relay j => exact hi.relayStep h
  | hydration k => exact hi.hydrationStep h

theorem Inv.run {as : List Actor} (hser : Serial net true w as) (hi : Inv net w)
    (h : w.run net true as = some w') : Inv net w' := by
  induction as generalizing w with
  | nil =>
    cases h
    exact hi
  | cons a as ih =>
    obtain ⟨w₁, h₁, h₂⟩ := Option.bind_eq_some_iff.1 h
    obtain ⟨hm, hrest⟩ := hser
    rw [h₁] at hrest
    exact ih hrest (hi.step hm h₁) h₂

theorem inv_start {cfg : ConsoleConfig} {cl : Client} (s : Store) (kinds : List Kind)
    (hev : cfg.eventsEnabled = true) (hopen : KeepsStreamsOpen net cl) : Inv net (start cfg cl s kinds) where
  token_lt := Nat.zero_lt_one
  tokens_lt := by simp [start, tokens]
  cancelled_lt := by simp [start]
  nodup := List.nodup_nil
  slotted := by simp [start, tokens]
  running := by simp [start]
  events := hev
  opens := hopen
  phase i c h := by
    simp only [start, List.getElem?_map, Option.map_eq_some_iff] at h
    obtain ⟨k, -, rfl⟩ := h
    trivial
  settled _ := ⟨by simp [start, lastOk], by simp [start, lastOk, tokens]⟩

end Shared

/-- A server whose answer to the subscription holds only events keeps the
stream open, as far as the feed task can tell. -/
theorem keepsStreamsOpen_of_all_events {net : Http.Network} {cl : Client}
    (h : (cl.subscribeEvents net).toOption.map (·.all Except.isOk) = some true) : Shared.KeepsStreamsOpen net cl := by
  intro items hsub
  rw [hsub] at h
  simp only [Except.toOption, Option.map_some, Option.some.injEq, List.all_eq_true] at h
  refine ⟨rfl, fun x hx err hxe => ?_⟩
  have hok := h x hx
  rw [hxe] at hok
  cases hok

/-- **Calls that do not overlap keep one feed.** On clones of a console
with events on, against a server that keeps every event stream open, let
connect and disconnect calls run one at a time, with the feed tasks, the
relays and the hydrations moving as they like in between. Then at every
moment no two feed tasks have a standing token, and no two relays can
forward. Whenever no call is under way, the console is connected, and some
feed task with a standing token runs, exactly when the call that returned
last was a connect that returned Ok; after a disconnect that returned
last, a feed step folds nothing into the store. -/
theorem serial_calls_keep_one_feed (net : Http.Network) (cfg : ConsoleConfig) (cl : Client) (s : Store)
    (kinds : List Kind) (sched : List Actor) (w : Shared) (hev : cfg.eventsEnabled = true)
    (hopen : Shared.KeepsStreamsOpen net cl) (hser : Shared.Serial net true (.start cfg cl s kinds) sched)
    (h : (Shared.start cfg cl s kinds).run net true sched = some w) :
    (∀ (j k : Nat) (f g : Spawned), w.feeds[j]? = some f → w.feeds[k]? = some g → f.token ∉ w.cancelled →
      g.token ∉ w.cancelled → j = k) ∧
    (∀ (j k : Nat) (w₁ w₂ : Shared), w.step net true (.relay j) = some w₁ → w.step net true (.relay k) = some w₂ →
      j = k) ∧
    (w.Quiet →
      (w.connection = .connected ↔ w.lastOk = true) ∧
      ((∃ f ∈ w.feeds, f.token ∉ w.cancelled ∧ f.task.final = none) ↔ w.lastOk = true) ∧
      (w.lastDisconnect = true → ∀ (j : Nat) (w' : Shared), w.step net true (.feed j) = some w' →
        w'.store = w.store ∧ w'.feeds.map (·.folded) = w.feeds.map (·.folded))) := by
  have hi := (Shared.inv_start s kinds hev hopen).run hser h
  refine ⟨fun j k f g hf hg hfs hgs => hi.one_feed hf hg hfs hgs,
    fun j k w₁ w₂ h₁ h₂ => hi.one_relay h₁ h₂, fun hq => ?_⟩
  obtain ⟨hconn, hstanding⟩ := hi.settled hq
  refine ⟨hconn, ?_, fun hd j w' hstep => ?_⟩
  · rw [← hstanding]
    constructor
    · rintro ⟨f, hm, hs, -⟩
      exact ⟨f.token, List.mem_map_of_mem hm, hs⟩
    · rintro ⟨t, hm, hs⟩
      obtain ⟨f, hf, rfl⟩ := List.mem_map.1 hm
      exact ⟨f, hf, hs, (hi.running f hf hs).1⟩
  · -- the last call was no connect that returned Ok, so no token stands
    have hn : ¬ ∃ t ∈ w.tokens, t ∉ w.cancelled := by
      rw [hstanding, Shared.lastOk_of_lastDisconnect hd]
      decide
    exact Shared.feedStep_folds_nothing hn hstep

/-- A console at `http://mock/api/` with events on. -/
def mockConsole : ConsoleConfig := { url := mockClient.base }

/-- A server with no rooms whose every event stream starts the room `r`,
then stops it, and stays open. -/
def startStopServer : Http.Network := fun req =>
  .ok (okAnswer (
    if req.url.path = "/api/events" then
      "event: rooms\ndata: \x7b\"id\": \"r\", \"action\": \"started\"\x7d\n\n" ++
        "event: rooms\ndata: \x7b\"id\": \"r\", \"action\": \"stopped\"\x7d\n\n"
    else if req.url.path = "/api/rooms" then "[]"
    else "\x7b\x7d"))

/-- A connect on its own, then the feed folding the first event. -/
def loneConnect : List Actor := [.call 0, .call 0, .call 0, .call 0, .call 0, .call 0, .feed 0]

/-- A connect on its own leaves the console connected with its feed
running, while the feed folds what the server sends. -/
theorem lone_connect_keeps_its_feed :
    Shared.KeepsStreamsOpen startStopServer mockClient ∧
      Shared.Serial startStopServer true (.start mockConsole mockClient {} [.connect]) loneConnect ∧
      ∃ w, (Shared.start mockConsole mockClient {} [.connect]).run startStopServer true loneConnect = some w ∧
        w.Quiet ∧ w.connection = .connected ∧ ∃ f ∈ w.feeds, f.token ∉ w.cancelled ∧ f.task.final = none := by
  have hopen : Shared.KeepsStreamsOpen startStopServer mockClient :=
    keepsStreamsOpen_of_all_events (by decide +kernel)
  have hser : Shared.Serial startStopServer true (.start mockConsole mockClient {} [.connect]) loneConnect := by
    decide +kernel
  obtain ⟨w, hw⟩ := Option.isSome_iff_exists.1
    (show ((Shared.start mockConsole mockClient {} [.connect]).run startStopServer true loneConnect).isSome = true by
      decide +kernel)
  -- the run ends with no call under way and the connect returned Ok
  have hobs : ((Shared.start mockConsole mockClient {} [.connect]).run startStopServer true loneConnect).map
      (fun w => (decide w.Quiet, w.lastOk)) = some (true, true) := by decide +kernel
  rw [hw] at hobs
  simp only [Option.map_some, Option.some.injEq, Prod.mk.injEq, decide_eq_true_eq] at hobs
  obtain ⟨hq, hok⟩ := hobs
  obtain ⟨-, -, hsettled⟩ :=
    serial_calls_keep_one_feed startStopServer mockConsole mockClient {} [.connect] _ w rfl hopen hser hw
  obtain ⟨hconn, hruns, -⟩ := hsettled hq
  exact ⟨hopen, hser, w, hw, hq, hconn.2 hok, hruns.2 hok⟩

/-- Two connects that both stop the feed before either makes its token,
then let both feeds fold and relay the first event; then a disconnect on
its own, and the first feed reads on. -/
def overlappingConnects : List Actor :=
  [.call 0, .call 0, .call 1, .call 1, .call 0, .call 1, .call 0, .call 1, .call 0, .call 1, .call 0, .call 1,
   .feed 0, .feed 1, .relay 0, .relay 1]

/-- The disconnect that follows, on its own, and the first feed reading on
after it returned. -/
def laterDisconnect : List Actor := [.call 2, .call 2, .feed 1, .call 2, .feed 0]

/-- **Overlapping connects leave a feed running.** Both connects return Ok
and both feeds run with standing tokens, so the console's channel gets the
server's first event twice. The disconnect after them returns last and
leaves the console disconnected, yet the first feed's token still stands,
and that feed then folds the second event into the store. -/
theorem overlapping_connects_leave_a_feed_running :
    ((Shared.start mockConsole mockClient {} [.connect, .connect, .disconnect]).run startStopServer true
        overlappingConnects).map (fun w =>
          (w.returns.map (·.1), w.feeds.map fun f => (w.cancelled.contains f.token, f.task.final.isSome),
            w.broadcast)) =
      some ([.connect, .connect], [(false, false), (false, false)],
        [.rooms { id := "r", action := .started }, .rooms { id := "r", action := .started }]) ∧
    ((Shared.start mockConsole mockClient {} [.connect, .connect, .disconnect]).run startStopServer true
        (overlappingConnects ++ laterDisconnect)).map (fun w =>
          ((w.returns.map (·.1), w.connection), w.feeds.map fun f => (w.cancelled.contains f.token, f.folded),
            (w.store.room "r").map (·.running))) =
      some (([.connect, .connect, .disconnect], .disconnected),
        [(false, [.rooms { id := "r", action := .started }, .rooms { id := "r", action := .stopped }]),
         (true, [.rooms { id := "r", action := .started }])], some false) :=
  ⟨by decide +kernel, by decide +kernel⟩

end RoomConsole.Console
