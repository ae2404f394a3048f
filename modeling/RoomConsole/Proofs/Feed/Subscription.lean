import RoomConsole.Proofs.Feed.Projection
import RoomConsole.Proofs.Event.Frames

/-!
# The feed over a live subscription

A subscription reads its body item by item. One frame reader takes the
chunks in order and each frame it completes is typed as it comes; the
first item that is a failure ends the stream with one stream error, and
nothing after it is read (`fromByteStream_eq`). So the subscription yields
the typed frames of the declarative reading of the bytes before the first
failure, each from a block of complete lines that a blank line ends
(`mem_readFrames`), and then that failure.

With hydration off the feed is a fold (`foldItems_eq`): it folds every
event in order and passes it on, skips every payload that does not decode,
stops at any other error with that error's text, and closes when the
stream ends. At every point of the run the store it holds is the fold of
the events it has passed on (`foldItems_take`). The main statement is
`feed_folds_body_before_failure`.
-/

namespace RoomConsole.Event

/-! ## The subscription -/

/-- The chunks a body delivers before its first failure. -/
def okChunks : List (Except String (List UInt8)) → List (List UInt8)
  | [] => []
  | .ok c :: rest => c :: okChunks rest
  | .error _ :: _ => []

/-- The first failure of a body, if it has one. -/
def firstFailure : List (Except String (List UInt8)) → Option String
  | [] => none
  | .ok _ :: rest => firstFailure rest
  | .error e :: _ => some e

@[simp] theorem okChunks_map_ok_append (pre : List (List UInt8))
    (rest : List (Except String (List UInt8))) :
    okChunks (pre.map .ok ++ rest) = pre ++ okChunks rest := by
  induction pre with
  | nil => rfl
  | cons c pre ih => rw [List.map_cons, List.cons_append, okChunks, ih, List.cons_append]

@[simp] theorem firstFailure_map_ok_append (pre : List (List UInt8))
    (rest : List (Except String (List UInt8))) :
    firstFailure (pre.map .ok ++ rest) = firstFailure rest := by
  induction pre with
  | nil => rfl
  | cons c pre ih => rw [List.map_cons, List.cons_append, firstFailure, ih]

/-- A reader in state `r` yields, from the rest of a body, the typed frames
it completes from the chunks before the first failure, then that failure. -/
theorem fromByteStream_go (r : FrameReader) (items : List (Except String (List UInt8))) :
    fromByteStream.go r items =
      (r.pushAll (okChunks items)).2.map ServerEvent.ofFrame ++
        (firstFailure items).toList.map
          fun e => .error (.eventStream ("stream interrupted: " ++ e)) := by
  induction items generalizing r with
  | nil => rfl
  | cons it items ih =>
    cases it with
    | ok c =>
      rw [fromByteStream.go, ih, okChunks, firstFailure, FrameReader.pushAll, List.map_append,
        List.append_assoc]
    | error e => rfl

/-- **The subscription yields the typed frames of the bytes before the
first failure, then that failure.** -/
theorem fromByteStream_eq (items : List (Except String (List UInt8))) :
    fromByteStream items =
      (readFrames (okChunks items).flatten).map ServerEvent.ofFrame ++
        (firstFailure items).toList.map
          fun e => .error (.eventStream ("stream interrupted: " ++ e)) := by
  rw [fromByteStream, fromByteStream_go, (FrameReader.pushAll_fresh _).1]

/-- A payload that does not decode, whatever event it was to make, is a
deserialization error holding it. -/
theorem map_decodePayload_error {α : Type} {d : Json.Decoder α} {data : String}
    {g : α → ServerEvent} {e : Client.Error} (h : g <$> decodePayload d data = .error e) :
    ∃ m, e = .deserialization m data := by
  unfold decodePayload at h
  cases hd : Json.Decoder.decode d data with
  | ok v => rw [hd] at h; cases h
  | error f =>
    rw [hd] at h
    cases h
    exact ⟨_, rfl⟩

/-- **Typing a frame fails only on a payload that does not decode.** -/
theorem ofFrame_error {f : Frame} {e : Client.Error} (h : ServerEvent.ofFrame f = .error e) :
    ∃ m b, e = .deserialization m b := by
  unfold ServerEvent.ofFrame at h
  -- a known name decodes its payload; any other name never fails
  by_cases hr : f.event = "rooms"
  · rw [if_pos hr] at h
    obtain ⟨m, hm⟩ := map_decodePayload_error h
    exact ⟨m, f.data, hm⟩
  · by_cases hp : f.event = "pull"
    · rw [if_neg hr, if_pos hp] at h
      obtain ⟨m, hm⟩ := map_decodePayload_error h
      exact ⟨m, f.data, hm⟩
    · rw [if_neg hr, if_neg hp] at h
      cases h

end RoomConsole.Event

namespace RoomConsole

open RoomConsole.Event

/-! ## The feed -/

/-- The events a feed folds from a subscription's items, in order: every
event, past the payloads that do not decode, up to the first other
error. -/
def feedEvents : List (Except Client.Error ServerEvent) → List ServerEvent
  | [] => []
  | .ok ev :: rest => ev :: feedEvents rest
  | .error (.deserialization _ _) :: rest => feedEvents rest
  | .error _ :: _ => []

/-- How a feed over the items ends: failed with the text of the first error
that is not a payload's, closed when there is none. -/
def feedEnd : List (Except Client.Error ServerEvent) → FeedState
  | [] => .closed
  | .ok _ :: rest => feedEnd rest
  | .error (.deserialization _ _) :: rest => feedEnd rest
  | .error e :: _ => .failed e.message

variable (net : Http.Network) (c : Client)

/-- With hydration off, an event is folded and passed on, and nothing else
happens. -/
theorem foldItems_ok (s : Store) (seen : List ServerEvent) (ev : ServerEvent)
    (rest : List (Except Client.Error ServerEvent)) :
    foldItems net c false s seen (.ok ev :: rest) =
      foldItems net c false (foldEvent s ev).1 (ev :: seen) rest := by
  rw [foldItems]
  rcases foldEvent s ev with ⟨s', fd⟩
  cases fd <;> rfl

/-- **With hydration off the feed is a fold**: the store is the fold of the
events it passes on, and it ends as `feedEnd` says. -/
theorem foldItems_eq (s : Store) (seen : List ServerEvent)
    (items : List (Except Client.Error ServerEvent)) :
    foldItems net c false s seen items =
      (foldEvents s (feedEvents items), seen.reverse ++ feedEvents items, feedEnd items) := by
  induction items generalizing s seen with
  | nil => simp [foldItems, feedEvents, feedEnd, foldEvents]
  | cons it items ih =>
    cases it with
    | ok ev =>
      -- the event is folded first, and passed on after those seen before
      rw [foldItems_ok, ih, feedEvents, feedEnd, List.reverse_cons, List.append_assoc,
        List.singleton_append]
      rfl
    | error e =>
      cases e with
      | deserialization m b => rw [foldItems, ih, feedEvents, feedEnd]
      | _ => simp [foldItems, feedEvents, feedEnd, foldEvents]

/-- The events of a run cut short are the first of its events. -/
theorem feedEvents_take (items : List (Except Client.Error ServerEvent)) (k : Nat) :
    feedEvents (items.take k) <+: feedEvents items := by
  induction items generalizing k with
  | nil => simp
  | cons it items ih =>
    cases k with
    | zero => simp [feedEvents]
    | succ k =>
      rw [List.take_succ_cons]
      cases it with
      | ok ev => simpa [feedEvents] using ih k
      | error e =>
        cases e with
        | deserialization m b => simpa [feedEvents] using ih k
        | _ => simp [feedEvents]

/-- **At every point of the run the store is the fold of the events passed
on**, and those are the first of all the events the run passes on. -/
theorem foldItems_take (s : Store) (items : List (Except Client.Error ServerEvent))
    (k : Nat) :
    let r := foldItems net c false s [] (items.take k)
    r.1 = foldEvents s r.2.1 ∧ r.2.1 <+: feedEvents items := by
  simp only [foldItems_eq, List.reverse_nil, List.nil_append, true_and]
  exact feedEvents_take items k

/-- Typed frames pass their events on and skip the rest. -/
theorem feedEvents_frames (fs : List Frame) (rest : List (Except Client.Error ServerEvent)) :
    feedEvents (fs.map ServerEvent.ofFrame ++ rest) =
      fs.filterMap (fun f => (ServerEvent.ofFrame f).toOption) ++ feedEvents rest := by
  induction fs with
  | nil => rfl
  | cons f fs ih =>
    rw [List.map_cons, List.cons_append, List.filterMap_cons]
    cases hf : ServerEvent.ofFrame f with
    | ok ev => rw [feedEvents, ih]; rfl
    | error e =>
      obtain ⟨m, b, rfl⟩ := ofFrame_error hf
      rw [feedEvents, ih]
      rfl

/-- Typed frames never end the feed. -/
theorem feedEnd_frames (fs : List Frame) (rest : List (Except Client.Error ServerEvent)) :
    feedEnd (fs.map ServerEvent.ofFrame ++ rest) = feedEnd rest := by
  induction fs with
  | nil => rfl
  | cons f fs ih =>
    rw [List.map_cons, List.cons_append]
    cases hf : ServerEvent.ofFrame f with
    | ok ev => rw [feedEnd, ih]
    | error e =>
      obtain ⟨m, b, rfl⟩ := ofFrame_error hf
      rw [feedEnd, ih]

/-- **The feed folds the events of a body before its first failure.** Over
any body, given as chunks and failures, the subscription yields the typed
frames that the bytes before the first failure complete, then, when there
is a failure, one stream error, and nothing after it: it yields what the
body cut at its first failure yields. A frame is read only once a blank
line ends its block. With hydration off the feed folds exactly the events
among the frames, in order, skipping the payloads that do not decode, and
passes each on once; at every point of the run the store is the fold of the
events passed on so far. It fails with the stream error's text when the
body has a failure, and closes otherwise. -/
theorem feed_folds_body_before_failure (s : Store)
    (items : List (Except String (List UInt8))) :
    let frames := readFrames (okChunks items).flatten
    let events := frames.filterMap fun f => (ServerEvent.ofFrame f).toOption
    fromByteStream items = frames.map ServerEvent.ofFrame ++
        (firstFailure items).toList.map
          (fun e => .error (.eventStream ("stream interrupted: " ++ e))) ∧
      fromByteStream items =
        fromByteStream ((okChunks items).map .ok ++ (firstFailure items).toList.map .error) ∧
      (∀ f ∈ frames, ∃ blk, blockFrame blk = some f ∧
        blk ++ [""] <:+: (completeLines (okChunks items).flatten).map FrameReader.lineText) ∧
      foldItems net c false s [] (fromByteStream items) =
        (foldEvents s events, events,
          match firstFailure items with
          | some e => .failed ("Event stream error: stream interrupted: " ++ e)
          | none => .closed) ∧
      ∀ k, let r := foldItems net c false s [] ((fromByteStream items).take k)
        r.1 = foldEvents s r.2.1 ∧ r.2.1 <+: events := by
  intro frames events
  have hsub := fromByteStream_eq items
  -- the feed over the frames' items then the failure's
  have hevents : feedEvents (fromByteStream items) = events := by
    rw [hsub, feedEvents_frames]
    cases firstFailure items <;> simp [feedEvents, events, frames]
  refine ⟨hsub, ?_, fun f hf => mem_readFrames hf, ?_, fun k => ?_⟩
  · rw [hsub, fromByteStream_eq, okChunks_map_ok_append, firstFailure_map_ok_append]
    cases firstFailure items <;> simp [okChunks, firstFailure]
  · rw [foldItems_eq, hevents, List.reverse_nil, List.nil_append, hsub, feedEnd_frames]
    cases firstFailure items <;> rfl
  · rw [← hevents]
    exact foldItems_take net c s _ k

end RoomConsole
