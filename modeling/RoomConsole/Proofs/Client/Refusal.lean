import Mathlib
import RoomConsole.Feed
import RoomConsole.Cli.Failure

/-!
# How an answer is read

A server's answer to a call is read by one of three handlers:
`decodeResponse` when the call expects a body, `emptyResponse` when it does
not (starting, stopping, pausing and restarting a room, removing it,
stopping a pull) and `textResponse` for the compose file. A success (2xx)
is read by the handler (`decodeResponse_success`, `emptyResponse_success`);
every other status is one and the same refusal for all three
(`decodeResponse_refused`), worded by the body trimmed, or by the status
line when the trimmed body is blank (`refusalMessage`): a 404 is `notFound`
and any other status `api` (`refusal_eq`).

The status of a refusal survives every layer that reads it again: the
client error's `status`, `isNotFound` and `isTransient`, its reading as a
console error (`toConsole_status`), and the command line's exit code
(`exitCode_refusal`: 4 for 404, 3 for 401 and 403, 1 otherwise). A refused
subscription to the event stream is read otherwise: whatever the status, it
is an event-stream failure, and the command line exits with 7
(`runFeed_refused`). `answer_classified` puts these together.
-/

namespace RoomConsole.Client

open RoomConsole.Http

/-- The message of a refused answer: its body trimmed, or the status line
when the trimmed body is blank. -/
def refusalMessage (s : Status) (body : String) : String :=
  if (Text.trim body).isEmpty then s.text else Text.trim body

variable {r : Response} {b : String}

/-! ## The handlers -/

/-- **A refusal** is `notFound` for 404 and `api` with the status for any
other code, worded by `refusalMessage`. -/
theorem refusal_eq (hb : bodyText r = .ok b) :
    refusal r =
      if r.status.code = 404 then .notFound (refusalMessage r.status b)
      else .api r.status.code (refusalMessage r.status b) := by
  simp only [refusal, hb, Except.toOption, Option.getD_some, refusalMessage]

theorem decodeResponse_refused {α : Type} (d : Json.Decoder α) (hs : r.status.isSuccess = false) :
    decodeResponse d r = .error (refusal r) := by
  simp [decodeResponse, hs]

theorem emptyResponse_refused (hs : r.status.isSuccess = false) :
    emptyResponse r = .error (refusal r) := by
  simp [emptyResponse, hs]

theorem textResponse_refused (hs : r.status.isSuccess = false) :
    textResponse r = .error (refusal r) := by
  simp [textResponse, hs]

/-- A success with a body reads the body: its value when it decodes, else a
deserialization error that carries the whole body. -/
theorem decodeResponse_success {α : Type} (d : Json.Decoder α) (hs : r.status.isSuccess = true)
    (hb : bodyText r = .ok b) :
    decodeResponse d r = (d.decode b).mapError fun e =>
      .deserialization
        (e.message ++ " (body preview: " ++ Text.literal (String.ofList (b.toList.take 200)) ++ ")") b := by
  cases hd : d.decode b <;> simp [decodeResponse, hs, hb, hd, Except.mapError, bind, Except.bind]

theorem emptyResponse_success (hs : r.status.isSuccess = true) : emptyResponse r = .ok () := by
  simp [emptyResponse, hs]

/-! ## What reads the status again -/

theorem refusal_status : (refusal r).status = some r.status.code := by
  unfold refusal
  split <;> simp_all [Error.status]

theorem refusal_isNotFound : (refusal r).isNotFound = decide (r.status.code = 404) := by
  unfold refusal
  split <;> simp_all [Error.isNotFound]

theorem refusal_isTransient : (refusal r).isTransient = decide (500 ≤ r.status.code) := by
  unfold refusal
  split <;> simp_all [Error.isTransient]

/-- The console reads a client error keeping the status the server gave,
unless the error is a timeout, which keeps none. -/
theorem toConsole_status (e : Error) (h : ∀ f, e = .transport f → f.timedOut = false) :
    e.toConsole.status = e.status := by
  cases e with
  | transport f =>
    have hf : f.timedOut = false := h f rfl
    simp only [Error.toConsole, hf, Bool.false_eq_true, if_false, Error.status]
    cases f.status? <;> rfl
  | _ => rfl

/-- A refusal is no timeout. -/
theorem refusal_not_transport (f : TransportFault) : refusal r ≠ .transport f := by
  unfold refusal
  split <;> simp

/-- **The exit code of a refused call**: 4 for a missing room, 3 for a
refused login, 1 for every other status. -/
theorem exitCode_refusal :
    (Cli.Failure.ofConsole (refusal r).toConsole).exitCode =
      if r.status.code = 404 then 4 else if r.status.code = 401 ∨ r.status.code = 403 then 3 else 1 := by
  unfold refusal
  by_cases h404 : r.status.code = 404
  · simp [h404, Error.toConsole, Cli.Failure.ofConsole, Cli.Failure.exitCode]
  · simp only [h404, if_false, Error.toConsole]
    -- the command line matches the codes 401 and 403 by value
    by_cases h401 : r.status.code = 401
    · rw [h401]
      rfl
    · by_cases h403 : r.status.code = 403
      · rw [h403]
        rfl
      · simp only [h401, h403, or_self, if_false]
        unfold Cli.Failure.ofConsole
        split <;> simp_all [Cli.Failure.exitCode]

end RoomConsole.Client

/-! ## Calls and the subscription -/

namespace RoomConsole.Client

open RoomConsole.Http

variable {net : Network} {r : Response} {c : Client} {u : Url}

/-- Moving the user information out of a URL keeps its scheme. -/
theorem moveUserinfo_scheme (u : Url) : (moveUserinfo u).1.scheme = u.scheme := by
  unfold moveUserinfo
  split <;> rfl

/-- What `send` returns is the network's answer. -/
theorem send_ok {req : Request} {r' : Response} (h : send net req = .ok r') : net req = .ok r' := by
  unfold send at h
  split at h
  · cases h
  · split at h <;> simp_all

/-- A request to an `http` or `https` URL reaches the network, and comes
back with its answer. -/
theorem fetch_answered (hnet : ∀ req, net req = .ok r) (hsch : u.scheme = "http" ∨ u.scheme = "https")
    (m : Method) (body : Option String) : c.fetch net m u body = .ok r := by
  have hkeep : (c.request m u [("accept", "*/*")] body).url.scheme = u.scheme := by
    simp only [Client.request]
    exact moveUserinfo_scheme u
  simp only [Client.fetch, send, hkeep, hnet]
  rcases hsch with h | h <;> simp [h, Except.mapError]

/-- The calls that expect no body read their answer with `emptyResponse`. -/
theorem noBody_calls_answered (hnet : ∀ req, net req = .ok r) :
    (∀ a id, c.roomUrl id (some a) = .ok u → (u.scheme = "http" ∨ u.scheme = "https") →
        c.roomAction net a id = emptyResponse r) ∧
      (∀ id, c.roomUrl id none = .ok u → (u.scheme = "http" ∨ u.scheme = "https") →
        c.removeRoom net id = emptyResponse r) ∧
      (c.url "pull" = .ok u → (u.scheme = "http" ∨ u.scheme = "https") → c.pullStop net = emptyResponse r) := by
  refine ⟨fun a id hu hsch => ?_, fun id hu hsch => ?_, fun hu hsch => ?_⟩
  · simp only [Client.roomAction, hu, bind, Except.bind, fetch_answered hnet hsch]
  · simp only [Client.removeRoom, hu, bind, Except.bind, fetch_answered hnet hsch]
  · simp only [Client.pullStop, hu, bind, Except.bind, fetch_answered hnet hsch]

/-- **A refused subscription** is an event-stream failure whatever the
status: the request either never reaches the server or is answered with the
refusal. -/
theorem subscribeEvents_refused (hnet : ∀ req, net req = .ok r) (hs : r.status.isSuccess = false)
    (hu : c.url "events" = .ok u) : ∃ m, c.subscribeEvents net = .error (.eventStream m) := by
  simp only [Client.subscribeEvents, hu, bind, Except.bind]
  split
  · exact ⟨_, rfl⟩
  · rename_i r' hsend
    have hr : r' = r := by
      have h := send_ok hsend
      rw [hnet] at h
      cases h
      rfl
    subst hr
    simp only [hs, Bool.false_eq_true, if_false]
    exact ⟨_, rfl⟩

/-- The feed reads a refused subscription as a failed one. -/
theorem runFeed_refused (hnet : ∀ req, net req = .ok r) (hs : r.status.isSuccess = false)
    (hu : c.url "events" = .ok u) (hydrate : Bool) (s : Store) :
    ∃ m, runFeed net c hydrate s = .error (.subscription m) := by
  obtain ⟨m, hm⟩ := subscribeEvents_refused hnet hs hu
  exact ⟨m, by simp only [runFeed, hm, Error.toConsole]⟩

/-! ## The whole reading -/

/-- **How a status and a body are read.** For an answer whose body reads
as the text `b`:
* a success gives the calls that expect no body `Ok`, and the others the
  decoded body, or a deserialization error carrying all of `b`;
* any other status fails every handler with one refusal: `notFound` for
  404, `api` with the status otherwise, worded by `b` trimmed or else the
  status line. The refusal reports the status, is "not found" exactly for
  404 and transient exactly from 500, keeps its status as a console error,
  and ends the command line with 4 for 404, 3 for 401 and 403, and 1
  otherwise; a subscription to the event stream answered so fails as an
  event-stream failure instead, and the command line ends with 7. -/
theorem answer_read_by_status (r : Response) (b : String) (hb : bodyText r = .ok b) :
    (r.status.isSuccess = true →
      (∀ (net : Network) (c : Client) (u : Url), (∀ req, net req = .ok r) →
        (u.scheme = "http" ∨ u.scheme = "https") →
        (∀ a id, c.roomUrl id (some a) = .ok u → c.roomAction net a id = .ok ()) ∧
        (∀ id, c.roomUrl id none = .ok u → c.removeRoom net id = .ok ()) ∧
        (c.url "pull" = .ok u → c.pullStop net = .ok ())) ∧
      ∀ {α : Type} (d : Json.Decoder α),
        (∀ a, d.decode b = .ok a → decodeResponse d r = .ok a) ∧
        (∀ e, d.decode b = .error e → ∃ m, decodeResponse d r = .error (.deserialization m b))) ∧
    (r.status.isSuccess = false →
      (∀ {α : Type} (d : Json.Decoder α), decodeResponse d r = .error (refusal r)) ∧
      emptyResponse r = .error (refusal r) ∧ textResponse r = .error (refusal r) ∧
      refusal r =
        (if r.status.code = 404 then .notFound (refusalMessage r.status b)
         else .api r.status.code (refusalMessage r.status b)) ∧
      (refusal r).status = some r.status.code ∧
      ((refusal r).isNotFound = true ↔ r.status.code = 404) ∧
      ((refusal r).isTransient = true ↔ 500 ≤ r.status.code) ∧
      (refusal r).toConsole.status = (refusal r).status ∧
      (Cli.Failure.ofConsole (refusal r).toConsole).exitCode =
        (if r.status.code = 404 then 4 else if r.status.code = 401 ∨ r.status.code = 403 then 3 else 1) ∧
      ∀ (net : Network) (c : Client) (u : Url) (hydrate : Bool) (s : Store),
        (∀ req, net req = .ok r) → c.url "events" = .ok u →
        ∃ m, runFeed net c hydrate s = .error (.subscription m) ∧
          (Cli.Failure.ofConsole (.subscription m)).exitCode = 7) := by
  constructor
  · intro hs
    refine ⟨fun net c u hnet hsch => ?_, fun d => ⟨fun a ha => ?_, fun e he => ?_⟩⟩
    · -- the calls without a body read their answer with `emptyResponse`
      obtain ⟨hact, hrem, hpull⟩ := noBody_calls_answered (c := c) (u := u) hnet
      have hok := emptyResponse_success hs
      exact ⟨fun a id hu => (hact a id hu hsch).trans hok, fun id hu => (hrem id hu hsch).trans hok,
        fun hu => (hpull hu hsch).trans hok⟩
    · rw [decodeResponse_success d hs hb, ha]
      rfl
    · rw [decodeResponse_success d hs hb, he]
      exact ⟨_, rfl⟩
  · intro hs
    refine ⟨fun d => decodeResponse_refused d hs, emptyResponse_refused hs, textResponse_refused hs,
      refusal_eq hb, refusal_status, by simp [refusal_isNotFound], by simp [refusal_isTransient],
      toConsole_status _ fun f h => absurd h (refusal_not_transport f), exitCode_refusal, ?_⟩
    intro net c u hydrate s hnet hu
    obtain ⟨m, hm⟩ := runFeed_refused hnet hs hu hydrate s
    exact ⟨m, hm, rfl⟩

/-- A 404 answer with an empty body. -/
def blankNotFound : Response := { status := ⟨404, by omega⟩ }

/-- A 404 answer with an empty body is a missing room, worded by the status
line. -/
theorem blankNotFound_refusal :
    bodyText blankNotFound = .ok "" ∧ refusal blankNotFound = .notFound "404 Not Found" := by
  have hb : bodyText blankNotFound = .ok "" := by
    simp [bodyText, blankNotFound, Text.Utf8.decode]
  refine ⟨hb, ?_⟩
  rw [((answer_read_by_status blankNotFound "" hb).2 rfl).2.2.2.1]
  decide

end RoomConsole.Client
