import RoomConsole.Client.Api
import RoomConsole.Proofs.Url.Settled

/-!
# The routes a client requests

A client's root is the URL it was given, normalized by `normalizeBase`; its
requests go to two kinds of route built from that root.

* Fixed routes (`fixedRoutes`) are resolved against the root as relative
  references: `url_of_fixedRoute` shows each is the root's path with the
  route after it, with neither query nor fragment.
* Room routes push `rooms`, the key and the action as segments onto a copy
  of the root: `roomUrl_extends_root` shows each keeps the root's query and
  fragment.

`normalizeBase_eq` shows that a URL that can be a base normalizes to itself
with only its path replaced, by its API root path (`apiRootPath`: trailing
slashes dropped, then `/api/`, or only `/` after a final `/api`). The path
setter reads that path as written, since a parsed path is settled
(`parse_settled`). The result is an API root (`Url.IsApiRoot`: its path ends
in `/api/`), so a query written on the base URL reaches every room route and
no fixed one (`roomUrl_keeps_root_query`).

A key reaches its route through the URL library's segment setter, which
drops tabs and line breaks before encoding. `roomUrl_names_key_iff` shows a
room route names its key, one segment percent-decoding to the key's bytes,
exactly when the key has none of them; `roomUrl_reads_through_tabs_and_newlines`
gives keys that do and land elsewhere.
-/

namespace RoomConsole.Url

/-- The shape of the API roots a client is built with: a URL that can be a
base, whose path ends in `/api/`. -/
def IsApiRoot (u : Url) : Prop := u.cannotBeABase = false ∧ ∃ p : String, u.path = p ++ "/api/"

variable {u : Url}

theorem endsWith_slash (p : String) : (p ++ "/").endsWith "/" = true := by
  rw [String.endsWith, String.Slice.endsWith_string_iff, String.copy_toSlice]
  exact ⟨p.toList, by simp⟩

/-- The root loses its final empty segment before `rooms` is pushed. -/
theorem popIfEmpty_of_path {p : String} (hp : u.path = p ++ "/api/") :
    u.popIfEmpty = { u with path := p ++ "/api" } := by
  have h5 : "/api/".length = 5 := by decide
  have hlen : u.path.length > 1 := by
    rw [hp, String.length_append, h5]
    omega
  have hend : u.path.endsWith "/" = true := by
    rw [hp, show p ++ "/api/" = (p ++ "/api") ++ "/" by simp [String.append_assoc]]
    exact endsWith_slash _
  have hdrop : String.ofList u.path.toList.dropLast = p ++ "/api" := by
    rw [hp, show p ++ "/api/" = (p ++ "/api") ++ "/" by simp [String.append_assoc], String.toList_append]
    simp
  simp only [Url.popIfEmpty, hlen, hend, decide_true, Bool.and_self, if_true, hdrop]

end RoomConsole.Url

namespace RoomConsole.Client

open RoomConsole.Url

/-- The actions a room route can end in. -/
def roomActions : List String := ["by-name", "settings", "stats", "start", "stop", "pause", "restart", "recreate"]

/-- A room route's tail after the key: the action as one more segment. -/
def actionSuffix : Option String → String
  | none => ""
  | some a => "/" ++ a

/-- Every action, and `rooms`, is a name its segment set leaves alone. -/
theorem safe_of_mem_roomActions (special : Bool) :
    ∀ x ∈ "rooms" :: roomActions, (x ≠ "." ∧ x ≠ "..") ∧
      x.toList.all (fun c => !isTabOrNewline c && keepsChar (segmentSet special) c) = true := by
  cases special <;> decide

variable {c : Client} {k : String} {a : Option String}

theorem length_toList_gt {p : String} (q : String) (hq : 1 < q.length) : 1 < (p ++ q).toList.length := by
  rw [String.toList_append, List.length_append]
  have : q.toList.length = q.length := String.length_toList.symm
  omega

theorem length_toList_append_gt {q : String} (hq : 1 < q.toList.length) (x : String) :
    1 < (q ++ x).toList.length := by
  rw [String.toList_append, List.length_append]
  omega

/-- Every room route starts with the root's path and `rooms`. -/
theorem rooms_of_apiRoot {p : String} (hp : c.base.path = p ++ "/api/") :
    c.base.popIfEmpty.pushSegment "rooms" = { c.base with path := c.base.path ++ "rooms" } := by
  obtain ⟨hdot, hx⟩ := safe_of_mem_roomActions c.base.special "rooms" (List.mem_cons_self ..)
  rw [popIfEmpty_of_path hp, pushSegment_of_safe (u := { c.base with path := p ++ "/api" }) hdot hx
    (length_toList_gt _ (by decide))]
  simp [hp, String.append_assoc]

/-- An action adds itself as one more segment. -/
theorem withAction_eq (v : Url) (hlen : 1 < v.path.toList.length) (ha : ∀ x, a = some x → x ∈ roomActions) :
    (match a with
      | some x => v.pushSegment x
      | none => v) = { v with path := v.path ++ actionSuffix a } := by
  cases a with
  | none => simp [actionSuffix]
  | some x =>
    obtain ⟨hdot, hx⟩ := safe_of_mem_roomActions v.special x (List.mem_cons_of_mem _ (ha x rfl))
    show v.pushSegment x = _
    rw [pushSegment_of_safe hdot hx hlen]
    simp [actionSuffix, String.append_assoc]

/-- Past its guards, a room route is the key pushed after `rooms`, then the action. -/
theorem roomUrl_of_guards (hb : c.base.cannotBeABase = false) (hk : k ≠ "" ∧ k ≠ "." ∧ k ≠ "..") :
    c.roomUrl k a = .ok (match a with
      | some x => ((c.base.popIfEmpty.pushSegment "rooms").pushSegment k).pushSegment x
      | none => (c.base.popIfEmpty.pushSegment "rooms").pushSegment k) := by
  have hg : (k = "" || k = "." || k = "..") = false := by simp [hk.1, hk.2.1, hk.2.2]
  simp only [Client.roomUrl, hg, hb]
  rfl

section
variable (hc : c.base.IsApiRoot) (hk : k ≠ "" ∧ k ≠ "." ∧ k ≠ "..") (ha : ∀ x, a = some x → x ∈ roomActions)
include hc hk ha

/-- **A key that reads as itself** is one encoded segment between `rooms` and the action. -/
theorem roomUrl_of_plain (ht : dropTabsAndNewlines k ≠ "." ∧ dropTabsAndNewlines k ≠ "..") :
    c.roomUrl k a = .ok { c.base with path := (c.base.path ++ "rooms/" ++
      encode (segmentSet c.base.special) (dropTabsAndNewlines k) ++ actionSuffix a) } := by
  obtain ⟨hb, p, hp⟩ := hc
  have hlen : 1 < ({ c.base with path := c.base.path ++ "rooms" } : Url).path.toList.length := by
    show 1 < (c.base.path ++ "rooms").toList.length
    exact length_toList_gt _ (by decide)
  rw [roomUrl_of_guards hb hk, rooms_of_apiRoot hp, pushSegment_of_plain ⟨hk.2.1, hk.2.2⟩ hlen ht]
  rw [withAction_eq _ ?_ ha]
  · have hr : "rooms" ++ "/" = "rooms/" := by decide
    simp only [special_withPath, String.append_assoc, ← hr]
  · exact length_toList_append_gt (length_toList_append_gt hlen _) _

/-- A key that reads as `.` leaves an empty segment after `rooms`. -/
theorem roomUrl_of_dot (ht : dropTabsAndNewlines k = ".") :
    c.roomUrl k a = .ok { c.base with path := c.base.path ++ "rooms/" ++ actionSuffix a } := by
  obtain ⟨hb, p, hp⟩ := hc
  have hlen : 1 < ({ c.base with path := c.base.path ++ "rooms" } : Url).path.toList.length := by
    show 1 < (c.base.path ++ "rooms").toList.length
    exact length_toList_gt _ (by decide)
  rw [roomUrl_of_guards hb hk, rooms_of_apiRoot hp, pushSegment_of_dot ⟨hk.2.1, hk.2.2⟩ hlen ht]
  rw [withAction_eq _ ?_ ha]
  · have hr : "rooms" ++ "/" = "rooms/" := by decide
    simp only [String.append_assoc, ← hr]
  · exact length_toList_append_gt hlen _

/-- A key that reads as `..` takes `rooms` back off: the route is the root's
path and the action. -/
theorem roomUrl_of_dotdot (ht : dropTabsAndNewlines k = "..") :
    c.roomUrl k a = .ok { c.base with path := c.base.path ++ actionSuffix a } := by
  obtain ⟨hb, p, hp⟩ := hc
  have hlen : 1 < ({ c.base with path := c.base.path ++ "rooms" } : Url).path.toList.length := by
    show 1 < (c.base.path ++ "rooms").toList.length
    exact length_toList_gt _ (by decide)
  have hsplit : ({ c.base with path := c.base.path ++ "rooms" } : Url).path.toList =
      (p ++ "/api").toList ++ '/' :: "rooms".toList := by
    show (c.base.path ++ "rooms").toList = _
    rw [hp]
    simp
  have hpath : String.ofList ((p ++ "/api").toList ++ ['/']) = c.base.path := by
    rw [hp]
    simp
  rw [roomUrl_of_guards hb hk, rooms_of_apiRoot hp,
    pushSegment_of_dotdot ⟨hk.2.1, hk.2.2⟩ hlen hsplit (by decide) ht, hpath]
  rw [withAction_eq _ ?_ ha]
  show 1 < c.base.path.toList.length
  rw [hp]
  exact length_toList_gt _ (by decide)

/-- Every room route extends the root's path and keeps its query and fragment. -/
theorem roomUrl_extends_root : ∃ rest, c.roomUrl k a = .ok { c.base with path := c.base.path ++ rest } := by
  by_cases h1 : dropTabsAndNewlines k = "."
  · exact ⟨"rooms/" ++ actionSuffix a, by rw [roomUrl_of_dot hc hk ha h1, String.append_assoc]⟩
  by_cases h2 : dropTabsAndNewlines k = ".."
  · exact ⟨actionSuffix a, roomUrl_of_dotdot hc hk ha h2⟩
  · refine ⟨"rooms/" ++ encode (segmentSet c.base.special) (dropTabsAndNewlines k) ++ actionSuffix a, ?_⟩
    rw [roomUrl_of_plain hc hk ha ⟨h1, h2⟩, String.append_assoc, String.append_assoc, String.append_assoc]

omit hc hk ha in
/-- Two routes of one root agree on their middle segment when they agree on the rest. -/
theorem middle_eq {u : Url} {x y t : String}
    (h : (Except.ok { u with path := u.path ++ "rooms/" ++ x ++ t } : Except Error Url) =
      .ok { u with path := u.path ++ "rooms/" ++ y ++ t }) : x = y := by
  have hp := congrArg Url.path (Except.ok.inj h)
  simp only at hp
  apply String.toList_inj.1
  have := congrArg String.toList hp
  simp only [String.toList_append, List.append_assoc, List.append_cancel_left_eq] at this
  exact List.append_cancel_right this

/-- **A room route names its key exactly when the key has no tab or line break.**
For an API root, a key other than ``, `.` and `..`, and an action of
`roomActions` or none, the route is the root's path, `rooms`, one segment and
the action, the segment percent-decoding to the key's bytes, if and only if
the key holds no tab, line feed or carriage return. -/
theorem roomUrl_names_key_iff :
    (∃ seg, c.roomUrl k a = .ok { c.base with path := c.base.path ++ "rooms/" ++ seg ++ actionSuffix a } ∧
      percentDecode seg = Text.Utf8.encode k) ↔ ∀ ch ∈ k.toList, isTabOrNewline ch = false := by
  constructor
  · rintro ⟨seg, hurl, hdec⟩
    -- the key as the URL library reads it decides the route's shape
    by_cases h1 : dropTabsAndNewlines k = "."
    · rw [roomUrl_of_dot hc hk ha h1, show c.base.path ++ "rooms/" ++ actionSuffix a =
        c.base.path ++ "rooms/" ++ "" ++ actionSuffix a by simp] at hurl
      rw [← middle_eq hurl, percentDecode, Text.Utf8.encode_empty] at hdec
      exact absurd (Text.Utf8.encode_injective (hdec.symm.trans Text.Utf8.encode_empty.symm)) hk.1
    by_cases h2 : dropTabsAndNewlines k = ".."
    · rw [roomUrl_of_dotdot hc hk ha h2] at hurl
      have hp := congrArg (fun r => (r.toOption.map Url.path).getD "") hurl
      simp only [Except.toOption, Option.map_some, Option.getD_some] at hp
      have hl := congrArg String.length hp
      simp only [String.length_append] at hl
      have h6 : "rooms/".length = 6 := by decide
      omega
    · rw [roomUrl_of_plain hc hk ha ⟨h1, h2⟩] at hurl
      rw [← middle_eq hurl, percentDecode_encode (segmentSet_encodes_percent _)] at hdec
      have hk' := congrArg String.toList (Text.Utf8.encode_injective hdec)
      rw [dropTabsAndNewlines, String.toList_ofList] at hk'
      intro ch hch
      simpa using List.filter_eq_self.1 hk' ch hch
  · intro hclean
    have hd : dropTabsAndNewlines k = k := dropTabsAndNewlines_of_forall hclean
    refine ⟨encode (segmentSet c.base.special) k, ?_, percentDecode_encode (segmentSet_encodes_percent _) k⟩
    rw [roomUrl_of_plain hc hk ha (by rw [hd]; exact hk.2), hd]

end

/-- A client of `http://localhost/api/`. -/
def localApi : Client := { base := { scheme := "http", host := some (.domain "localhost"), path := "/api/" } }

theorem localApi_isApiRoot : localApi.base.IsApiRoot := ⟨rfl, "", by decide⟩

/-- The lobby's page by name is `rooms/lobby/by-name`, and the key has no tab or line break. -/
theorem roomUrl_names_lobby :
    localApi.base.IsApiRoot ∧ ("lobby" ≠ "" ∧ "lobby" ≠ "." ∧ "lobby" ≠ "..") ∧
      (∀ x, some "by-name" = some x → x ∈ roomActions) ∧
      ((∃ seg, localApi.roomUrl "lobby" (some "by-name") =
          .ok { localApi.base with path := localApi.base.path ++ "rooms/" ++ seg ++ actionSuffix (some "by-name") } ∧
          percentDecode seg = Text.Utf8.encode "lobby") ↔
        ∀ ch ∈ "lobby".toList, isTabOrNewline ch = false) :=
  ⟨localApi_isApiRoot, by decide, by simp [roomActions],
    roomUrl_names_key_iff localApi_isApiRoot (by decide) (by simp [roomActions])⟩

/-- **Keys the guard lets through reach other routes.** `..` and a line feed
is read as `..` and takes the route back to the API root itself, and `a`, a
tab and `b` is read as the room `ab`. -/
theorem roomUrl_reads_through_tabs_and_newlines :
    localApi.roomUrl "..\n" none = .ok localApi.base ∧
      localApi.roomUrl "a\tb" none = .ok { localApi.base with path := "/api/rooms/ab" } := by
  have hnone : ∀ x, (none : Option String) = some x → x ∈ roomActions := fun _ h => nomatch h
  constructor
  · rw [roomUrl_of_dotdot localApi_isApiRoot (by decide) hnone (by decide)]
    rfl
  · have hd : dropTabsAndNewlines "a\tb" = "ab" := by decide
    rw [roomUrl_of_plain localApi_isApiRoot (by decide) hnone (by rw [hd]; decide), hd,
      encode_of_safe (by decide)]
    rfl

/-- The path of the API root for a parsed path: its trailing slashes dropped,
then `/` after a final `/api` and `/api/` after anything else. -/
def apiRootPath (p : String) : String :=
  let x := String.ofList (rstrip p.toList)
  if x.endsWith "/api" then x ++ "/" else x ++ "/api/"

/-- **Normalizing sets the API root path and nothing else.** A URL that can be
a base normalizes to itself with its path replaced by its API root path: the
path setter reads that settled path back as it is written. -/
theorem normalizeBase_eq {raw : String} {u : Url} (h : Url.parse raw = .ok u) (hu : u.cannotBeABase = false) :
    normalizeBase raw = .ok { u with path := apiRootPath u.path } := by
  obtain ⟨segs, hs, hx⟩ := (parse_settled h hu).rstrip
  have hnorm : normalizeBase raw = .ok (if (String.ofList (rstrip u.path.toList)).endsWith "/api" then
      u.setPath (String.ofList (rstrip u.path.toList) ++ "/")
      else u.setPath (String.ofList (rstrip u.path.toList) ++ "/api/")) := by
    simp only [normalizeBase, h, Except.mapError, bind, Except.bind, pure, Except.pure]
    rfl
  rw [hnorm, apiRootPath, hx]
  split
  · rw [show String.ofList (joinSegments segs) ++ "/" = String.ofList (joinSegments segs ++ ['/']) by simp,
      setPath_settled hu hs]
  · -- `api` is one more settled segment
    have hapi : (segs ++ ["api".toList]).all (settledSegment u.special) = true := by
      simp only [List.all_append, List.all_cons, List.all_nil, hs, settledSegment_api, Bool.and_self]
    rw [show String.ofList (joinSegments segs) ++ "/api/" =
        String.ofList (joinSegments (segs ++ ["api".toList]) ++ ['/']) by simp [joinSegments_concat],
      setPath_settled hu hapi]

/-- A path that ends in `/api/` after a text that is empty or starts with a
slash makes a URL an API root. -/
theorem isApiRoot_of_path (u : Url) {p : List Char} (hp : p = [] ∨ p.head? = some '/') :
    ({ u with path := String.ofList p ++ "/api/" } : Url).IsApiRoot := by
  refine ⟨?_, _, rfl⟩
  -- the path starts with a slash, so the URL can be a base
  have hstart : (String.ofList p ++ "/api/").startsWith "/" = true := by
    rw [String.startsWith_string_iff]
    rcases hp with rfl | hp
    · exact ⟨"api/".toList, by simp⟩
    · obtain ⟨t, rfl⟩ := List.head?_eq_some_iff.1 hp
      exact ⟨t ++ "/api/".toList, by simp⟩
  simp [Url.cannotBeABase, hstart]

/-- The API root path of a parsed URL makes it an API root. -/
theorem isApiRoot_apiRootPath {u : Url} (hx : SettledPath u.special (rstrip u.path.toList)) :
    ({ u with path := apiRootPath u.path } : Url).IsApiRoot := by
  rw [apiRootPath]
  split
  · next hapi =>
    -- the path already ends in `/api`, which gains only the slash
    rw [String.endsWith, String.Slice.endsWith_string_iff, String.copy_toSlice] at hapi
    obtain ⟨y, hy⟩ := hapi
    simp only [String.toList_ofList] at hy
    have hy' : y = [] ∨ y.head? = some '/' := by
      rcases hx.head with hnil | hhead
      · rw [hnil] at hy
        simp at hy
      · rcases y with _ | ⟨c, y⟩
        · exact .inl rfl
        · right
          rw [← hy] at hhead
          simpa using hhead
    rw [show String.ofList (rstrip u.path.toList) ++ "/" = String.ofList y ++ "/api/" from
      String.toList_inj.1 (by simp [← hy])]
    exact isApiRoot_of_path u hy'
  · exact isApiRoot_of_path u hx.head

/-- The routes a client resolves against its root. -/
def fixedRoutes : List String := ["config/rooms", "rooms", "pull", "docker-compose.yaml", "events"]

/-- **A fixed route drops the root's query.** It is the root's path with the
route after it, and has neither query nor fragment. -/
theorem url_of_fixedRoute (hc : c.base.IsApiRoot) :
    ∀ r ∈ fixedRoutes, c.url r = .ok { c.base with path := c.base.path ++ r, query := none, fragment := none } := by
  obtain ⟨hb, p, hp⟩ := hc
  have hp' : c.base.path = (p ++ "/api") ++ "/" := by rw [hp, String.append_assoc]; rfl
  intro r hr
  suffices hjoin : c.base.join r = .ok { c.base with path := c.base.path ++ r, query := none, fragment := none } by
    simp [Client.url, hjoin, Except.mapError]
  simp only [fixedRoutes, List.mem_cons, List.not_mem_nil, or_false] at hr
  -- `config/rooms` is two segments; the others are one
  rcases hr with rfl | rfl | rfl | rfl | rfl
  · refine join_route hb hp' (by decide : "config/rooms".toList = 'c' :: "onfig/rooms".toList)
      (by decide) (by decide) (by decide) ?_
    rw [show "config/rooms".toList = "config".toList ++ '/' :: "rooms".toList by decide]
    exact parsePath_plain_two _ (by simp) _ (by decide) (by decide) (by decide) (by decide) (by decide) (by decide)
  · exact join_route hb hp' (by decide : "rooms".toList = 'r' :: "ooms".toList) (by decide) (by decide) (by decide)
      (parsePath_plain _ _ _ (by decide) (by decide) (by decide))
  · exact join_route hb hp' (by decide : "pull".toList = 'p' :: "ull".toList) (by decide) (by decide) (by decide)
      (parsePath_plain _ _ _ (by decide) (by decide) (by decide))
  · exact join_route hb hp' (by decide : "docker-compose.yaml".toList = 'd' :: "ocker-compose.yaml".toList)
      (by decide) (by decide) (by decide) (parsePath_plain _ _ _ (by decide) (by decide) (by decide))
  · exact join_route hb hp' (by decide : "events".toList = 'e' :: "vents".toList) (by decide) (by decide) (by decide)
      (parsePath_plain _ _ _ (by decide) (by decide) (by decide))

theorem eq_ok_of_toOption {ε α : Type} {e : Except ε α} {x : α} (h : e.toOption = some x) : e = .ok x := by
  cases e <;> simp_all [Except.toOption]

/-- The root `http://[::1]/api?x=y` as it parses. -/
def loopbackRoot : Url :=
  { scheme := "http", host := some (.ipv6 [0, 0, 0, 0, 0, 0, 0, 1]), path := "/api", query := some "x=y" }

theorem parse_loopbackRoot : Url.parse "http://[::1]/api?x=y" = .ok loopbackRoot :=
  eq_ok_of_toOption (by decide +kernel)

/-- **Both route builders extend the normalized root.** A URL that parses and
can be a base normalizes to itself with its path replaced by its API root path
(trailing slashes dropped, then `/` after a final `/api` and `/api/`
otherwise), which makes it an API root. A fixed route is that path with the
route after it and has neither query nor fragment; a room route is that path
with more after it and keeps the root's query and fragment, which are the
parsed URL's. -/
theorem routes_extend_apiRoot {raw : String} {u : Url} (hu : Url.parse raw = .ok u)
    (hbase : u.cannotBeABase = false) (cr : Option Credentials) (hk : k ≠ "" ∧ k ≠ "." ∧ k ≠ "..")
    (ha : ∀ x, a = some x → x ∈ roomActions) :
    ∃ b, normalizeBase raw = .ok b ∧ b = { u with path := apiRootPath u.path } ∧ b.IsApiRoot ∧
      (∀ r ∈ fixedRoutes, Client.url ⟨b, cr⟩ r = .ok { b with path := b.path ++ r, query := none, fragment := none }) ∧
      ∃ rest, Client.roomUrl ⟨b, cr⟩ k a = .ok { b with path := b.path ++ rest } := by
  have hroot := isApiRoot_apiRootPath (parse_settled hu hbase).rstrip
  exact ⟨_, normalizeBase_eq hu hbase, rfl, hroot, url_of_fixedRoute (c := ⟨_, cr⟩) hroot,
    roomUrl_extends_root (c := ⟨_, cr⟩) hroot hk ha⟩

theorem routes_extend_loopbackRoot :
    ∃ b, normalizeBase "http://[::1]/api?x=y" = .ok b ∧ b = { loopbackRoot with path := apiRootPath loopbackRoot.path } ∧
      b.IsApiRoot ∧
      (∀ r ∈ fixedRoutes, Client.url ⟨b, none⟩ r =
        .ok { b with path := b.path ++ r, query := none, fragment := none }) ∧
      ∃ rest, Client.roomUrl ⟨b, none⟩ "lobby" (some "start") = .ok { b with path := b.path ++ rest } :=
  routes_extend_apiRoot parse_loopbackRoot (by decide) none (by decide) (by rintro x ⟨⟩; decide)

/-- **A root's query reaches the room routes only.** The root
`http://[::1]/api?x=y` keeps its query on the route of room `r` and drops it
from the fixed route `rooms`. -/
theorem roomUrl_keeps_root_query :
    ∃ b, normalizeBase "http://[::1]/api?x=y" = .ok b ∧
      (∃ v, Client.url ⟨b, none⟩ "rooms" = .ok v ∧ v.query = none) ∧
      ∃ v, Client.roomUrl ⟨b, none⟩ "r" none = .ok v ∧ v.query = some "x=y" := by
  have hroot := isApiRoot_apiRootPath (parse_settled parse_loopbackRoot (by decide)).rstrip
  obtain ⟨rest, hroom⟩ := roomUrl_extends_root (c := ⟨_, none⟩) (k := "r") (a := none) hroot (by decide)
    (by rintro x ⟨⟩)
  exact ⟨_, normalizeBase_eq parse_loopbackRoot (by decide),
    ⟨_, url_of_fixedRoute (c := ⟨_, none⟩) hroot "rooms" (by decide), rfl⟩, ⟨_, hroom, rfl⟩⟩

end RoomConsole.Client
