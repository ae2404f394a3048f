import RoomConsole.Cli.Program

/-!
# Console settings: what comes from where

A command that reaches the server first settles its console settings from
the loaded configuration, the environment and the global options
(`settingsFor`), and then only `watch` follows the event stream
(`Invocation.withEvents`). Each setting has its own chain of precedence,
read here one at a time:

* the profile is the one named by `--profile`, else the default profile,
  else `default`; when that profile is not configured, the run fails as a
  missing profile if `--profile` named it, as a missing configuration if
  there is no `--url` either, and otherwise uses `--url` alone
  (`selectedProfile`, `settingsFor_selected`, `settingsFor_unselected`);
* the URL is `--url` over the profile's, and one that does not parse fails
  as a bad `url` value;
* there are credentials exactly when `--username` or the profile gives a
  user name; the password is the first of the profile's variable,
  `ROOMCTL_PASSWORD`, the keyring and the file (`firstPassword`,
  `resolvePassword_eq`), and a user name without any fails the run;
* any certificate is accepted when `--insecure` is given or the profile,
  else the defaults, says so; otherwise the profile's CA file, if it names
  one, else the system's;
* the timeout is `--timeout`, else the profile's, else the defaults'.

`settings_precedence` states all of it for every configuration, environment,
keyring and set of options.
-/

namespace RoomConsole.Cli

open RoomConsole.Config RoomConsole.Client

/-- The profile a configuration holds under a name. -/
def profileOf (cfg : Config) (name : String) : Option Profile :=
  (cfg.profiles.find? (·.1 = name)).map (·.2)

/-- The profile a run uses: the configured profile of the chosen name, or,
when there is none and no profile was asked for, one made of `--url`. -/
def selectedProfile (cfg : Config) (g : Globals) : Option Profile :=
  match profileOf cfg (cfg.profileName g.profile) with
  | some p => some p
  | none => if g.profile.isSome then none else g.url.map fun url => { url }

/-- The first source of a password that has one: the variable the profile
names, `ROOMCTL_PASSWORD`, the keyring, the file. -/
def firstPassword (sec : Secrets) (p : Profile) (name : String) : Option String :=
  [p.passwordEnv.bind sec.env, sec.env passwordVar, sec.keyring (keyringAccount name), p.password].findSome? id

/-- Whether a command follows the event stream: only `watch` does. -/
def Invocation.watches : Invocation → Bool
  | .watch _ _ => true
  | _ => false

/-- Whether a command asks for the rooms the event stream announces. -/
def Invocation.hydrates : Invocation → Bool
  | .watch hydrate _ => hydrate
  | _ => false

/-! ## One source after another -/

/-- **The password chain**: the first source that has a password gives it;
with none, the profile has no credentials. -/
theorem resolvePassword_eq (sec : Secrets) (p : Profile) (name : String) :
    resolvePassword sec p name =
      match firstPassword sec p name with
      | some pw => .ok pw
      | none => .error (.noCredentials name) := by
  unfold resolvePassword firstPassword
  cases p.passwordEnv.bind sec.env <;> cases sec.env passwordVar <;>
    cases sec.keyring (keyringAccount name) <;> cases p.password <;> rfl

/-- The password chain does not look at the user name or the URL. -/
theorem firstPassword_withUser (sec : Secrets) (p : Profile) (name url : String)
    (user : Option String) :
    firstPassword sec { p with url, username := user } name = firstPassword sec p name := rfl

/-- A command changes only the two event settings: whether to follow the
stream, and whether to fetch the rooms it announces. -/
theorem withEvents_eq (inv : Invocation) (cc : ConsoleConfig) :
    inv.withEvents cc =
      { cc with eventsEnabled := inv.watches, hydrateCreated := cc.hydrateCreated || inv.hydrates } := by
  cases inv <;> simp [Invocation.withEvents, Invocation.watches, Invocation.hydrates]

theorem withEvents_eventsEnabled (inv : Invocation) (cc : ConsoleConfig) :
    (inv.withEvents cc).eventsEnabled = inv.watches := by
  rw [withEvents_eq]

theorem withEvents_hydrateCreated (inv : Invocation) (cc : ConsoleConfig) :
    (inv.withEvents cc).hydrateCreated = (cc.hydrateCreated || inv.hydrates) := by
  rw [withEvents_eq]

/-! ## The profile in use -/

variable (sec : Secrets) (cfg : Config) (g : Globals) (path : String)

/-- The settings read through `profileOf`. -/
theorem settingsFor_eq :
    settingsFor sec cfg g path =
      match profileOf cfg (cfg.profileName g.profile) with
      | some p => resolveProfile sec p (cfg.profileName g.profile) cfg.defaults g
      | none =>
        if g.profile.isSome then
          .error (.profileNotFound (cfg.profileName g.profile) (availableProfiles cfg))
        else match g.url with
          | none => .error (.noConfig path)
          | some url => resolveProfile sec { url } (cfg.profileName g.profile) cfg.defaults g := by
  unfold settingsFor profileOf
  dsimp only
  cases cfg.profiles.find? (·.1 = cfg.profileName g.profile) with
  | none => rfl
  | some e =>
    obtain ⟨n, p⟩ := e
    rfl

/-- With a profile in use, the settings are that profile's with the
options over it. -/
theorem settingsFor_selected {p : Profile} (hp : selectedProfile cfg g = some p) :
    settingsFor sec cfg g path = resolveProfile sec p (cfg.profileName g.profile) cfg.defaults g := by
  unfold selectedProfile at hp
  rw [settingsFor_eq]
  cases hf : profileOf cfg (cfg.profileName g.profile) with
  | some q =>
    rw [hf] at hp
    cases hp
    rfl
  | none =>
    -- no profile is configured: `--url` stands in for one
    rw [hf] at hp
    by_cases hg : g.profile.isSome
    · simp [hg] at hp
    · cases hu : g.url with
      | none => simp [hg, hu] at hp
      | some url =>
        simp only [hg, hu, Bool.false_eq_true, if_false, Option.map_some, Option.some.injEq] at hp
        subst hp
        simp [hg]

/-- With no profile in use, the run fails as a missing profile when one was
asked for, and as a missing configuration otherwise. -/
theorem settingsFor_unselected (hp : selectedProfile cfg g = none) :
    settingsFor sec cfg g path =
      if g.profile.isSome then
        .error (.profileNotFound (cfg.profileName g.profile) (availableProfiles cfg))
      else .error (.noConfig path) := by
  unfold selectedProfile at hp
  rw [settingsFor_eq]
  cases hf : profileOf cfg (cfg.profileName g.profile) with
  | some q => simp [hf] at hp
  | none =>
    rw [hf] at hp
    by_cases hg : g.profile.isSome
    · simp [hg]
    · cases hu : g.url with
      | none => simp [hg]
      | some url => simp [hg, hu] at hp

/-- A profile is in use unless the chosen one is missing and `--profile`
named it or there is no `--url`. -/
theorem selectedProfile_eq_none :
    selectedProfile cfg g = none ↔
      profileOf cfg (cfg.profileName g.profile) = none ∧ (g.profile.isSome ∨ g.url = none) := by
  unfold selectedProfile
  cases hf : profileOf cfg (cfg.profileName g.profile) with
  | some p => simp
  | none =>
    by_cases hg : g.profile.isSome
    · simp [hg]
    · cases g.url <;> simp [hg]

/-! ## Resolving a profile -/

/-- **Resolving a profile with the options over it.** The URL is `--url`
over the profile's; the credentials are there exactly with a user name,
from `--username` over the profile's, and the first password found; any
certificate is accepted under `--insecure` or the profile's or defaults'
say-so, else the CA file, else the system's; the timeout is `--timeout`
over the profile's over the defaults'. -/
theorem resolveProfile_eq (p : Profile) (name : String) (d : Defaults) :
    resolveProfile sec p name d g =
      match Url.parse (g.url.getD p.url) with
      | .error e =>
        .error (.validation "url" ("invalid URL '" ++ g.url.getD p.url ++ "': " ++ e.message))
      | .ok u =>
        match g.username.or p.username, firstPassword sec p name with
        | some _, none => .error (.noCredentials name)
        | user, pw => .ok
          { url := u, credentials := user.bind fun n => pw.map fun pw => { username := n, password := pw },
            tls := if g.insecure || p.insecure.getD d.insecure then .acceptInvalid
              else (p.caCert.map .customCa).getD .system,
            timeoutSecs := g.timeout.getD (p.timeout.getD d.timeout),
            eventsEnabled := p.events.getD true, hydrateCreated := p.hydrateCreated.getD false } := by
  have huser : (if g.username.isSome then g.username else p.username) = g.username.or p.username := by
    cases g.username <;> rfl
  unfold resolveProfile Profile.toConsoleConfig parseUrl
  simp only [huser]
  cases hparse : Url.parse (g.url.getD p.url) with
  | error e => rfl
  | ok u =>
    simp only [bind, Except.bind, resolveCredentials]
    -- the user name, then the password chain, decide the credentials
    cases hu : g.username.or p.username with
    | none =>
      cases firstPassword sec p name <;>
        cases g.insecure <;> cases g.timeout <;> cases p.caCert <;> simp [pure, Except.pure]
    | some n =>
      rw [resolvePassword_eq, firstPassword_withUser]
      cases firstPassword sec p name <;> cases g.insecure <;> cases g.timeout <;> cases p.caCert <;>
        simp [Failure.ofConfig, Except.map, pure, Except.pure]

/-- Resolving a profile fails only on its URL or its password. -/
theorem resolveProfile_error {p : Profile} {name : String} {d : Defaults} {f : Failure}
    (h : resolveProfile sec p name d g = .error f) :
    (∃ reason, f = .validation "url" reason) ∨ f = .noCredentials name := by
  rw [resolveProfile_eq] at h
  split at h
  · cases h
    exact .inl ⟨_, rfl⟩
  · split at h
    · cases h
      exact .inr rfl
    · cases h

/-- The failures of choosing a profile: a missing profile exactly when none
is in use and `--profile` was given. -/
theorem settingsFor_profileNotFound_iff :
    (∃ n a, settingsFor sec cfg g path = .error (.profileNotFound n a)) ↔
      selectedProfile cfg g = none ∧ g.profile.isSome := by
  cases hsel : selectedProfile cfg g with
  | some p =>
    simp only [settingsFor_selected sec cfg g path hsel, reduceCtorEq, false_and, iff_false]
    rintro ⟨n, a, h⟩
    rcases resolveProfile_error sec g h with ⟨_, h⟩ | h <;> cases h
  | none =>
    rw [settingsFor_unselected sec cfg g path hsel]
    cases g.profile.isSome <;> simp

/-- And a missing configuration exactly when none is in use and `--profile`
was not given. -/
theorem settingsFor_noConfig_iff :
    (∃ q, settingsFor sec cfg g path = .error (.noConfig q)) ↔
      selectedProfile cfg g = none ∧ g.profile = none := by
  cases hsel : selectedProfile cfg g with
  | some p =>
    simp only [settingsFor_selected sec cfg g path hsel, reduceCtorEq, false_and, iff_false]
    rintro ⟨q, h⟩
    rcases resolveProfile_error sec g h with ⟨_, h⟩ | h <;> cases h
  | none =>
    rw [settingsFor_unselected sec cfg g path hsel]
    cases g.profile <;> simp

theorem map_withEvents_eq_error (inv : Invocation) {x : Except Failure ConsoleConfig} {f : Failure} :
    x.map inv.withEvents = .error f ↔ x = .error f := by
  cases x <;> simp [Except.map]

/-! ## The whole resolution -/

/-- **Where each console setting comes from.** For every configuration,
environment, keyring and set of global options: the profile is named by
`--profile`, else the default profile, else `default`. The run fails as a
missing profile exactly when `--profile` names one that is not configured,
and as a missing configuration exactly when the chosen profile is not
configured and neither `--profile` nor `--url` is given. Otherwise, with the
profile in use: a URL (`--url` over the profile's) that does not parse
fails as a bad `url`; a user name (`--username` over the profile's) with no
password found fails as missing credentials; and else the settings hold the
parsed URL, credentials exactly when there is a user name, with the first
password found, any certificate accepted under `--insecure` or the
profile's (else the defaults') say-so and else the profile's CA file or
else the system's, the timeout `--timeout` over the profile's over the
defaults', events followed only by `watch`, and announced rooms fetched when
the profile or `watch --hydrate` asks. -/
theorem settings_precedence (inv : Invocation) :
    let name := cfg.profileName g.profile
    let result := (settingsFor sec cfg g path).map inv.withEvents
    name = (g.profile.or cfg.defaultProfile).getD "default" ∧
    ((∃ n a, result = .error (.profileNotFound n a)) ↔
      ∃ p, g.profile = some p ∧ profileOf cfg p = none) ∧
    ((∃ q, result = .error (.noConfig q)) ↔
      profileOf cfg name = none ∧ g.profile = none ∧ g.url = none) ∧
    ∀ p, selectedProfile cfg g = some p →
      (∀ e, Url.parse (g.url.getD p.url) = .error e →
        result = .error (.validation "url" ("invalid URL '" ++ g.url.getD p.url ++ "': " ++ e.message))) ∧
      ∀ u, Url.parse (g.url.getD p.url) = .ok u →
        ((g.username.or p.username).isSome ∧ firstPassword sec p name = none →
          result = .error (.noCredentials name)) ∧
        ((g.username.or p.username).isNone ∨ (firstPassword sec p name).isSome →
          result = .ok
            { url := u,
              credentials := (g.username.or p.username).bind fun n =>
                (firstPassword sec p name).map fun pw => { username := n, password := pw },
              tls := if g.insecure || p.insecure.getD cfg.defaults.insecure then .acceptInvalid
                else (p.caCert.map .customCa).getD .system,
              timeoutSecs := g.timeout.getD (p.timeout.getD cfg.defaults.timeout),
              eventsEnabled := inv.watches,
              hydrateCreated := p.hydrateCreated.getD false || inv.hydrates }) := by
  intro name result
  refine ⟨rfl, ?_, ?_, fun p hp => ?_⟩
  · -- a missing profile: no profile in use, and `--profile` given
    simp only [result, map_withEvents_eq_error, settingsFor_profileNotFound_iff,
      selectedProfile_eq_none]
    cases hq : g.profile with
    | none => simp
    | some q => simp [Config.profileName]
  · -- a missing configuration: no profile in use, and no `--profile`
    simp only [result, map_withEvents_eq_error, settingsFor_noConfig_iff, selectedProfile_eq_none]
    cases hq : g.profile with
    | none => simp [name, hq]
    | some q => simp
  · -- the profile in use, resolved
    have hres : result = (resolveProfile sec p name cfg.defaults g).map inv.withEvents := by
      simp only [result, name, settingsFor_selected sec cfg g path hp]
    rw [hres, resolveProfile_eq]
    refine ⟨fun e he => by simp [he, Except.map], fun u hu => ⟨fun ⟨huser, hpw⟩ => ?_, fun h => ?_⟩⟩
    · obtain ⟨n, hn⟩ := Option.isSome_iff_exists.1 huser
      simp [hu, hn, hpw, Except.map]
    · -- with no user name, or with a password, the settings are made
      rcases h with hnone | hpw
      · rw [Option.isNone_iff_eq_none.1 hnone]
        simp [hu, Except.map, withEvents_eq]
      · obtain ⟨pw, hpw⟩ := Option.isSome_iff_exists.1 hpw
        cases g.username.or p.username <;> simp [hu, hpw, Except.map, withEvents_eq]

end RoomConsole.Cli
