import RoomConsole.Cli.Program
import RoomConsole.Proofs.Host.Frame
import RoomConsole.Proofs.Client.Routes

/-!
# What `config init` writes

`config init` loads the configuration as every command does
(`loadedIn`: the file and the `ROOMCTL_*` variables over the built-in
defaults, or the built-in configuration alone when loading fails), asks
for a profile on the terminal, puts it in (`putInitProfile`) and saves the
result. The questions keep the files and the environment
(`askProfile_keeps`), and a save that succeeds leaves the rendered text at
the configuration path (`saveConfig_ok`).

`init_writes_loaded_config` assembles it: a run that ends normally has
written exactly the loaded configuration with the profile added or
replaced (`profile_putInitProfile`), every other profile and the defaults
as loaded, and the new profile made the default one when no default is
set or it is the only profile (`defaultProfile_putInitProfile`).

What is loaded is not only the file: a value set only in the environment
is written back, and a file that cannot be loaded together with the
environment is replaced by the built-in configuration. As the built-in
layer already names a default profile, the new profile is the default one
only when it is the only profile (`init_writes_environment_and_fallback`).
-/

namespace RoomConsole.Host

/-! ## Writing a file -/

/-- A path that is neither the root nor the working directory names what
was last put there. -/
theorem Files.lookup_put (fs : Files) {p : String} (e : Entry) (hroot : normalize p ≠ "/")
    (hcwd : normalize p ≠ "") : (fs.put p e).lookup p = some e := by
  have hfind : ((fs.entries.filter (·.1 ≠ normalize p)) ++ [(normalize p, e)]).find?
      (·.1 = normalize p) = some (normalize p, e) := by
    rw [List.find?_append, List.find?_eq_none.2 (by simp)]
    simp
  simp only [Files.lookup, Files.put]
  rw [hfind]
  simp [hroot, hcwd]

/-- **A file written reads back.** -/
theorem Files.read_write {fs fs' : Files} {p text : String} (h : fs.write p text = .ok fs') :
    fs'.read p = some text := by
  unfold Files.write at h
  cases hw : fs.walk p with
  | error e => simp [hw, bind, Except.bind] at h
  | ok u =>
    simp only [hw, bind, Except.bind] at h
    split at h
    · cases h
    · rename_i hdir
      cases h
      -- the root and the working directory are directories, so the path is neither
      have hp : ¬ (normalize p = "/" ∨ normalize p = "") := fun hq =>
        hdir (by rcases hq with hq | hq <;> simp [Files.lookup, hq])
      rw [not_or] at hp
      simp [Files.read, Files.lookup_put fs _ hp.1 hp.2]

end RoomConsole.Host

namespace RoomConsole.Config

/-! ## Putting a profile in -/

variable (cfg : Config) (name : String) (p : Profile)

/-- Filtering keeps the first entry of a key when it keeps every entry of
that key. -/
theorem find?_filter_of_keeps {l : List (String × Profile)} {keep : String × Profile → Bool}
    {n : String} (h : ∀ e : String × Profile, e.1 = n → keep e = true) :
    (l.filter keep).find? (·.1 == n) = l.find? (·.1 == n) := by
  rw [List.find?_filter]
  congr 1
  funext e
  by_cases he : e.1 = n <;> simp [he, h e]

/-- Filtering out every entry of a key leaves none to find. -/
theorem find?_filter_of_drops {l : List (String × Profile)} {keep : String × Profile → Bool}
    {n : String} (h : ∀ e : String × Profile, e.1 = n → keep e = false) :
    (l.filter keep).find? (·.1 == n) = none := by
  rw [List.find?_eq_none]
  intro e he hn
  have hkeep := (List.mem_filter.1 he).2
  rw [h e (by simpa using hn)] at hkeep
  cases hkeep

/-- **A profile put in is found under its name, and every other name finds
what it found before.** The others keep their order on either side of the
new one, so the first entry of each name is still the first. -/
theorem find?_putProfile (n : String) :
    (cfg.putProfile name p).profiles.find? (·.1 == n) =
      if n = name then some (name, p) else cfg.profiles.find? (·.1 == n) := by
  simp only [Config.putProfile, List.find?_append]
  by_cases hn : n = name
  · -- no other entry is named `name`
    subst hn
    rw [if_pos rfl, find?_filter_of_drops fun e he => by simp [he]]
    simp
  · rw [if_neg hn]
    have hnew : [(name, p)].find? (·.1 == n) = none := by simp [Ne.symm hn]
    have hothers : (cfg.profiles.filter (·.1 != name)).find? (·.1 == n) =
        cfg.profiles.find? (·.1 == n) :=
      find?_filter_of_keeps fun e he => by simp [he, hn]
    rw [hnew, Option.or_none, ← hothers]
    by_cases hlt : n < name
    · -- the entries named `n` all stand before the new one
      have hbefore : ((cfg.profiles.filter (·.1 != name)).filter fun e => e.1 < name).find? (·.1 == n) =
          (cfg.profiles.filter (·.1 != name)).find? (·.1 == n) :=
        find?_filter_of_keeps fun e he => by simp [he, hlt]
      have hafter : ((cfg.profiles.filter (·.1 != name)).filter fun e => !(e.1 < name)).find?
          (·.1 == n) = none :=
        find?_filter_of_drops fun e he => by simp [he, hlt]
      rw [hbefore, hafter, Option.or_none]
    · -- and all after it
      have hbefore : ((cfg.profiles.filter (·.1 != name)).filter fun e => e.1 < name).find? (·.1 == n) =
          none :=
        find?_filter_of_drops fun e he => by simp [he, hlt]
      have hafter : ((cfg.profiles.filter (·.1 != name)).filter fun e => !(e.1 < name)).find?
          (·.1 == n) = (cfg.profiles.filter (·.1 != name)).find? (·.1 == n) :=
        find?_filter_of_keeps fun e he => by simp [he, hlt]
      rw [hbefore, hafter, Option.none_or]

theorem profile_putProfile (n : String) :
    (cfg.putProfile name p).profile n = if n = name then .ok p else cfg.profile n := by
  simp only [Config.profile, find?_putProfile]
  by_cases hn : n = name
  · simp [hn]
  · simp [hn]

/-- The profiles put in are the new one alone exactly when every profile
there was already had its name. -/
theorem length_putProfile_eq_one :
    (cfg.putProfile name p).profiles.length = 1 ↔ ∀ e ∈ cfg.profiles, e.1 = name := by
  simp only [Config.putProfile, List.length_append, List.length_singleton]
  constructor
  · intro h e he
    refine Classical.byContradiction fun hne => ?_
    -- `e` stays, before or after the new profile
    have hkept : e ∈ cfg.profiles.filter (·.1 != name) := List.mem_filter.2 ⟨he, by simpa using hne⟩
    by_cases hlt : e.1 < name
    · have : 0 < ((cfg.profiles.filter (·.1 != name)).filter fun e => e.1 < name).length :=
        List.length_pos_of_mem (List.mem_filter.2 ⟨hkept, by simpa using hlt⟩)
      omega
    · have : 0 < ((cfg.profiles.filter (·.1 != name)).filter fun e => !(e.1 < name)).length :=
        List.length_pos_of_mem (List.mem_filter.2 ⟨hkept, by simpa using hlt⟩)
      omega
  · intro h
    have hnone : cfg.profiles.filter (·.1 != name) = [] :=
      List.filter_eq_nil_iff.2 fun e he => by simp [h e he]
    simp [hnone]

end RoomConsole.Config

namespace RoomConsole.Cli

open RoomConsole.Host
open RoomConsole.Config

variable (cfg : Config) (name : String) (p : Profile)

theorem profiles_putInitProfile :
    (putInitProfile cfg name p).profiles = (cfg.putProfile name p).profiles := by
  unfold putInitProfile
  dsimp only
  split <;> rfl

theorem profile_putInitProfile (n : String) :
    (putInitProfile cfg name p).profile n = if n = name then .ok p else cfg.profile n := by
  rw [← profile_putProfile]
  simp only [Config.profile, profiles_putInitProfile]

theorem defaults_putInitProfile : (putInitProfile cfg name p).defaults = cfg.defaults := by
  unfold putInitProfile
  dsimp only
  split <;> rfl

/-- **The new profile is the default one** when no default is set or no
other profile is there; otherwise the default stays. -/
theorem defaultProfile_putInitProfile :
    (putInitProfile cfg name p).defaultProfile =
      if cfg.defaultProfile = none ∨ ∀ e ∈ cfg.profiles, e.1 = name then some name
      else cfg.defaultProfile := by
  unfold putInitProfile
  dsimp only
  have hdef : (cfg.putProfile name p).defaultProfile = cfg.defaultProfile := rfl
  -- the code asks for no default, or a single profile after putting it in
  have hcond : ((cfg.putProfile name p).defaultProfile.isNone ||
      decide ((cfg.putProfile name p).profiles.length = 1)) = true ↔
      cfg.defaultProfile = none ∨ ∀ e ∈ cfg.profiles, e.1 = name := by
    rw [hdef, ← length_putProfile_eq_one cfg name p]
    simp
  by_cases hc : cfg.defaultProfile = none ∨ ∀ e ∈ cfg.profiles, e.1 = name
  · rw [if_pos (hcond.2 hc), if_pos hc]
  · rw [if_neg (mt hcond.1 hc), if_neg hc, hdef]

/-! ## Loading and saving -/

/-- The configuration a run loads from the world it starts in: the file at
the configuration path and the environment over the built-in defaults, or
the built-in configuration when that fails. -/
def loadedIn (w : World) : Config :=
  match load ((w.files.read (configPathIn w.var)).map fun text => { path := configPathIn w.var, text })
      w.env with
  | .ok cfg => cfg
  | .error _ => {}

theorem run_loadConfig (w : World) : loadConfig.run.run w = (.ok (loadedIn w), w) := by
  rw [loadConfig, run_bind, run_get]
  dsimp only
  unfold loadedIn
  -- both sides match on the same load: split on its result, since comparing
  -- the two matches whole makes Lean unfold the loader
  cases load ((w.files.read (configPathIn w.var)).map fun text => { path := configPathIn w.var, text })
    w.env <;> rfl

/-- **A save that succeeds has written the configuration's text** at the
configuration path, and kept the environment. -/
theorem saveConfig_ok {cfg : Config} {w w' : World} {path : String}
    (h : (saveConfig cfg).run.run w = (.ok (.ok path), w')) :
    ∃ text, cfg.render = .ok text ∧ w'.files.read (configPathIn w.var) = some text ∧ w'.env = w.env := by
  rw [saveConfig, run_bind, run_get] at h
  dsimp only at h
  split at h
  · -- the directories could not be made
    cases h
  · rw [run_bind, run_set] at h
    dsimp only at h
    split at h
    · cases h
    · rename_i text hr
      split at h
      · cases h
      · rename_i fs' hw
        rw [run_bind, run_set] at h
        dsimp only at h
        rw [run_pure] at h
        cases h
        exact ⟨text, hr, Files.read_write hw, rfl⟩

/-! ## The questions -/

theorem report_keeps {α : Type} (f : Failure) : Keeps (report f : Run α) :=
  Keeps.get.bind fun _ => (Keeps.emit _ _).bind fun _ => Keeps.exitWith _

theorem run_report {α : Type} (f : Failure) (w : World) :
    ((report f : Run α).run.run w).1 = .error (.exited f.exitCode) := rfl

theorem orReport_keeps {α : Type} {r : Run (Except String α)} (hr : Keeps r) : Keeps (orReport r) :=
  hr.bind fun a => by
    cases a
    · exact report_keeps _
    · exact Keeps.pure _

theorem storePassword_keeps (profile password : String) : Keeps (storePassword profile password) :=
  (storeSecret_keeps _ _).bind fun r => by
    cases r
    · exact report_keeps _
    · exact Keeps.pure _

/-- **The questions of `config init` keep the files and the environment.** -/
theorem askProfile_keeps : Keeps askProfile := by
  unfold askProfile
  repeat' first
    | with_reducible exact storePassword_keeps _ _
    | with_reducible exact Keeps.emit _ _
    | with_reducible exact orReport_keeps (input_keeps _ _ _)
    | with_reducible exact orReport_keeps (confirm_keeps _ _)
    | with_reducible exact orReport_keeps (password_keeps _)
    | with_reducible exact orReport_keeps (select_keeps _ _ _)
    | with_reducible exact report_keeps _
    | with_reducible exact Keeps.pure _
    | with_reducible refine Keeps.bind ?_ fun _ => ?_
    | split

theorem var_of_store {w w' : World} (h : w'.store = w.store) : w'.var = w.var := by
  have henv : w'.env = w.env := congrArg Prod.snd h
  funext k
  simp [World.var, henv]

/-! ## What is written -/

/-- **What a successful `config init` writes**: the loaded configuration
with the profile asked for put in, at the configuration path. The profile
is found under its name and every other name finds what it found before;
the defaults are the loaded ones; the profile is made the default one when
no default is loaded or no other profile is there. -/
theorem init_writes_loaded_config {w w' : World} (h : initConfig.run.run w = (.ok (), w')) :
    ∃ name p text, (putInitProfile (loadedIn w) name p).render = .ok text ∧
      w'.files.read (configPathIn w.var) = some text ∧
      (∀ n, (putInitProfile (loadedIn w) name p).profile n =
        if n = name then .ok p else (loadedIn w).profile n) ∧
      (putInitProfile (loadedIn w) name p).defaults = (loadedIn w).defaults ∧
      (putInitProfile (loadedIn w) name p).defaultProfile =
        if (loadedIn w).defaultProfile = none ∨ ∀ e ∈ (loadedIn w).profiles, e.1 = name then some name
        else (loadedIn w).defaultProfile := by
  -- the run reads the world, loads, greets, asks, then saves and reports
  obtain ⟨_, _, hget, h⟩ := run_bind_ok h
  rw [run_get] at hget
  cases hget
  dsimp only at h
  obtain ⟨_, _, hload, h⟩ := run_bind_ok h
  rw [run_loadConfig] at hload
  obtain ⟨hcfg, rfl⟩ := Prod.mk.inj hload
  cases Except.ok.inj hcfg
  obtain ⟨_, w₁, hgreet, h⟩ := run_bind_ok h
  obtain ⟨_, w₂, hpath, h⟩ := run_bind_ok h
  obtain ⟨⟨name, p⟩, w₃, hask, h⟩ := run_bind_ok h
  -- the greeting and the questions leave the files and the environment as they were
  have hstore : w₃.store = w.store :=
    ((askProfile_keeps.store_of_run hask).trans ((Keeps.emit _ _).store_of_run hpath)).trans
      ((Keeps.emit _ _).store_of_run hgreet)
  dsimp only at h
  obtain ⟨saved, w₄, hsave, h⟩ := run_bind_ok h
  cases saved with
  | error e =>
    -- a failed save is reported, and the run does not end normally
    have hfail := run_report (α := Unit) (Failure.ofConfig e) w₄
    dsimp only at h
    rw [h] at hfail
    cases hfail
  | ok written =>
    obtain ⟨text, hr, hread, -⟩ := saveConfig_ok hsave
    -- the closing lines touch only the terminal
    dsimp only at h
    have hend : w'.store = w₄.store :=
      ((Keeps.emit _ _).bind fun _ => (Keeps.emit _ _).bind fun _ => Keeps.emit _ _).store_of_run h
    have hfiles : w'.files = w₄.files := congrArg Prod.fst hend
    refine ⟨name, p, text, hr, ?_, profile_putInitProfile _ name p, defaults_putInitProfile _ name p,
      defaultProfile_putInitProfile _ name p⟩
    rw [hfiles, ← var_of_store hstore]
    exact hread

/-! ## Runs on fixed worlds

A run on a fixed world is evaluated by the kernel. Each evaluation costs
seconds, so these two lemmas let one evaluation answer a whole statement,
and keep the kernel from running it again to check a projection. -/

theorem eq_ok_pair_of_toOption {ε α σ : Type} {x : Except ε α × σ} {a : α}
    (h : x.1.toOption = some a) : x = (.ok a, x.2) := by
  rcases x with ⟨r, s⟩
  cases Client.eq_ok_of_toOption h
  rfl

theorem ok_and_of_toOption {ε σ : Type} {x : Except ε Unit × σ} {P : Prop}
    (h : x.1.toOption = some () ∧ P) : x.1 = .ok () ∧ P :=
  ⟨Client.eq_ok_of_toOption h.1, h.2⟩

/-- The answers that set up the profile `lab` at `http://[::1]`, with no
credentials and no self-signed certificates. -/
def labAnswers : List Answer :=
  [⟨"Profile name", "lab\r"⟩, ⟨"URL", "http://[::1]\r"⟩, ⟨"password?", "n"⟩, ⟨"self-signed", "n"⟩]

/-- No configuration file, and `ROOMCTL_DEFAULTS__OUTPUT=json`. -/
def outputInEnvironment : World :=
  { env := [("HOME", "/h"), ("ROOMCTL_DEFAULTS__OUTPUT", "json")], tty := true, answers := labAnswers }

theorem outputInEnvironment_init_writes :
    initConfig.run.run outputInEnvironment = (.ok (), (initConfig.run.run outputInEnvironment).2) ∧
      ∃ name p text, (putInitProfile (loadedIn outputInEnvironment) name p).render = .ok text ∧
        (initConfig.run.run outputInEnvironment).2.files.read (configPathIn outputInEnvironment.var) =
          some text := by
  have hrun : initConfig.run.run outputInEnvironment =
      (.ok (), (initConfig.run.run outputInEnvironment).2) :=
    eq_ok_pair_of_toOption (by decide +kernel)
  obtain ⟨name, p, text, hr, hread, -⟩ := init_writes_loaded_config hrun
  exact ⟨hrun, name, p, text, hr, hread⟩

/-- A file with the profile `main` and no default profile. -/
def mainWithoutDefault : World :=
  { env := [("HOME", "/h")], tty := true, answers := labAnswers,
    files := { entries := [("/h/.config/roomctl/config.toml",
      .file "[profiles.main]\nurl = \"http://main.local/\"\n")] } }

/-- A file with the default profile `main`, and `ROOMCTL_DEFAULTS__TIMEOUT`
set to a text that is no number. -/
def mainWithBadTimeout : World :=
  { env := [("HOME", "/h"), ("ROOMCTL_DEFAULTS__TIMEOUT", "soon")], tty := true, answers := labAnswers,
    files := { entries := [("/h/.config/roomctl/config.toml",
      .file "default_profile = \"main\"\n\n[profiles.main]\nurl = \"http://main.local/\"\n")] } }

/-- **What is written is what was loaded, not what the file says.** With
no file and `ROOMCTL_DEFAULTS__OUTPUT=json`, `config init` writes
`output = "json"`; over a file whose only profile is `main` and that names
no default profile, it writes the built-in default `default`; over a file
with the default profile `main` but an unreadable `ROOMCTL_DEFAULTS__TIMEOUT`,
it drops `main` and makes `lab` the default. -/
theorem init_writes_environment_and_fallback :
    (initConfig.run.run outputInEnvironment).1 = .ok () ∧
      (initConfig.run.run outputInEnvironment).2.files.read "/h/.config/roomctl/config.toml" =
        some ("default_profile = \"lab\"\n\n[defaults]\noutput = \"json\"\ncolor = \"auto\"\n" ++
          "insecure = false\ntimeout = 30\n\n[profiles.lab]\nurl = \"http://[::1]\"\n") ∧
      (initConfig.run.run mainWithoutDefault).1 = .ok () ∧
      (initConfig.run.run mainWithoutDefault).2.files.read "/h/.config/roomctl/config.toml" =
        some ("default_profile = \"default\"\n\n[defaults]\noutput = \"table\"\ncolor = \"auto\"\n" ++
          "insecure = false\ntimeout = 30\n\n[profiles.lab]\nurl = \"http://[::1]\"\n\n" ++
          "[profiles.main]\nurl = \"http://main.local/\"\n") ∧
      (initConfig.run.run mainWithBadTimeout).1 = .ok () ∧
      (initConfig.run.run mainWithBadTimeout).2.files.read "/h/.config/roomctl/config.toml" =
        some ("default_profile = \"lab\"\n\n[defaults]\noutput = \"table\"\ncolor = \"auto\"\n" ++
          "insecure = false\ntimeout = 30\n\n[profiles.lab]\nurl = \"http://[::1]\"\n") :=
  -- each run is evaluated once, for how it ends and for the file it leaves
  and_assoc.1 ⟨ok_and_of_toOption (by decide +kernel),
    and_assoc.1 ⟨ok_and_of_toOption (by decide +kernel), ok_and_of_toOption (by decide +kernel)⟩⟩

end RoomConsole.Cli
