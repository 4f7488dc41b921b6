import TrackResolver.Config.Load

/-!
# What loading the settings comes to

`Config.load` meets three sources of a path, five conditions of a file, and a variable that is laid on
whatever was read. Here each is described by itself, by what is set and what is in the files, and
`Config.Loads` says what loading comes to in each case. No rule of it looks at a second file: who
names the settings file is settled before any file is read.

Results:
* `holds_or_unreadable`: at a path is a text, or there is a reason why not; `readText_of_holds` and
  `readText_of_unreadable`: reading it tells which.
* `resolve_eq_iff`: the chosen file.
* `eq_applyEnvironment_iff`: the settings with the address of the environment, field by field.
* `load_eq_iff`, `status_of_chosen`: the outcome, and that the chosen file is the one that counts.
* `load_outcome`: what is loaded, which failures are no errors, and what the status tells.
-/
namespace TrackResolver

/-! ## Files -/

theorem fromUTF8?_eq_some_iff {content : List UInt8} {s : String} :
    String.fromUTF8? ⟨content.toArray⟩ = some s ↔ content = s.toUTF8.data.toList := by
  unfold String.fromUTF8?
  split
  · rw [Option.some.injEq]
    constructor <;> (intro h; subst h; rfl)
  · next hinvalid =>
    constructor
    · intro h
      cases h
    · intro h
      subst h
      exact absurd s.isValidUTF8 hinvalid

theorem fromUTF8?_eq_none_iff {content : List UInt8} :
    String.fromUTF8? ⟨content.toArray⟩ = none ↔ ∀ s : String, content ≠ s.toUTF8.data.toList := by
  rw [Option.eq_none_iff_forall_ne_some]
  exact forall_congr' fun s => not_congr fromUTF8?_eq_some_iff

namespace Files

variable {fs : Files} {path : String}

/-- At the path is a file with this text. -/
def Holds (fs : Files) (path text : String) : Prop :=
  fs.follow path = .ok (.bytes text.toUTF8.data.toList)

/-- At the path is no text, and this is why. -/
inductive Unreadable (fs : Files) (path : String) : FileFault → Prop
  /-- The path leads nowhere. -/
  | missing {why : FileFault} : fs.follow path = .error why → Unreadable fs path why
  | directory : fs.follow path = .ok .directory → Unreadable fs path .isDirectory
  | locked : fs.follow path = .ok .locked → Unreadable fs path .permissionDenied
  | notText {content : List UInt8} : fs.follow path = .ok (.bytes content) →
    (∀ text : String, content ≠ text.toUTF8.data.toList) → Unreadable fs path .invalidData

theorem contains_of_ok {found : FileContent} (h : fs.follow path = .ok found) :
    fs.contains path = true := by
  unfold contains
  rw [h]
  rfl

theorem contains_of_error {why : FileFault} (h : fs.follow path = .error why) :
    fs.contains path = false := by
  unfold contains
  rw [h]
  rfl

theorem readText_of_error {why : FileFault} (h : fs.follow path = .error why) :
    fs.readText path = .error why := by
  unfold readText
  rw [h]
  rfl

theorem readText_of_directory (h : fs.follow path = .ok .directory) :
    fs.readText path = .error .isDirectory := by
  unfold readText
  rw [h]
  rfl

theorem readText_of_locked (h : fs.follow path = .ok .locked) :
    fs.readText path = .error .permissionDenied := by
  unfold readText
  rw [h]
  rfl

theorem readText_of_bytes {content : List UInt8} (h : fs.follow path = .ok (.bytes content)) :
    fs.readText path =
      (String.fromUTF8? ⟨content.toArray⟩).elim (.error .invalidData) Except.ok := by
  unfold readText
  rw [h]
  cases hs : String.fromUTF8? ⟨content.toArray⟩ <;> simp [bind, Except.bind, hs] <;> rfl

theorem readText_of_holds {text : String} (h : fs.Holds path text) : fs.readText path = .ok text := by
  rw [readText_of_bytes h, fromUTF8?_eq_some_iff.2 rfl, Option.elim_some]

theorem readText_of_unreadable {why : FileFault} (h : fs.Unreadable path why) :
    fs.readText path = .error why := by
  cases h with
  | missing hfollow => exact readText_of_error hfollow
  | directory hfollow => exact readText_of_directory hfollow
  | locked hfollow => exact readText_of_locked hfollow
  | notText hfollow hnone =>
    rw [readText_of_bytes hfollow, fromUTF8?_eq_none_iff.2 hnone, Option.elim_none]

theorem holds_or_unreadable (fs : Files) (path : String) :
    (∃ text, fs.Holds path text) ∨ ∃ why, fs.Unreadable path why := by
  cases hfollow : fs.follow path with
  | error why => exact Or.inr ⟨why, .missing hfollow⟩
  | ok found =>
    cases found with
    | directory => exact Or.inr ⟨_, .directory hfollow⟩
    | locked => exact Or.inr ⟨_, .locked hfollow⟩
    | bytes content =>
      cases hs : String.fromUTF8? ⟨content.toArray⟩ with
      | some text =>
        rw [fromUTF8?_eq_some_iff.1 hs] at hfollow
        exact Or.inl ⟨text, hfollow⟩
      | none => exact Or.inr ⟨_, .notText hfollow (fromUTF8?_eq_none_iff.1 hs)⟩

end Files

/-! ## The chosen file -/

namespace Environment

variable {env : Environment} {fs : Files}

/-- A variable is set, and not to blanks only. -/
def Sets (value : Option String) (s : String) : Prop := value = some s ∧ Text.isAllBlank s = false

theorem given_eq_some_iff {value : Option String} {s : String} :
    given value = some s ↔ Sets value s := by
  simp [given, Sets, Option.filter_eq_some_iff]

theorem given_eq_none_iff {value : Option String} : given value = none ↔ ∀ s, ¬ Sets value s := by
  rw [Option.eq_none_iff_forall_ne_some]
  exact forall_congr' fun s => not_congr given_eq_some_iff

/-- The settings file that is to be read, and who named it. -/
inductive Chooses (env : Environment) (fs : Files) :
    Option String → Option (String × ConfigSource) → Prop
  /-- Whatever is at the path and whatever the environment says. -/
  | commandLine (path : String) : Chooses env fs (some path) (some (path, .commandLine))
  /-- Whatever is at the path. -/
  | environment {path : String} : Sets env.configFile path →
    Chooses env fs none (some (path, .environment))
  /-- Something has to be at the path. -/
  | userDirectory {path : String} {found : FileContent} : (∀ path, ¬ Sets env.configFile path) →
    env.defaultPath = some path → fs.follow path = .ok found →
    Chooses env fs none (some (path, .userDirectory))
  /-- The user has no directory, or nothing is at the path. -/
  | nobody : (∀ path, ¬ Sets env.configFile path) →
    (∀ path, env.defaultPath = some path → ∃ why, fs.follow path = .error why) →
    Chooses env fs none none

theorem resolve_of_set {path : String} (h : Sets env.configFile path) :
    env.resolve none fs = some (path, .environment) := by
  unfold resolve
  rw [given_eq_some_iff.2 h]

theorem resolve_of_unset (h : ∀ path, ¬ Sets env.configFile path) : env.resolve none fs =
    (env.defaultPath.filter fs.contains).map fun path => (path, .userDirectory) := by
  unfold resolve
  rw [given_eq_none_iff.2 h]

theorem filter_contains_of_error
    (h : ∀ path, env.defaultPath = some path → ∃ why, fs.follow path = .error why) :
    env.defaultPath.filter fs.contains = none := by
  rw [Option.filter_eq_none_iff]
  intro path hdefault
  obtain ⟨why, hfollow⟩ := h path hdefault
  rw [Files.contains_of_error hfollow]
  nofun

theorem chooses_resolve (env : Environment) (cli : Option String) (fs : Files) :
    env.Chooses fs cli (env.resolve cli fs) := by
  cases cli with
  | some path => exact .commandLine path
  | none =>
    cases hgiven : given env.configFile with
    | some path =>
      have hset := given_eq_some_iff.1 hgiven
      rw [resolve_of_set hset]
      exact .environment hset
    | none =>
      have hunset := given_eq_none_iff.1 hgiven
      rw [resolve_of_unset hunset]
      cases hfilter : env.defaultPath.filter fs.contains with
      | none =>
        refine .nobody hunset fun path hdefault => ?_
        cases hfollow : fs.follow path with
        | error why => exact ⟨why, rfl⟩
        | ok found =>
          exact absurd (Files.contains_of_ok hfollow)
            (Option.filter_eq_none_iff.1 hfilter path hdefault)
      | some path =>
        obtain ⟨hdefault, hcontains⟩ := Option.filter_eq_some_iff.1 hfilter
        cases hfollow : fs.follow path with
        | error why =>
          rw [Files.contains_of_error hfollow] at hcontains
          cases hcontains
        | ok found => exact .userDirectory hunset hdefault hfollow

/-- Nothing else is chosen. -/
theorem resolve_eq_iff {cli : Option String} {chosen : Option (String × ConfigSource)} :
    env.resolve cli fs = chosen ↔ env.Chooses fs cli chosen := by
  constructor
  · intro h
    subst h
    exact chooses_resolve env cli fs
  · intro h
    cases h with
    | commandLine path => rfl
    | environment hset => exact resolve_of_set hset
    | userDirectory hunset hdefault hfollow =>
      rw [resolve_of_unset hunset, hdefault,
        Option.filter_eq_some_iff.2 ⟨rfl, Files.contains_of_ok hfollow⟩]
      rfl
    | nobody hunset hnone =>
      rw [resolve_of_unset hunset, filter_contains_of_error hnone]
      rfl

end Environment

/-! ## The address of the environment -/

namespace Config

variable {env : Environment} {cli : Option String} {fs : Files}

/-- The settings `c` are the settings `base`, but for the address that the environment may set. -/
structure Overridden (env : Environment) (base c : Config) : Prop where
  address : ∀ s, Environment.Sets env.bindAddress s → c.server.bindAddress = s
  ownAddress : (∀ s, ¬ Environment.Sets env.bindAddress s) →
    c.server.bindAddress = base.server.bindAddress
  rateLimit : c.server.rateLimit = base.server.rateLimit
  logging : c.logging = base.logging
  context : c.context = base.context
  engines : c.engines = base.engines

theorem overridden_applyEnvironment (env : Environment) (base : Config) :
    Overridden env base (base.applyEnvironment env) := by
  unfold applyEnvironment
  split
  · next address hgiven =>
    have hset := Environment.given_eq_some_iff.1 hgiven
    refine ⟨?_, ?_, rfl, rfl, rfl, rfl⟩
    · intro s hs
      exact Option.some.inj (hset.1.symm.trans hs.1)
    · intro hunset
      exact absurd hset (hunset address)
  · next hgiven =>
    have hunset := Environment.given_eq_none_iff.1 hgiven
    exact ⟨fun s hs => absurd hs (hunset s), fun _ => rfl, rfl, rfl, rfl, rfl⟩

theorem Overridden.unique {base c d : Config} (hc : Overridden env base c)
    (hd : Overridden env base d) : c = d := by
  have haddress : c.server.bindAddress = d.server.bindAddress := by
    by_cases h : ∃ s, Environment.Sets env.bindAddress s
    · obtain ⟨s, hs⟩ := h
      rw [hc.address s hs, hd.address s hs]
    · have hunset := not_exists.1 h
      rw [hc.ownAddress hunset, hd.ownAddress hunset]
  obtain ⟨⟨_, _⟩, _, _, _⟩ := c
  obtain ⟨⟨_, _⟩, _, _, _⟩ := d
  simp only [mk.injEq, ServerSettings.mk.injEq]
  exact ⟨⟨haddress, hc.rateLimit.trans hd.rateLimit.symm⟩, hc.logging.trans hd.logging.symm,
    hc.context.trans hd.context.symm, hc.engines.trans hd.engines.symm⟩

theorem eq_applyEnvironment_iff {base c : Config} :
    base.applyEnvironment env = c ↔ Overridden env base c := by
  constructor
  · intro h
    subst h
    exact overridden_applyEnvironment env base
  · exact (overridden_applyEnvironment env base).unique

/-! ## Loading -/

theorem ofFile_of_holds {path text : String} (h : fs.Holds path text) :
    ofFile fs path = (ofText text).mapError (.unusable path) := by
  unfold ofFile
  rw [Files.readText_of_holds h]

theorem ofFile_of_ok {path text : String} {base : Config} (h : fs.Holds path text)
    (htext : ofText text = .ok base) : ofFile fs path = .ok base := by
  rw [ofFile_of_holds h, htext]
  rfl

theorem ofFile_of_error {path text : String} {why : Reading.Fault} (h : fs.Holds path text)
    (htext : ofText text = .error why) : ofFile fs path = .error (.unusable path why) := by
  rw [ofFile_of_holds h, htext]
  rfl

theorem ofFile_of_unreadable {path : String} {why : FileFault} (h : fs.Unreadable path why) :
    ofFile fs path = .error (.unreadable why) := by
  unfold ofFile
  rw [Files.readText_of_unreadable h]

/-- A path is a text or cannot be read, so a file has one of three ends. -/
theorem ofFile_cases (fs : Files) (path : String) :
    (∃ why, fs.Unreadable path why) ∨
    (∃ text base, fs.Holds path text ∧ ofText text = .ok base) ∨
    (∃ text why, fs.Holds path text ∧ ofText text = .error why) := by
  rcases Files.holds_or_unreadable fs path with ⟨text, hholds⟩ | hun
  · right
    cases htext : ofText text with
    | ok base => exact Or.inl ⟨text, base, hholds, htext⟩
    | error why => exact Or.inr ⟨text, why, hholds, htext⟩
  · exact Or.inl hun

/-- What loading comes to. -/
inductive Loads (env : Environment) (cli : Option String) (fs : Files) :
    Except ConfigError (Config × LoadStatus) → Prop
  | defaults {c : Config} : env.Chooses fs cli none → Overridden env {} c →
    Loads env cli fs (.ok (c, .defaults))
  /-- The file cannot be read. -/
  | fellBack {path : String} {source : ConfigSource} {why : FileFault} {c : Config} :
    env.Chooses fs cli (some (path, source)) → fs.Unreadable path why → Overridden env {} c →
    Loads env cli fs (.ok (c, .fellBack path source why))
  | loaded {path text : String} {source : ConfigSource} {base c : Config} :
    env.Chooses fs cli (some (path, source)) → fs.Holds path text → ofText text = .ok base →
    Overridden env base c → Loads env cli fs (.ok (c, .loaded path source))
  /-- The file can be read, and makes no sense. -/
  | unusable {path text : String} {source : ConfigSource} {why : Reading.Fault} :
    env.Chooses fs cli (some (path, source)) → fs.Holds path text → ofText text = .error why →
    Loads env cli fs (.error (.unusable path why))

theorem loads_load (env : Environment) (cli : Option String) (fs : Files) :
    Loads env cli fs (load env cli fs) := by
  have hchosen := Environment.chooses_resolve env cli fs
  unfold load
  cases hresolve : env.resolve cli fs with
  | none =>
    rw [hresolve] at hchosen
    exact .defaults hchosen (overridden_applyEnvironment env {})
  | some chosen =>
    obtain ⟨path, source⟩ := chosen
    rw [hresolve] at hchosen
    rcases ofFile_cases fs path with ⟨why, hun⟩ | ⟨text, base, hholds, htext⟩ |
      ⟨text, why, hholds, htext⟩
    · simp only [ofFile_of_unreadable hun]
      exact .fellBack hchosen hun (overridden_applyEnvironment env {})
    · simp only [ofFile_of_ok hholds htext]
      exact .loaded hchosen hholds htext (overridden_applyEnvironment env base)
    · simp only [ofFile_of_error hholds htext]
      exact .unusable hchosen hholds htext

theorem load_eq_iff {result : Except ConfigError (Config × LoadStatus)} :
    load env cli fs = result ↔ Loads env cli fs result := by
  constructor
  · intro h
    subst h
    exact loads_load env cli fs
  · intro h
    unfold load
    cases h with
    | defaults hchosen hc =>
      simp only [Environment.resolve_eq_iff.2 hchosen, eq_applyEnvironment_iff.2 hc]
    | fellBack hchosen hun hc =>
      simp only [Environment.resolve_eq_iff.2 hchosen, ofFile_of_unreadable hun,
        eq_applyEnvironment_iff.2 hc]
    | loaded hchosen hholds htext hc =>
      simp only [Environment.resolve_eq_iff.2 hchosen, ofFile_of_ok hholds htext,
        eq_applyEnvironment_iff.2 hc]
    | unusable hchosen hholds htext =>
      simp only [Environment.resolve_eq_iff.2 hchosen, ofFile_of_error hholds htext]

theorem load_eq_error_iff {e : ConfigError} : load env cli fs = .error e ↔
    ∃ path source text why, env.Chooses fs cli (some (path, source)) ∧ fs.Holds path text ∧
      ofText text = .error why ∧ e = .unusable path why := by
  rw [load_eq_iff]
  constructor
  · intro h
    cases h with
    | unusable hchosen hholds htext => exact ⟨_, _, _, _, hchosen, hholds, htext, rfl⟩
  · intro ⟨path, source, text, why, hchosen, hholds, htext, he⟩
    subst he
    exact .unusable hchosen hholds htext

section
variable {c : Config} {status : LoadStatus}

theorem status_of_chosen {path : String} {source : ConfigSource}
    (hchosen : env.Chooses fs cli (some (path, source))) (h : load env cli fs = .ok (c, status)) :
    status = .loaded path source ∨ ∃ why, status = .fellBack path source why := by
  have hresolve := Environment.resolve_eq_iff.2 hchosen
  cases load_eq_iff.1 h with
  | defaults hnone =>
    rw [Environment.resolve_eq_iff.2 hnone] at hresolve
    cases hresolve
  | fellBack hother hun =>
    rw [Environment.resolve_eq_iff.2 hother] at hresolve
    cases hresolve
    exact Or.inr ⟨_, rfl⟩
  | loaded hother hholds htext =>
    rw [Environment.resolve_eq_iff.2 hother] at hresolve
    cases hresolve
    exact Or.inl rfl

theorem isFallback_iff (h : load env cli fs = .ok (c, status)) :
    status.isFallback = true ↔ ∃ path source why,
      env.Chooses fs cli (some (path, source)) ∧ fs.Unreadable path why ∧
        status = .fellBack path source why := by
  cases load_eq_iff.1 h with
  | defaults => simp [LoadStatus.isFallback]
  | fellBack hchosen hun => exact iff_of_true rfl ⟨_, _, _, hchosen, hun, rfl⟩
  | loaded => simp [LoadStatus.isFallback]

theorem loadedPath?_eq_some_iff {path : String} (h : load env cli fs = .ok (c, status)) :
    status.loadedPath? = some path ↔ ∃ source text base,
      env.Chooses fs cli (some (path, source)) ∧ fs.Holds path text ∧ ofText text = .ok base ∧
        status = .loaded path source := by
  cases load_eq_iff.1 h with
  | defaults => simp [LoadStatus.loadedPath?]
  | fellBack => simp [LoadStatus.loadedPath?]
  | loaded hchosen hholds htext =>
    rw [LoadStatus.loadedPath?, Option.some.injEq]
    constructor
    · intro he
      subst he
      exact ⟨_, _, _, hchosen, hholds, htext, rfl⟩
    · intro ⟨_, _, _, _, _, _, he⟩
      exact (LoadStatus.loaded.inj he).1

end

/-- What is promised of loading. -/
structure LoadsExactly (env : Environment) (cli : Option String) (fs : Files) : Prop where
  /-- One outcome and no other. -/
  outcome : ∀ result, load env cli fs = result ↔ Loads env cli fs result
  /-- Only a text that makes no sense is an error, and the error names the file. -/
  fails : ∀ e, load env cli fs = .error e ↔ ∃ path source text why,
    env.Chooses fs cli (some (path, source)) ∧ fs.Holds path text ∧ ofText text = .error why ∧
      e = .unusable path why
  /-- Another file never takes the place of the chosen one. -/
  keeps : ∀ path source c status, env.Chooses fs cli (some (path, source)) →
    load env cli fs = .ok (c, status) →
      status = .loaded path source ∨ ∃ why, status = .fellBack path source why
  isFallback : ∀ c status, load env cli fs = .ok (c, status) →
    (status.isFallback = true ↔ ∃ path source why,
      env.Chooses fs cli (some (path, source)) ∧ fs.Unreadable path why ∧
        status = .fellBack path source why)
  loadedPath : ∀ c status path, load env cli fs = .ok (c, status) →
    (status.loadedPath? = some path ↔ ∃ source text base,
      env.Chooses fs cli (some (path, source)) ∧ fs.Holds path text ∧ ofText text = .ok base ∧
        status = .loaded path source)

/-- **The settings that are loaded**, whatever is named, whatever is set and whatever is in the
files. -/
theorem load_outcome (env : Environment) (cli : Option String) (fs : Files) :
    LoadsExactly env cli fs where
  outcome _ := load_eq_iff
  fails _ := load_eq_error_iff
  keeps _ _ _ _ hchosen h := status_of_chosen hchosen h
  isFallback _ _ h := isFallback_iff h
  loadedPath _ _ _ h := loadedPath?_eq_some_iff h

/-- A file that is named and is not there is not replaced by the next one, which is. -/
example : load { configFile := some "/etc/a.toml" } (some "b.toml")
    (.ofList ["srv".toList] [("/etc/a.toml", .bytes [])]) =
      .ok ({}, .fellBack "b.toml" .commandLine .notFound) := rfl

end Config

end TrackResolver
