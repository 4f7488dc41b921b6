import Mathlib.Data.List.Infix
import TrackResolver.Config.Toml
import TrackResolver.Proofs.Toml.Without

/-!
# Fields that are left out

The settings are records at three levels, and each of them has defaults of its own. A field is read
into a record that holds the defaults, so it does not matter to it which others are there; and the
defaults of a record are those of its fields, so a record that is left out is the same as one that is
there with nothing in it.

Results:
* `Part`: the fields at all levels.
* `without`: the settings with the defaults for some keys; `resets`, that they are what is read when
  these keys are left out, from the same law of each record.
* `ignores_of_stray`: names that are no field of their record make no difference.
* `fields_stand_alone`: what is left out takes its default, and all else is as it was.
-/
namespace TrackResolver

open Toml Reading

/-! ## Fields -/

namespace Config

/-- A field of the settings or of one of the records in them. -/
inductive Part where
  | server
  | bindAddress
  | rateLimit
  | requests
  | perSeconds
  | logging
  | level
  | file
  | context
  | proxy
  | flac
  | mode
  | settings
  | engines
deriving DecidableEq

namespace Part

/-- The keys on the way to the field in a settings file. -/
def path : Part → List String
  | server => ["server"]
  | bindAddress => ["server", "bind_address"]
  | rateLimit => ["server", "rate_limit"]
  | requests => ["server", "rate_limit", "requests"]
  | perSeconds => ["server", "rate_limit", "per_secs"]
  | logging => ["logging"]
  | level => ["logging", "level"]
  | file => ["logging", "log_file"]
  | context => ["context"]
  | proxy => ["context", "proxy_uri"]
  | flac => ["context", "enable_flac"]
  | mode => ["context", "search_mode"]
  | settings => ["context", "config"]
  | engines => ["engines"]

/-- What the field holds. -/
abbrev Content : Part → Type
  | server => ServerSettings
  | bindAddress => String
  | rateLimit => RateLimit
  | requests => UInt64
  | perSeconds => UInt64
  | logging => LoggingSettings
  | level => String
  | file => Option String
  | context => Context
  | proxy => Option String
  | flac => Bool
  | mode => SearchMode
  | settings => Dict Settings
  | engines => Option (List String)

/-- What the field holds in `c`. -/
def of : (p : Part) → Config → p.Content
  | server, c => c.server
  | bindAddress, c => c.server.bindAddress
  | rateLimit, c => c.server.rateLimit
  | requests, c => c.server.rateLimit.requests
  | perSeconds, c => c.server.rateLimit.perSeconds
  | logging, c => c.logging
  | level, c => c.logging.level
  | file, c => c.logging.file
  | context, c => c.context
  | proxy, c => c.context.proxy
  | flac, c => c.context.flac
  | mode, c => c.context.mode
  | settings, c => c.context.settings
  | engines, c => c.engines

/-- The field is a record with fields of its own. -/
def IsRecord (p : Part) : Prop := p ∈ [server, rateLimit, logging, context]

instance (p : Part) : Decidable p.IsRecord := inferInstanceAs (Decidable (_ ∈ _))

/-- The keys of these fields. -/
def keys (gone : List Part) : Keys := fun path => gone.any fun p => p.path = path

theorem keys_eq_true_iff {gone : List Part} {path : List String} :
    keys gone path = true ↔ ∃ g ∈ gone, g.path = path := by
  simp [keys]

theorem isRecord_of_isPrefix {p q : Part} (h : p.path <+: q.path) : p = q ∨ p.IsRecord := by
  revert h
  cases p <;> cases q <;> decide

end Part

/-- A key that no record has: the fields on the way to it are records, and it is none of theirs. -/
def Stray (path : List String) : Prop :=
  ∀ p : Part, p.path <+: path → p.IsRecord ∧ p.path ≠ path

/-- None of these keys stands inside a field that is not a record, such as the settings of an
engine. -/
def Within (keys : Keys) : Prop := ∀ p : Part, ¬ p.IsRecord → (keys.below p.path).IsEmpty

theorem within_keys (gone : List Part) : Within (Part.keys gone) := by
  intro p hplain k path
  rw [Bool.eq_false_iff]
  intro hkey
  obtain ⟨g, -, hg⟩ := Part.keys_eq_true_iff.1 hkey
  obtain rfl | hrecord := Part.isRecord_of_isPrefix (p := p) (q := g) (hg ▸ List.prefix_append _ _)
  · simp at hg
  · exact hplain hrecord

theorem within_of_stray {extra : Keys} (h : ∀ path, extra path = true → Stray path) :
    Within extra := by
  intro p hplain k path
  rw [Bool.eq_false_iff]
  intro hkey
  exact hplain (h _ hkey p (List.prefix_append _ _)).1

end Config

/-! ## Records with the defaults for some keys -/

variable {keys : Keys}

namespace RateLimit

/-- The limit with the defaults for these keys. -/
def without (keys : Keys) (r : RateLimit) : RateLimit where
  requests := if keys ["requests"] then ({} : RateLimit).requests else r.requests
  perSeconds := if keys ["per_secs"] then ({} : RateLimit).perSeconds else r.perSeconds

@[simp] theorem without_default (keys : Keys) : without keys {} = {} := by
  simp [without]

theorem without_of_isEmpty (h : keys.IsEmpty) (r : RateLimit) : r.without keys = r := by
  simp [without, h _ []]

theorem resets (hrequests : Resets readUInt64 (keys.below ["requests"]) id)
    (hperSeconds : Resets readUInt64 (keys.below ["per_secs"]) id) :
    Resets (readRecord record) keys (without keys) := by
  refine resets_record rfl (without_default keys) without_of_isEmpty ?_
  simp only [record, List.forall_mem_cons]
  refine ⟨fieldResets_field hrequests ?_, fieldResets_field hperSeconds ?_, nofun⟩
  all_goals intro a r; split <;> simp_all [without]

end RateLimit

namespace ServerSettings

def without (keys : Keys) (s : ServerSettings) : ServerSettings where
  bindAddress := if keys ["bind_address"] then ({} : ServerSettings).bindAddress else s.bindAddress
  rateLimit :=
    if keys ["rate_limit"] then ({} : ServerSettings).rateLimit
    else s.rateLimit.without (keys.below ["rate_limit"])

@[simp] theorem without_default (keys : Keys) : without keys {} = {} := by
  simp [without]

theorem without_of_isEmpty (h : keys.IsEmpty) (s : ServerSettings) : s.without keys = s := by
  simp [without, h _ [], RateLimit.without_of_isEmpty (h.below _)]

theorem resets (hbind : Resets readText (keys.below ["bind_address"]) id)
    (hlimit : Resets (readRecord RateLimit.record) (keys.below ["rate_limit"])
      (RateLimit.without (keys.below ["rate_limit"]))) :
    Resets (readRecord record) keys (without keys) := by
  refine resets_record rfl (without_default keys) without_of_isEmpty ?_
  simp only [record, List.forall_mem_cons]
  refine ⟨fieldResets_field hbind ?_, fieldResets_field hlimit ?_, nofun⟩
  all_goals intro a s; split <;> simp_all [without]

end ServerSettings

namespace LoggingSettings

def without (keys : Keys) (s : LoggingSettings) : LoggingSettings where
  level := if keys ["level"] then ({} : LoggingSettings).level else s.level
  file := if keys ["log_file"] then ({} : LoggingSettings).file else s.file

@[simp] theorem without_default (keys : Keys) : without keys {} = {} := by
  simp [without]

theorem without_of_isEmpty (h : keys.IsEmpty) (s : LoggingSettings) : s.without keys = s := by
  simp [without, h _ []]

theorem resets (hlevel : Resets readText (keys.below ["level"]) id)
    (hfile : Resets (readTextAs "path string") (keys.below ["log_file"]) id) :
    Resets (readRecord record) keys (without keys) := by
  refine resets_record rfl (without_default keys) without_of_isEmpty ?_
  simp only [record, List.forall_mem_cons]
  refine ⟨fieldResets_field hlevel ?_, fieldResets_field hfile ?_, nofun⟩
  all_goals intro a s; split <;> simp_all [without]

end LoggingSettings

namespace Context

def without (keys : Keys) (c : Context) : Context where
  proxy := if keys ["proxy_uri"] then ({} : Context).proxy else c.proxy
  flac := if keys ["enable_flac"] then ({} : Context).flac else c.flac
  mode := if keys ["search_mode"] then ({} : Context).mode else c.mode
  settings := if keys ["config"] then ({} : Context).settings else c.settings

@[simp] theorem without_default (keys : Keys) : without keys {} = {} := by
  simp [without]

theorem without_of_isEmpty (h : keys.IsEmpty) (c : Context) : c.without keys = c := by
  simp [without, h _ []]

theorem resets (hproxy : Resets readText (keys.below ["proxy_uri"]) id)
    (hflac : Resets readBoolean (keys.below ["enable_flac"]) id)
    (hmode : Resets (readChoice SearchMode.spellings) (keys.below ["search_mode"]) id)
    (hsettings : Resets (readDict (readDict readText)) (keys.below ["config"]) id) :
    Resets (readRecord settingsRecord) keys (without keys) := by
  refine resets_record rfl (without_default keys) without_of_isEmpty ?_
  simp only [settingsRecord, List.forall_mem_cons]
  refine ⟨fieldResets_field hproxy ?_, fieldResets_field hflac ?_, fieldResets_field hmode ?_,
    fieldResets_field hsettings ?_, nofun⟩
  all_goals intro a c; split <;> simp_all [without]

end Context

namespace Config

def without (keys : Keys) (c : Config) : Config where
  server := if keys ["server"] then ({} : Config).server else c.server.without (keys.below ["server"])
  logging :=
    if keys ["logging"] then ({} : Config).logging else c.logging.without (keys.below ["logging"])
  context :=
    if keys ["context"] then ({} : Config).context else c.context.without (keys.below ["context"])
  engines := if keys ["engines"] then ({} : Config).engines else c.engines

@[simp] theorem without_default (keys : Keys) : without keys {} = {} := by
  simp [without]

theorem without_of_isEmpty (h : keys.IsEmpty) (c : Config) : c.without keys = c := by
  simp [without, h _ [], ServerSettings.without_of_isEmpty (h.below _),
    LoggingSettings.without_of_isEmpty (h.below _), Context.without_of_isEmpty (h.below _)]

theorem resets (h : Within keys) : Resets read keys (without keys) := by
  have plain {α : Type} (read : Reader α) (p : Part) (hp : ¬ p.IsRecord) :
      Resets read (keys.below p.path) id := resets_of_isEmpty read (h p hp)
  refine resets_record rfl (without_default keys) without_of_isEmpty ?_
  have hserver : Resets (readRecord ServerSettings.record) (keys.below ["server"]) _ :=
    ServerSettings.resets (plain _ .bindAddress (by decide))
      (RateLimit.resets (plain _ .requests (by decide)) (plain _ .perSeconds (by decide)))
  have hlogging : Resets (readRecord LoggingSettings.record) (keys.below ["logging"]) _ :=
    LoggingSettings.resets (plain _ .level (by decide)) (plain _ .file (by decide))
  have hcontext : Resets (readRecord Context.settingsRecord) (keys.below ["context"]) _ :=
    Context.resets (plain _ .proxy (by decide)) (plain _ .flac (by decide))
      (plain _ .mode (by decide)) (plain _ .settings (by decide))
  have hengines : Resets (readList readText) (keys.below ["engines"]) id :=
    plain _ .engines (by decide)
  simp only [record, List.forall_mem_cons]
  refine ⟨fieldResets_field hserver ?_, fieldResets_field hlogging ?_, fieldResets_field hcontext ?_,
    fieldResets_field hengines ?_, nofun⟩
  all_goals intro a c; split <;> simp_all [without]

theorem of_without_of_gone {p : Part} {front : List String} (hgone : keys front = true)
    (hsome : front ≠ []) (hfront : front <+: p.path) (c : Config) :
    p.of (c.without keys) = p.of {} := by
  rw [← List.mem_inits] at hfront
  cases p <;> simp only [Part.path, List.inits, List.map_cons, List.map_nil, List.mem_cons,
    List.not_mem_nil, or_false, hsome, false_or] at hfront
  -- It is gone itself, or a record around it is, whose defaults are those of its fields.
  all_goals
    simp only [Part.of, without, ServerSettings.without, RateLimit.without,
      LoggingSettings.without, Context.without, Keys.below, List.cons_append, List.nil_append]
    grind

theorem of_without_of_apart {p : Part}
    (h : ∀ path, keys path = true → ¬ path <+: p.path ∧ ¬ p.path <+: path) (c : Config) :
    p.of (c.without keys) = p.of c := by
  have hstays : ∀ path, p.path <+: path ∨ path <+: p.path → keys path = false := by
    intro path hpath
    rw [Bool.eq_false_iff]
    intro hkey
    exact hpath.elim (h path hkey).2 (h path hkey).1
  cases p <;> simp [Part.of, without, ServerSettings.without, RateLimit.without,
    LoggingSettings.without, Context.without, Keys.below, Part.path, hstays]

/-! ## Keys that no record has -/

theorem ignores_of_stray (h : ∀ path, keys path = true → Stray path) : Ignores read keys := by
  have hno (p : Part) : keys p.path = false := by
    rw [Bool.eq_false_iff]
    intro hkey
    exact (h _ hkey p (List.prefix_refl _)).2 rfl
  have plain {α : Type} (read : Reader α) (p : Part) (hp : ¬ p.IsRecord) :
      Ignores read (keys.below p.path) := ignores_of_isEmpty read (within_of_stray h p hp)
  have hlimit : Ignores (readRecord RateLimit.record) (keys.below Part.rateLimit.path) := by
    refine ignores_record ?_
    simp only [RateLimit.record, List.forall_mem_cons]
    exact ⟨fieldIgnores_field (hno .requests) (plain _ .requests (by decide)),
      fieldIgnores_field (hno .perSeconds) (plain _ .perSeconds (by decide)), nofun⟩
  have hserver : Ignores (readRecord ServerSettings.record) (keys.below Part.server.path) := by
    refine ignores_record ?_
    simp only [ServerSettings.record, List.forall_mem_cons]
    exact ⟨fieldIgnores_field (hno .bindAddress) (plain _ .bindAddress (by decide)),
      fieldIgnores_field (hno .rateLimit) hlimit, nofun⟩
  have hlogging : Ignores (readRecord LoggingSettings.record) (keys.below Part.logging.path) := by
    refine ignores_record ?_
    simp only [LoggingSettings.record, List.forall_mem_cons]
    exact ⟨fieldIgnores_field (hno .level) (plain _ .level (by decide)),
      fieldIgnores_field (hno .file) (plain _ .file (by decide)), nofun⟩
  have hcontext : Ignores (readRecord Context.settingsRecord) (keys.below Part.context.path) := by
    refine ignores_record ?_
    simp only [Context.settingsRecord, List.forall_mem_cons]
    exact ⟨fieldIgnores_field (hno .proxy) (plain _ .proxy (by decide)),
      fieldIgnores_field (hno .flac) (plain _ .flac (by decide)),
      fieldIgnores_field (hno .mode) (plain _ .mode (by decide)),
      fieldIgnores_field (hno .settings) (plain _ .settings (by decide)), nofun⟩
  refine ignores_record ?_
  simp only [record, List.forall_mem_cons]
  exact ⟨fieldIgnores_field (hno .server) hserver, fieldIgnores_field (hno .logging) hlogging,
    fieldIgnores_field (hno .context) hcontext,
    fieldIgnores_field (hno .engines) (plain _ .engines (by decide)), nofun⟩

/-! ## The settings -/

theorem ofText_of_parse {s : String} {v : Value} (h : Toml.parse s = some v) : ofText s = read v := by
  unfold ofText
  rw [h]

/-- **Every field of the settings stands alone.** Let some settings be read from a tree.

If some fields are left out of the tree, at any level, it is still read; they and all in them take
their defaults, and whatever is not in them and does not contain one of them is as it was. A field
can be left out where the records around it are written as tables.

If names are added to the tree that are no field of their record, the same settings are read.

The settings in a file are those of its tree. -/
theorem fields_stand_alone {v : Value} {c : Config} (h : read v = .ok c) :
    (∀ gone : List Part, (∀ g ∈ gone, v.Keyed g.path) →
      ∃ c', read (v.without (Part.keys gone)) = .ok c' ∧
        (∀ p : Part, (∃ g ∈ gone, g.path <+: p.path) → p.of c' = p.of {}) ∧
        (∀ p : Part, (∀ g ∈ gone, ¬ g.path <+: p.path ∧ ¬ p.path <+: g.path) → p.of c' = p.of c)) ∧
    (∀ extra : Keys, (∀ path, extra path = true → Stray path) →
      ∀ w : Value, w.without extra = v → read w = .ok c) ∧
    (∀ (s : String) (w : Value), Toml.parse s = some w → ofText s = read w) := by
  refine ⟨fun gone hkeyed => ⟨c.without (Part.keys gone), ?_, ?_, ?_⟩, ?_, fun s w => ofText_of_parse⟩
  · refine resets (within_keys gone) (fun path hkey => ?_) h
    obtain ⟨g, hg, rfl⟩ := Part.keys_eq_true_iff.1 hkey
    exact hkeyed g hg
  · rintro p ⟨g, hg, hfront⟩
    exact of_without_of_gone (Part.keys_eq_true_iff.2 ⟨g, hg, rfl⟩) (by cases g <;> nofun) hfront c
  · intro p hp
    refine of_without_of_apart (fun path hkey => ?_) c
    obtain ⟨g, hg, rfl⟩ := Part.keys_eq_true_iff.1 hkey
    exact hp g hg
  · rintro extra hstray w rfl
    rw [← ignores_of_stray hstray w]
    exact h

/-- A settings file with an address and a limit, a level and a mode. -/
def sheet : Value := .table
  [("server", .table
     [("bind_address", .text "0.0.0.0:8080"),
      ("rate_limit", .table [("requests", .integer 100), ("per_secs", .integer 60)])]),
   ("logging", .table [("level", .text "debug")]),
   ("context", .table [("search_mode", .text "order_first")])]

/-- What it says. -/
def sheetSettings : Config where
  server := { bindAddress := "0.0.0.0:8080", rateLimit := ⟨100, 60⟩ }
  logging := { level := "debug" }
  context := { mode := .orderFirst }

theorem fields_stand_alone_sheet :
    read sheet = .ok sheetSettings ∧
    (∀ g ∈ [Part.perSeconds, Part.logging], sheet.Keyed g.path) ∧
    ∃ c', read (sheet.without (Part.keys [Part.perSeconds, Part.logging])) = .ok c' ∧
      c'.server.rateLimit = ⟨100, 300⟩ ∧ c'.server.bindAddress = "0.0.0.0:8080" ∧
      c'.logging = { level := "info" } ∧ c'.context = { mode := .orderFirst } := by
  have hread : read sheet = .ok sheetSettings := rfl
  have hkeyed : ∀ g ∈ [Part.perSeconds, Part.logging], sheet.Keyed g.path := by
    simp [sheet, Part.path]
  obtain ⟨c', hc', hgone, hkept⟩ := (fields_stand_alone hread).1 _ hkeyed
  have hrequests : c'.server.rateLimit.requests = 100 := hkept .requests (by decide)
  have hperSeconds : c'.server.rateLimit.perSeconds = 300 := hgone .perSeconds (by decide)
  refine ⟨hread, hkeyed, c', hc', ?_, hkept .bindAddress (by decide), hgone .logging (by decide),
    hkept .context (by decide)⟩
  rw [← hrequests, ← hperSeconds]

end Config

end TrackResolver
