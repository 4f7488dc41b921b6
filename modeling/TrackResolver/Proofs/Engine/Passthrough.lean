import TrackResolver.Engine.Passthrough
import TrackResolver.Proofs.Context
import TrackResolver.Proofs.Executor.Routing
import TrackResolver.Proofs.Text.Trim

/-!
# The link that a song carries

`passthrough` finds the link among the free values of the song and gives it away twice: as the link
of the result, which is handed back without asking anybody, and as the identifier, of which the engine
makes a link when it is asked. Blanks are taken away both when the link is found and when it is made of
the identifier, and the second time there are none.

Results:
* `link?_eq_some_iff`, `link?_eq_none_iff`: which link a song carries.
* `search_eq_iff`: what is found, and what not.
* `retrieve_of_trims`: the identifier leads back to the link.
* `paths_agree`: for every song and any two contexts, both ways lead to the same link.
-/
namespace TrackResolver.Passthrough

open Text (isBlank trim Trims)

/-- The name under which songs carry their links in this context. -/
def keyIn (c : Context) : String := (setting? c.settings name "context_key").getD "url"

/-- The song has a value under this name that is not blank, and without the blanks around it this is
the link. -/
def Carries (song : Song) (key url : String) : Prop :=
  ∃ value, song.extra? key = some value ∧ (∃ ch ∈ value.toList, isBlank ch = false) ∧ Trims value url

theorem trim_ne_empty_iff {s : String} : trim s ≠ "" ↔ ∃ ch ∈ s.toList, isBlank ch = false := by
  rw [Ne, Text.trim_eq_empty_iff]
  simp

section
variable {song : Song} {c : Context}

theorem link?_view (song : Song) (c : Context) : link? song (c.view name) =
    ((song.extra? (keyIn c)).map trim).filter fun url => !url.isEmpty := by
  rw [link?, linkKey, View.getD, keyIn, ← Context.get?_settingsOf]
  rfl

theorem link?_eq_some_iff {url : String} :
    link? song (c.view name) = some url ↔ Carries song (keyIn c) url := by
  rw [link?_view, Option.filter_eq_some_iff, Option.map_eq_some_iff, Carries]
  constructor
  · rintro ⟨⟨value, hvalue, rfl⟩, hurl⟩
    exact ⟨value, hvalue, trim_ne_empty_iff.1 (by simpa using hurl), Text.trims_trim value⟩
  · rintro ⟨value, hvalue, hblank, htrims⟩
    obtain rfl := htrims.eq_trim
    exact ⟨⟨value, hvalue, rfl⟩, by simpa using trim_ne_empty_iff.2 hblank⟩

theorem link?_eq_none_iff : link? song (c.view name) = none ↔
    ∀ value, song.extra? (keyIn c) = some value → ∀ ch ∈ value.toList, isBlank ch = true := by
  rw [Option.eq_none_iff_forall_ne_some]
  constructor
  · intro h value hvalue ch hch
    by_contra hblank
    have hcarries : Carries song (keyIn c) (trim value) :=
      ⟨value, hvalue, ⟨ch, hch, Bool.eq_false_iff.2 hblank⟩, Text.trims_trim value⟩
    exact h _ (link?_eq_some_iff.2 hcarries)
  · intro h url hurl
    obtain ⟨value, hvalue, ⟨ch, hch, hblank⟩, -⟩ := link?_eq_some_iff.1 hurl
    rw [h value hvalue ch hch] at hblank
    cases hblank

/-- What is found of a song that carries its link under this name. -/
inductive Finds (song : Song) (key : String) : Except EngineError Found → Prop
  | found {url : String} : Carries song key url → Finds song key (.ok
      { source := "passthrough", identifier := url, song := some song,
        link := some ⟨"passthrough", url⟩ })
  /-- There is no value under the name, or a blank one. -/
  | nothing : (∀ value, song.extra? key = some value → ∀ ch ∈ value.toList, isBlank ch = true) →
    Finds song key (.error .noMatch)

theorem search_eq_iff {answer : Except EngineError Found} :
    search song (c.view name) = answer ↔ Finds song (keyIn c) answer := by
  constructor
  · rintro rfl
    rw [search]
    cases hlink : link? song (c.view name) with
    | none => exact .nothing (link?_eq_none_iff.1 hlink)
    | some url => exact .found (link?_eq_some_iff.1 hlink)
  · intro h
    cases h with
    | found hcarries => rw [search, link?_eq_some_iff.2 hcarries]; rfl
    | nothing hnone => rw [search, link?_eq_none_iff.2 hnone]

end

/-! ## Both ways to the link -/

/-- An identifier without blanks around it is the link. -/
theorem retrieve_of_trims {value : String} {f : Found} (hsource : f.source = name)
    (htrims : Trims value f.identifier) (hne : f.identifier ≠ "") (v : View) :
    engine.retrieve f v = .ok ⟨name, f.identifier⟩ := by
  have hsame : trim f.identifier = f.identifier := by rw [← htrims.eq_trim, Text.trim_trim]
  have howned : f.ensureFrom name = .ok () := if_pos hsource
  have hfilled : ¬ f.identifier.isEmpty = true := by simpa using hne
  have hresolve : resolve f = .ok ⟨name, f.identifier⟩ := by
    simp only [resolve, hsame, if_neg hfilled]
  simp only [engine, howned, hresolve, bind, Except.bind]

/-- The result leads to one link under every context, with the link that it carries and without. -/
def LeadsBothWays (x : Executor) (f : Found) : Prop := ∀ c,
  (x.retrieve f c).answer = .ok ⟨"passthrough", f.identifier⟩ ∧
    (x.retrieve { f with link := none } c).answer = .ok ⟨"passthrough", f.identifier⟩

theorem leadsBothWays_of_finds {x : Executor} (hx : x.registry.get? name = some engine) {song : Song}
    {key : String} {f : Found} (h : Finds song key (.ok f)) : LeadsBothWays x f := by
  intro c
  cases h with
  | @found url hcarries =>
    obtain ⟨value, -, hblank, htrims⟩ := hcarries
    have hne : url ≠ "" := htrims.eq_trim ▸ trim_ne_empty_iff.2 hblank
    constructor
    · rw [Executor.retrieve_of_link x rfl]
    · rw [Executor.answer_of_get? rfl hx, retrieve_of_trims rfl htrims hne]
      rfl

/-- **The link of a song is one, whichever way it is fetched.** A song carries a link under the name
that the context gives if it has a value there that is not blank; the engine finds that value without
the blanks around it, and nothing else. A result that it found leads to the link through any executor
that has the engine, under any context, also when the result has lost its own copy of the link; and so
does one that a search among other engines gave. -/
theorem paths_agree (song : Song) (c : Context) :
    (∀ run, engine.search song (c.view name) = run ↔
      ∃ answer, Finds song (keyIn c) answer ∧ run = .finishes .zero (.answered answer)) ∧
    (∀ (x : Executor) t f, x.registry.get? "passthrough" = some engine →
      engine.search song (c.view name) = .finishes t (.answered (.ok f)) → LeadsBothWays x f) ∧
    ∀ (x : Executor) names patience call f, x.registry.Reachable →
      x.registry.get? "passthrough" = some engine →
      x.search names song c patience = some call → call.answer = .found f →
      f.source = "passthrough" → ∀ y, call.after.Leads y → LeadsBothWays y f := by
  have hfinds : ∀ t f, engine.search song (c.view name) = .finishes t (.answered (.ok f)) →
      Finds song (keyIn c) (.ok f) := by
    intro t f h
    cases hsearch : search song (c.view name) with
    | error why => simp [engine, hsearch] at h
    | ok g =>
      simp only [engine, hsearch, Run.finishes.injEq, Ending.answered.injEq, Except.ok.injEq] at h
      obtain ⟨-, rfl⟩ := h
      exact search_eq_iff.1 hsearch
  refine ⟨fun run => ?_, fun x t f hx h => leadsBothWays_of_finds hx (hfinds t f h), ?_⟩
  · constructor
    · rintro rfl
      exact ⟨_, search_eq_iff.1 rfl, rfl⟩
    · rintro ⟨answer, h, rfl⟩
      rw [← search_eq_iff.2 h]
      rfl
  · intro x names patience call f hr hx hcall hf hsource y hy
    obtain ⟨-, e, t, he, -, hrun⟩ := exists_engine_of_found hr hcall hf
    rw [hsource] at he hrun
    obtain rfl : engine = e := Option.some.inj (hx.symm.trans he)
    refine leadsBothWays_of_finds ?_ (hfinds t f hrun)
    rw [Executor.leads_registry hy, Executor.search_registry hcall]
    exact hx

end TrackResolver.Passthrough
