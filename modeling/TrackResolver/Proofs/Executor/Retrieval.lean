import TrackResolver.Proofs.Context
import TrackResolver.Proofs.Executor.Routing
import TrackResolver.Proofs.Registry.Standing

/-!
# Where a retrieval goes

A caller can hand in any result, also one that no search has found. What becomes of it is told by the
link that it carries, by the name that it carries, and by the engine that stands under this name;
nobody else is asked.

Results:
* `shows_view`, `asked_enterRetrieval`: what the engine sees that is asked, and how it is counted.
* `retrieves_retrieve`: each way in which a retrieval can go.
* `retrieve_eq_of_owner`: it goes alike whatever else is registered.
* `retrieval_dispatched`: these together, for every history of the registry.
-/
namespace TrackResolver

open Registry

/-- What the engine of this name is given: the context, of which it can ask the common fields and its
own settings, and no sign to stop. -/
structure Context.Shows (c : Context) (engine : String) (v : View) : Prop where
  context : v.context = c
  name : v.engine = engine
  own : ∀ key, v.settings.get? key = setting? c.settings engine key
  proxy : v.proxy = c.proxy
  flac : v.flac = c.flac
  mode : v.mode = c.mode
  running : v.cancelled = false

theorem Context.shows_view (c : Context) (engine : String) : c.Shows engine (c.view engine) :=
  ⟨rfl, rfl, c.get?_settingsOf engine, rfl, rfl, rfl, rfl⟩

namespace Executor

/-- The accounts after one retrieval by the engine of this name, and nothing else. -/
structure Asked (before : Ledger) (engine : String) (after : Ledger) : Prop where
  own : after.tally engine =
    { before.tally engine with retrieves := (before.tally engine).retrieves + 1 }
  others : ∀ other, other ≠ engine → after.tally other = before.tally other

theorem asked_enterRetrieval (l : Ledger) (engine : String) :
    Asked l engine (l.enterRetrieval engine) where
  own := by
    rw [tally_enterRetrieval, if_pos rfl]
    rfl
  others other hother := by rw [tally_enterRetrieval, if_neg hother]

section
variable (history : List Change) (ledger : Ledger) (f : Found) (c : Context)

/-- How the result is retrieved, and what the caller gets. -/
inductive Retrieves : Retrieval → Call (Except CallError Playable) → Prop
  /-- The result has a link. Whose it is, and who is registered, does not matter. -/
  | ready {p : Playable} : f.link = some p →
    Retrieves (.ready p) ⟨.ok p, .zero, ⟨after history, ledger⟩⟩
  | unowned : f.link = none → ¬ Stands history f.source →
    Retrieves (.unowned f.source)
      ⟨.error (.unknownEngines [f.source] .notRegistered), .zero, ⟨after history, ledger⟩⟩
  /-- The engine of that name answers with a link. -/
  | linked {e : Engine} {v : View} {p : Playable} {l : Ledger} : f.link = none →
    Latest history f.source e → c.Shows f.source v → e.retrieve f v = .ok p →
    Asked ledger f.source l →
    Retrieves (.asked f.source (.ok p)) ⟨.ok p, .zero, ⟨after history, l⟩⟩
  /-- The engine of that name fails. -/
  | failed {e : Engine} {v : View} {why : EngineError} {l : Ledger} : f.link = none →
    Latest history f.source e → c.Shows f.source v → e.retrieve f v = .error why →
    Asked ledger f.source l →
    Retrieves (.asked f.source (.error why))
      ⟨.error (.engineFailed f.source why), .zero, ⟨after history, l⟩⟩

theorem retrieves_retrieve : Retrieves history ledger f c ((after history).retrieve f c)
    ((Executor.mk (after history) ledger).retrieve f c) := by
  cases hlink : f.link with
  | some p =>
    have hready : (after history).retrieve f c = .ready p := by rw [Registry.retrieve, hlink]
    rw [hready, retrieve_of_link _ hlink]
    exact .ready hlink
  | none =>
    cases hget : (after history).get? f.source with
    | none =>
      have hunowned : (after history).retrieve f c = .unowned f.source := by
        simp only [Registry.retrieve, hlink, hget]
      have hstands : ¬ Stands history f.source := by
        rw [← isSome_get?_after, hget]
        exact Bool.false_ne_true
      rw [Executor.retrieve, hunowned]
      exact .unowned hlink hstands
    | some e =>
      have hasked := retrieve_of_get? (x := ⟨after history, ledger⟩) hlink hget c
      have hlatest := (get?_after history f.source e).1 hget
      have hcounts := asked_enterRetrieval ledger f.source
      rw [Executor.retrieve, hasked]
      cases hanswer : e.retrieve f (c.view f.source) with
      | ok p => exact .linked hlink hlatest (c.shows_view f.source) hanswer hcounts
      | error why => exact .failed hlink hlatest (c.shows_view f.source) hanswer hcounts

end

/-- What other engines are registered does not matter, nor what the owner does but for this one
request. -/
theorem retrieve_eq_of_owner {history other : List Change} {f : Found} {c : Context}
    (hstands : Stands other f.source ↔ Stands history f.source)
    (howner : ∀ e e', Latest history f.source e → Latest other f.source e' →
      e'.retrieve f (c.view f.source) = e.retrieve f (c.view f.source)) :
    (after other).retrieve f c = (after history).retrieve f c := by
  rw [← isSome_get?_after, ← isSome_get?_after, Bool.eq_iff_iff.symm] at hstands
  simp only [Registry.retrieve]
  cases f.link with
  | some p => rfl
  | none =>
    cases hget : (after history).get? f.source with
    | none =>
      rw [hget, Option.isSome_none, Option.isSome_eq_false_iff, Option.isNone_iff_eq_none] at hstands
      rw [hstands]
    | some e =>
      rw [hget, Option.isSome_some, Option.isSome_iff_exists] at hstands
      obtain ⟨e', hget'⟩ := hstands
      have halike := howner e e' ((get?_after history _ e).1 hget) ((get?_after other _ e').1 hget')
      simp only [hget', halike]

/-- **A retrieval goes to the owner of the result or to nobody.** Whatever was registered and taken out
before, and whatever the result and the context: a link that the result carries is handed back as it
is; without one, a name that does not stand is reported alone; and else the engine under this name is
asked, once, with its own settings, and its link or its failure is handed on. No other engine can
change the outcome, and no search can. -/
theorem retrieval_dispatched (history : List Change) (ledger : Ledger) (f : Found) (c : Context) :
    Retrieves history ledger f c ((after history).retrieve f c)
      ((Executor.mk (after history) ledger).retrieve f c) ∧
    ∀ other, (Stands other f.source ↔ Stands history f.source) →
      (∀ e e', Latest history f.source e → Latest other f.source e' →
        e'.retrieve f (c.view f.source) = e.retrieve f (c.view f.source)) →
      (after other).retrieve f c = (after history).retrieve f c :=
  ⟨retrieves_retrieve history ledger f c, fun _ => retrieve_eq_of_owner⟩

end Executor

end TrackResolver
