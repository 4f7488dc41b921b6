import TrackResolver.Proofs.Executor.Accounts
import TrackResolver.Proofs.Registry.Standing

/-!
# The check of a list of names

Before a search starts an engine it checks the whole list of names that it was given. The check goes
by the history of the registry alone: which names stand, and which engine was last registered under
each. A list that fails starts nothing; one that passes starts the engine of every name, in the order
of the list.

Results:
* `Screened`: what the check says of a list, by four rules of which one applies.
* `screened_lineup`: the check says what they say.
* `search_screened`: and the search does what the check says.
-/
namespace TrackResolver

open Slot

/-- What the check says of a list of names, over a registry with this history. -/
inductive Screened (history : List Change) (names : List String) :
    Except CallError (List Entry) → Prop
  | empty : names = [] → Screened history names (.error .noEngines)
  /-- Whether or not names come twice. Each is reported once, in the order of the first places. -/
  | notRegistered {wrong : List String} :
    (∃ name ∈ names, ¬ Registry.Stands history name) →
    (∀ name, name ∈ wrong ↔ name ∈ names ∧ ¬ Registry.Stands history name) → wrong.Nodup →
    (wrong.Pairwise fun a b => names.idxOf a < names.idxOf b) →
    Screened history names (.error (.unknownEngines wrong .notRegistered))
  /-- Each is reported once. -/
  | duplicated {wrong : List String} :
    (∀ name ∈ names, Registry.Stands history name) → (∃ name, 2 ≤ names.count name) →
    (∀ name, name ∈ wrong ↔ 2 ≤ names.count name) → wrong.Nodup →
    Screened history names (.error (.unknownEngines wrong .duplicated))
  /-- Position by position, the engines are those that stand under the names. -/
  | passed {lineup : List Entry} : names ≠ [] → names.Nodup → lineup.map (·.name) = names →
    (∀ entry ∈ lineup, Registry.Latest history entry.name entry.engine) →
    Screened history names (.ok lineup)

namespace Registry

variable {history : List Change}

theorem contains_after {name : String} :
    (after history).contains name = true ↔ Stands history name := by
  rw [(wellFormed_after history).contains_eq, isSome_get?_after]

theorem mem_missing_after {names : List String} {name : String} :
    name ∈ (after history).missing names ↔ name ∈ names ∧ ¬ Stands history name := by
  rw [mem_missing, ← contains_after, Bool.not_eq_true]

theorem screened_lineup (history : List Change) (names : List String) :
    Screened history names ((after history).lineup names) := by
  by_cases hne : names = []
  · subst hne
    exact .empty rfl
  by_cases hm : (after history).missing names = []
  · by_cases hd : repeated names = []
    · have hl := lineup_of_fit hne hm hd
      rw [hl]
      obtain ⟨-, hnodup, hnames, hget⟩ := (lineup_eq_ok_iff (wellFormed_after history)).1 hl
      refine .passed hne hnodup hnames ?_
      intro entry hentry
      exact (get?_after history _ _).1 (hget entry hentry)
    · rw [lineup_of_repeated hne hm hd]
      obtain ⟨name, hname⟩ := List.exists_mem_of_ne_nil _ hd
      refine .duplicated ?_ ⟨name, mem_repeated.1 hname⟩ (fun _ => mem_repeated)
        (nodup_arrivals 1 names [])
      intro name hname
      exact contains_after.1 (missing_eq_nil.1 hm name hname)
  · rw [lineup_of_missing hne hm]
    obtain ⟨name, hname⟩ := List.exists_mem_of_ne_nil _ hm
    exact .notRegistered ⟨name, mem_missing_after.1 hname⟩ (fun _ => mem_missing_after)
      (nodup_missing _ names) (pairwise_missing _ names)

/-- What is not registered is reported first, and once even if it comes twice. -/
example : (after [.register (Script.engine { id := "a" })]).lineup ["a", "c", "a", "b", "c"] =
    .error (.unknownEngines ["c", "b"] .notRegistered) := rfl

end Registry

namespace Executor

variable {x : Executor} {names : List String}

/-- A search of these names is the race of the engines of this line-up, and counts each of them. -/
structure Races (x : Executor) (names : List String) (lineup : List Entry) (song : Song)
    (c : Context) (patience : Option Duration) : Prop where
  race : x.search names song c patience =
    ((settle c.mode (launch lineup song c)).close patience).map fun (time, closing) =>
      ⟨closing.answer, time, { x with ledger := x.ledger.enterSearch time (launch lineup song c) }⟩
  started : (launch lineup song c).map (·.engine) = names
  counted : ∀ call, x.search names song c patience = some call → ∀ engine,
    (call.after.ledger.tally engine).searches =
      (x.ledger.tally engine).searches + names.count engine

/-- What a search of these names does when the check says this. -/
inductive Heeds (x : Executor) (names : List String) : Except CallError (List Entry) → Prop
  /-- It ends at once, and leaves everything as it was. -/
  | refused {why : CallError} : (∀ song c patience,
      x.search names song c patience = some ⟨.refused why, .zero, x⟩) → Heeds x names (.error why)
  | started {lineup : List Entry} : (∀ song c patience, x.Races names lineup song c patience) →
    Heeds x names (.ok lineup)

theorem races_of_lineup {lineup : List Entry} (hl : x.registry.lineup names = .ok lineup)
    (hnames : lineup.map (·.name) = names) (song : Song) (c : Context)
    (patience : Option Duration) : x.Races names lineup song c patience := by
  have hrace : x.search names song c patience = _ := search_of_lineup hl
  have hstarted : (launch lineup song c).map (·.engine) = names := by
    rw [launch, List.map_map]
    exact hnames
  refine ⟨hrace, hstarted, ?_⟩
  intro call hcall engine
  rw [hrace] at hcall
  obtain ⟨closed, -, hcall⟩ := Option.map_eq_some_iff.1 hcall
  subst hcall
  rw [(counts_enterSearch _ _ _ engine).1, hstarted]

theorem heeds_lineup (hr : x.registry.WellFormed) (names : List String) :
    x.Heeds names (x.registry.lineup names) := by
  cases hl : x.registry.lineup names with
  | error why =>
    refine .refused ?_
    intro song c patience
    unfold Executor.search
    rw [hl]
  | ok lineup =>
    obtain ⟨-, -, hnames, -⟩ := (Registry.lineup_eq_ok_iff hr).1 hl
    exact .started (races_of_lineup hl hnames)

/-- **The check of a list of names is exact**, whatever was registered and taken out before and
whatever was searched: one rule of `Screened` says what becomes of the list, and the search does it. -/
theorem search_screened (history : List Change) (ledger : Ledger) (names : List String) :
    ∃ verdict, Screened history names verdict ∧
      (Executor.mk (.after history) ledger).Heeds names verdict :=
  ⟨_, Registry.screened_lineup history names,
    heeds_lineup (Registry.wellFormed_after history) names⟩

end Executor

end TrackResolver
