import TrackResolver.Proofs.Executor.Routing
import TrackResolver.Proofs.Search.Decision

/-!
# The accounts of an executor

Every engine that a search starts is entered in the ledger once, with what has become of it when the
search ends. So between any two steps each search of each engine has either given an answer or ended
without one.

Results:
* `tally_enterSearch`, `tally_enterSearch_of_notMem`: what a search does to each account.
* `counts_enterSearch`: how often it counts each engine.
* `Balanced.search`, `Balanced.retrieve`: a step keeps the accounts balanced.
* `Balanced.performAll`: and so does a whole sequence of steps.
* `searches_accounted`: the accounts before and after every search.
-/
namespace TrackResolver

open Slot Executor

/-! ## The steps of an executor -/

/-- What an executor is asked to do. -/
inductive Op where
  /-- To list its engines. -/
  | list
  /-- To show itself as a diagnostic does. -/
  | inspect
  | search (names : List String) (song : Song) (c : Context) (patience : Option Duration)
  | retrieve (f : Found) (c : Context)

namespace Executor

/-- The executor after a step; there is none after a search that does not end. -/
def perform (x : Executor) : Op → Option Executor
  | .list | .inspect => some x
  | .search names song c patience => (x.search names song c patience).map (·.after)
  | .retrieve f c => some (x.retrieve f c).after

def performAll (x : Executor) (ops : List Op) : Option Executor := ops.foldlM perform x

theorem performAll_cons (x : Executor) (op : Op) (ops : List Op) :
    x.performAll (op :: ops) = (x.perform op).bind fun y => y.performAll ops := rfl

theorem perform_registry {x y : Executor} {op : Op} (h : x.perform op = some y) :
    y.registry = x.registry := by
  cases op with
  | list | inspect => cases h; rfl
  | search names song c patience =>
    obtain ⟨call, hcall, rfl⟩ := Option.map_eq_some_iff.1 h
    exact search_registry hcall
  | retrieve f c => cases h; exact retrieve_registry x f c

theorem performAll_registry {x y : Executor} {ops : List Op} (h : x.performAll ops = some y) :
    y.registry = x.registry := by
  induction ops generalizing x with
  | nil => cases h; rfl
  | cons op ops ih =>
    rw [performAll_cons] at h
    obtain ⟨z, hz, h⟩ := Option.bind_eq_some_iff.1 h
    rw [ih h, perform_registry hz]

end Executor

/-! ## The accounts of one search -/

section
variable {l : Ledger} {time : Duration} {slots : List Slot}

theorem enterSearch_cons (l : Ledger) (time : Duration) (slot : Slot) (rest : List Slot) :
    l.enterSearch time (slot :: rest) =
      Ledger.enterSearch (l.insert slot.engine ((l.tally slot.engine).searched (slot.fate time)))
        time rest := rfl

/-- A search leaves the accounts of the engines alone that it does not start. -/
theorem tally_enterSearch_of_notMem {engine : String} (h : engine ∉ slots.map (·.engine)) :
    (l.enterSearch time slots).tally engine = l.tally engine := by
  induction slots generalizing l with
  | nil => rfl
  | cons slot rest ih =>
    rw [List.map_cons, List.mem_cons, not_or] at h
    rw [enterSearch_cons, ih h.2, tally_insert, if_neg h.1]

/-- A search enters each engine that it starts once, with its fate. -/
theorem tally_enterSearch (hn : (slots.map (·.engine)).Nodup) {slot : Slot} (hs : slot ∈ slots) :
    (l.enterSearch time slots).tally slot.engine =
      (l.tally slot.engine).searched (slot.fate time) := by
  induction slots generalizing l with
  | nil => cases hs
  | cons first rest ih =>
    obtain ⟨hfirst, hrest⟩ := List.nodup_cons.1 hn
    rw [enterSearch_cons]
    rcases List.mem_cons.1 hs with rfl | hs
    · rw [tally_enterSearch_of_notMem hfirst, tally_insert, if_pos rfl]
    · have hne : slot.engine ≠ first.engine :=
        fun he => hfirst (List.mem_map.2 ⟨slot, hs, he⟩)
      rw [ih hrest hs, tally_insert, if_neg hne]

theorem counts_searched (t : Tally) (fate : Fate) :
    (t.searched fate).searches = t.searches + 1 ∧ (t.searched fate).retrieves = t.retrieves := by
  cases fate <;> exact ⟨rfl, rfl⟩

/-- A search counts each engine as often as it starts it. -/
theorem counts_enterSearch (l : Ledger) (time : Duration) (slots : List Slot) (engine : String) :
    ((l.enterSearch time slots).tally engine).searches =
        (l.tally engine).searches + (slots.map (·.engine)).count engine ∧
      ((l.enterSearch time slots).tally engine).retrieves = (l.tally engine).retrieves := by
  induction slots generalizing l with
  | nil => exact ⟨rfl, rfl⟩
  | cons slot rest ih =>
    obtain ⟨hsearches, hretrieves⟩ := ih (l.insert slot.engine _)
    rw [enterSearch_cons, hsearches, hretrieves, tally_insert, List.map_cons, List.count_cons]
    split
    · next he =>
      obtain ⟨hsearched, hkept⟩ := counts_searched (l.tally slot.engine) (slot.fate time)
      rw [← he] at hsearched hkept ⊢
      rw [hsearched, hkept, beq_self_eq_true, if_pos rfl]
      omega
    · next he =>
      have hne : (slot.engine == engine) = false := by simpa using fun h => he h.symm
      rw [hne]
      exact ⟨rfl, rfl⟩

end

/-! ## Balanced accounts -/

/-- Every search has given an answer or ended without one. -/
def Tally.Balanced (t : Tally) : Prop := t.searches = t.completed + t.dropped

theorem Tally.Balanced.searched {t : Tally} (h : t.Balanced) (fate : Fate) :
    (t.searched fate).Balanced := by
  unfold Tally.Balanced at *
  cases fate <;> simp only [Tally.searched] <;> omega

/-- All accounts are balanced. -/
def Ledger.Balanced (l : Ledger) : Prop := ∀ engine, (l.tally engine).Balanced

namespace Ledger.Balanced

variable {l : Ledger}

theorem empty : Balanced Dict.empty := fun _ => rfl

theorem insert (h : l.Balanced) {t : Tally} (ht : t.Balanced) (engine : String) :
    Ledger.Balanced (Dict.insert l engine t) := by
  intro other
  rw [tally_insert]
  split
  · exact ht
  · exact h other

theorem enterSearch (h : l.Balanced) (time : Duration) (slots : List Slot) :
    (l.enterSearch time slots).Balanced := by
  induction slots generalizing l with
  | nil => exact h
  | cons slot rest ih =>
    rw [enterSearch_cons]
    exact ih (h.insert ((h slot.engine).searched _) slot.engine)

theorem enterRetrieval (h : l.Balanced) (engine : String) : (l.enterRetrieval engine).Balanced :=
  h.insert (t := (l.tally engine).retrieved) (h engine) engine

end Ledger.Balanced

namespace Executor

/-- The accounts of this executor are balanced. -/
def Balanced (x : Executor) : Prop := x.ledger.Balanced

namespace Balanced

variable {x y : Executor}

theorem search (h : x.Balanced) {names : List String} {song : Song} {c : Context}
    {patience : Option Duration} {call : Call SearchAnswer}
    (hs : x.search names song c patience = some call) : call.after.Balanced := by
  unfold Executor.search at hs
  split at hs
  · cases hs; exact h
  · obtain ⟨closed, -, rfl⟩ := Option.map_eq_some_iff.1 hs
    exact Ledger.Balanced.enterSearch h _ _

theorem retrieve (h : x.Balanced) (f : Found) (c : Context) : (x.retrieve f c).after.Balanced := by
  unfold Executor.retrieve
  dsimp only
  split
  · exact Ledger.Balanced.enterRetrieval h _
  · exact h

theorem perform (h : x.Balanced) {op : Op} (hy : x.perform op = some y) : y.Balanced := by
  cases op with
  | list | inspect => cases hy; exact h
  | search names song c patience =>
    obtain ⟨call, hcall, rfl⟩ := Option.map_eq_some_iff.1 hy
    exact h.search hcall
  | retrieve f c => cases hy; exact h.retrieve f c

theorem performAll (h : x.Balanced) {ops : List Op} (hy : x.performAll ops = some y) :
    y.Balanced := by
  induction ops generalizing x with
  | nil => cases hy; exact h
  | cons op ops ih =>
    rw [performAll_cons] at hy
    obtain ⟨z, hz, hy⟩ := Option.bind_eq_some_iff.1 hy
    exact ih (h.perform hz) hy

end Balanced

end Executor

/-! ## Before and after a search -/

/-- What a search that ends at `time` makes of the account of an engine that it started. An engine
that has answered by then is completed; one that has broken off by then is dropped, and never saw
the sign to stop; every other is dropped by that sign. -/
structure Entered (time : Duration) (slot : Slot) (t t' : Tally) : Prop where
  completed : ∀ u answer, slot.run = .finishes u (.answered answer) → u ≤ time →
    t' = { t with searches := t.searches + 1, completed := t.completed + 1 }
  died : ∀ u, slot.run = .finishes u .died → u ≤ time →
    t' = { t with searches := t.searches + 1, dropped := t.dropped + 1 }
  cancelled : (∀ u ending, slot.run = .finishes u ending → time < u) →
    t' = { t with
      searches := t.searches + 1, dropped := t.dropped + 1, sawCancel := t.sawCancel + 1 }

theorem entered_searched (time : Duration) (slot : Slot) (t : Tally) :
    Entered time slot t (t.searched (slot.fate time)) where
  completed u answer hr hu := by simp only [fate, hr, if_pos hu, Tally.searched]
  died u hr hu := by simp only [fate, hr, if_pos hu, Tally.searched]
  cancelled hlate := by
    have hfate : slot.fate time = .cancelled := by
      cases hr : slot.run with
      | hangs => simp only [fate, hr]
      | finishes u ending => simp only [fate, hr, if_neg (not_le.2 (hlate u ending hr))]
    rw [hfate, Tally.searched]

/-- **No call is lost, counted twice or left running.** Between any two steps every search of every
engine has given an answer or ended without one. A search that is refused changes nothing. One that
is not refused ends, for a caller whose patience does, at the time that `EndsAt` says; it enters each
engine that was asked for once, with what has become of it by then, and touches no other account. -/
theorem searches_accounted {x y : Executor} (hr : x.registry.Reachable) (hx : x.ledger = .empty)
    {ops : List Op} (hy : x.performAll ops = some y) :
    (∀ engine, (y.ledger.tally engine).searches =
      (y.ledger.tally engine).completed + (y.ledger.tally engine).dropped) ∧
    ∀ names song c patience,
      (∀ why, y.registry.lineup names = .error why →
        y.search names song c patience = some ⟨.refused why, .zero, y⟩) ∧
      ∀ lineup, y.registry.lineup names = .ok lineup →
        (launch lineup song c).map (·.engine) = names ∧ names.Nodup ∧
        (patience ≠ none → ∃ call, y.search names song c patience = some call) ∧
        ∀ call, y.search names song c patience = some call →
          EndsAt c.mode (launch lineup song c) patience call.elapsed ∧
          (∀ engine, engine ∉ names →
            call.after.ledger.tally engine = y.ledger.tally engine) ∧
          ∀ slot ∈ launch lineup song c, Entered call.elapsed slot
            (y.ledger.tally slot.engine) (call.after.ledger.tally slot.engine) := by
  have hbalanced : y.Balanced :=
    Executor.Balanced.performAll (x := x) (by rw [Executor.Balanced, hx]; exact .empty) hy
  have hry : y.registry.Reachable := by rw [Executor.performAll_registry hy]; exact hr
  refine ⟨hbalanced, ?_⟩
  intro names song c patience
  refine ⟨fun why hl => by rw [Executor.search, hl], ?_⟩
  intro lineup hl
  have hengines := launch_engines hry hl song c
  have hn := launch_engines_nodup hry hl song c
  refine ⟨hengines, hengines ▸ hn, fun hp => (exists_call_iff hry hl).2 (Or.inl hp), ?_⟩
  intro call hcall
  have hledger : call.after.ledger =
      y.ledger.enterSearch call.elapsed (launch lineup song c) := by
    rw [search_of_lineup hl] at hcall
    obtain ⟨closed, -, rfl⟩ := Option.map_eq_some_iff.1 hcall
    rfl
  refine ⟨endsAt_of_search hry hl hcall, ?_, ?_⟩
  · intro engine hnot
    rw [hledger, tally_enterSearch_of_notMem (by rw [hengines]; exact hnot)]
  · intro slot hs
    rw [hledger, tally_enterSearch hn hs]
    exact entered_searched _ _ _

/-- An engine that breaks off, one that succeeds, one that is slow, and one that never resolves. -/
def shift : Executor := .ofScripts
  [{ id := "broken", after := .ofMillis 2, search := .die },
   { id := "steady", after := .ofMillis 5 },
   { id := "slow", after := .ofMillis 20 },
   { id := "stuck", search := .hang }]

theorem searches_accounted_shift :
    shift.registry.Reachable ∧ shift.ledger = .empty ∧
    ∃ y, shift.performAll
        [.list, .search ["nobody"] { name := "" } {} none,
         .search ["steady"] { name := "" } { mode := .orderFirst } none,
         .retrieve { source := "steady", identifier := "steady-track" } {}, .inspect] = some y ∧
      ∃ call, y.search ["broken", "slow", "stuck"] { name := "" } { mode := .orderFirst }
          (some (.ofMillis 10)) = some call ∧
        call.after.ledger.tally "broken" = { searches := 1, dropped := 1 } ∧
        call.after.ledger.tally "slow" = { searches := 1, dropped := 1, sawCancel := 1 } ∧
        call.after.ledger.tally "stuck" = { searches := 1, dropped := 1, sawCancel := 1 } ∧
        call.after.ledger.tally "steady" = { searches := 1, retrieves := 1, completed := 1 } := by
  have hr : shift.registry.Reachable := Executor.reachable_ofScripts _
  have hx : shift.ledger = .empty := rfl
  obtain ⟨y, hy⟩ : ∃ y, shift.performAll
      [.list, .search ["nobody"] { name := "" } {} none,
       .search ["steady"] { name := "" } { mode := .orderFirst } none,
       .retrieve { source := "steady", identifier := "steady-track" } {}, .inspect] = some y :=
    ⟨_, rfl⟩
  obtain ⟨-, hsearch⟩ := searches_accounted hr hx hy
  cases hy
  obtain ⟨-, -, hends, hcall⟩ := (hsearch ["broken", "slow", "stuck"] { name := "" }
    { mode := .orderFirst } (some (.ofMillis 10))).2 _ rfl
  obtain ⟨call, hsome⟩ := hends nofun
  obtain ⟨-, hothers, hentered⟩ := hcall call hsome
  have htime : call.elapsed = .ofMillis 10 := by cases hsome; rfl
  refine ⟨hr, hx, _, rfl, call, hsome, ?_, ?_, ?_, ?_⟩
  · exact (hentered _ (.head _)).died (.ofMillis 2) rfl (by rw [htime]; decide)
  · refine (hentered _ (.tail _ (.head _))).cancelled ?_
    rintro u ending ⟨⟩
    rw [htime]
    decide
  · exact (hentered _ (.tail _ (.tail _ (.head _)))).cancelled nofun
  · exact hothers "steady" (by decide)

end TrackResolver
