import Mathlib.Data.List.Nodup
import TrackResolver.Engine.Scripted
import TrackResolver.Executor
import TrackResolver.Proofs.Registry.Lineup
import TrackResolver.Proofs.Search.Walk

/-!
# The call of a search

A search over a line-up ends with what its slots settle to, for a caller who `Awaits` the time at
which they do; for any other caller it is abandoned.

Results:
* `launch_engines`, `launch_nodup`: position by position the slots are those of the names asked for.
* `search_settled`, `search_pending`, `search_given_up`: what a call comes to.
* `search_cases`: there is nothing else.
* `gives_found_iff`, `gives_allFailed_iff`, `staysPending_iff`: what becomes of a caller who waits for
  ever.
-/
namespace TrackResolver

open Slot

/-- A caller with this patience is still there at `time`. -/
def Awaits (patience : Option Duration) (time : Duration) : Prop := ∀ p ∈ patience, time < p

theorem awaits_none (time : Duration) : Awaits none time := nofun

theorem exists_of_not_awaits {patience : Option Duration} {time : Duration}
    (h : ¬ Awaits patience time) : ∃ p, patience = some p ∧ p ≤ time := by
  simp only [Awaits, not_forall] at h
  obtain ⟨p, hmem, hp⟩ := h
  exact ⟨p, Option.mem_def.1 hmem, not_lt.1 hp⟩

/-! ## The slots -/

theorem mem_launch {lineup : List Entry} {song : Song} {c : Context} {s : Slot} :
    s ∈ launch lineup song c ↔
      ∃ entry ∈ lineup, s = ⟨entry.name, entry.engine.search song (c.view entry.name)⟩ := by
  simp only [launch, List.mem_map, eq_comm]

section
variable {r : Registry} {names : List String} {lineup : List Entry}

theorem launch_engines (hr : r.Reachable) (hl : r.lineup names = .ok lineup) (song : Song)
    (c : Context) : (launch lineup song c).map (·.engine) = names := by
  obtain ⟨-, -, hnames, -⟩ := (Registry.lineup_eq_ok_iff (Registry.wellFormed_of_reachable hr)).1 hl
  rw [launch, List.map_map]
  exact hnames

theorem launch_engines_nodup (hr : r.Reachable) (hl : r.lineup names = .ok lineup) (song : Song)
    (c : Context) : ((launch lineup song c).map (·.engine)).Nodup := by
  obtain ⟨-, hnodup, -⟩ := (Registry.lineup_eq_ok_iff (Registry.wellFormed_of_reachable hr)).1 hl
  rw [launch_engines hr hl]; exact hnodup

theorem launch_nodup (hr : r.Reachable) (hl : r.lineup names = .ok lineup) (song : Song)
    (c : Context) : (launch lineup song c).Nodup :=
  List.Nodup.of_map _ (launch_engines_nodup hr hl song c)

theorem launch_ne_nil (hr : r.Reachable) (hl : r.lineup names = .ok lineup) (song : Song)
    (c : Context) : launch lineup song c ≠ [] := by
  obtain ⟨hne, -⟩ := (Registry.lineup_eq_ok_iff (Registry.wellFormed_of_reachable hr)).1 hl
  intro hnil
  have := launch_engines hr hl song c
  rw [hnil] at this
  exact hne this.symm

end

/-! ## The call -/

section
variable {x : Executor} {names : List String} {lineup : List Entry} {song : Song} {c : Context}
  {patience : Option Duration}

theorem search_of_lineup (hl : x.registry.lineup names = .ok lineup) :
    x.search names song c patience =
      ((settle c.mode (launch lineup song c)).close patience).map fun (time, closing) =>
        ⟨closing.answer, time,
          { x with ledger := x.ledger.enterSearch time (launch lineup song c) }⟩ := by
  rw [Executor.search, hl]

theorem search_settled (hl : x.registry.lineup names = .ok lineup) {time : Duration}
    {result : Except FailureReport Found}
    (hs : settle c.mode (launch lineup song c) = .settled time result)
    (hp : Awaits patience time) :
    x.search names song c patience = some ⟨(Closing.settled result).answer, time,
      { x with ledger := x.ledger.enterSearch time (launch lineup song c) }⟩ := by
  rw [search_of_lineup hl, hs]
  cases patience with
  | none => rfl
  | some p => simp only [Settlement.close, Option.map_some, if_pos (hp p rfl)]

theorem search_pending (hl : x.registry.lineup names = .ok lineup)
    (hs : settle c.mode (launch lineup song c) = .pending) :
    x.search names song c patience = patience.map fun p => ⟨.abandoned, p,
      { x with ledger := x.ledger.enterSearch p (launch lineup song c) }⟩ := by
  rw [search_of_lineup hl, hs]
  cases patience <;> rfl

theorem search_given_up (hl : x.registry.lineup names = .ok lineup) {time : Duration}
    {result : Except FailureReport Found}
    (hs : settle c.mode (launch lineup song c) = .settled time result)
    {p : Duration} (hp : p ≤ time) :
    x.search names song c (some p) = some ⟨.abandoned, p,
      { x with ledger := x.ledger.enterSearch p (launch lineup song c) }⟩ := by
  rw [search_of_lineup hl, hs]
  simp only [Settlement.close, Option.map_some, if_neg (not_lt.2 hp)]
  rfl

/-- A call ends when its search settles, or before if its caller goes away. -/
theorem exists_call_of_settled (hl : x.registry.lineup names = .ok lineup) {time : Duration}
    {result : Except FailureReport Found}
    (hs : settle c.mode (launch lineup song c) = .settled time result) :
    ∃ call, x.search names song c patience = some call ∧ call.elapsed ≤ time := by
  by_cases hp : Awaits patience time
  · exact ⟨_, search_settled hl hs hp, le_refl time⟩
  · obtain ⟨p, rfl, hle⟩ := exists_of_not_awaits hp
    exact ⟨_, search_given_up hl hs hle, hle⟩

theorem search_cases (hl : x.registry.lineup names = .ok lineup) {call : Call SearchAnswer}
    (h : x.search names song c patience = some call) :
    (∃ result, settle c.mode (launch lineup song c) = .settled call.elapsed result ∧
      Awaits patience call.elapsed ∧ call.answer = (Closing.settled result).answer) ∨
    (∃ p, patience = some p ∧ call.elapsed = p ∧ call.answer = .abandoned) := by
  cases hs : settle c.mode (launch lineup song c) with
  | pending =>
    rw [search_pending hl hs] at h
    obtain ⟨p, rfl, rfl⟩ := Option.map_eq_some_iff.1 h
    exact Or.inr ⟨p, rfl, rfl, rfl⟩
  | settled time result =>
    by_cases hp : Awaits patience time
    · rw [search_settled hl hs hp, Option.some.injEq] at h
      subst h
      exact Or.inl ⟨result, rfl, hp, rfl⟩
    · obtain ⟨p, rfl, hle⟩ := exists_of_not_awaits hp
      rw [search_given_up hl hs hle, Option.some.injEq] at h
      subst h
      exact Or.inr ⟨p, rfl, rfl, rfl⟩

/-- A search that finds something has settled with it. -/
theorem settle_of_found (hl : x.registry.lineup names = .ok lineup) {call : Call SearchAnswer}
    (h : x.search names song c patience = some call) {f : Found} (hf : call.answer = .found f) :
    settle c.mode (launch lineup song c) = .settled call.elapsed (.ok f) ∧
      Awaits patience call.elapsed := by
  rcases search_cases hl h with ⟨result, hs, hp, ha⟩ | ⟨p, -, -, ha⟩
  · rw [ha] at hf
    cases result with
    | ok g => cases hf; exact ⟨hs, hp⟩
    | error report => cases hf
  · rw [ha] at hf; cases hf

/-- A search of which the answer never comes: it does not end for a caller who waits, and is
abandoned by any other when the patience is at its end. -/
def StaysPending (x : Executor) (names : List String) (song : Song) (c : Context) : Prop :=
  x.search names song c none = none ∧
    ∀ p, ∃ call, x.search names song c (some p) = some call ∧ call.answer = .abandoned ∧
      call.elapsed = p

theorem staysPending_of_settle (hl : x.registry.lineup names = .ok lineup)
    (hs : settle c.mode (launch lineup song c) = .pending) : StaysPending x names song c :=
  ⟨search_pending hl hs, fun _ => ⟨_, search_pending hl hs, rfl, rfl⟩⟩

theorem settle_of_staysPending (hl : x.registry.lineup names = .ok lineup)
    (h : StaysPending x names song c) : settle c.mode (launch lineup song c) = .pending := by
  cases hs : settle c.mode (launch lineup song c) with
  | pending => rfl
  | settled time result =>
    have hnone := h.1
    rw [search_settled hl hs (awaits_none time)] at hnone
    cases hnone

theorem staysPending_iff (hl : x.registry.lineup names = .ok lineup) :
    StaysPending x names song c ↔ settle c.mode (launch lineup song c) = .pending :=
  ⟨settle_of_staysPending hl, staysPending_of_settle hl⟩

/-- A caller who waits for ever is given this answer at this time. -/
def Gives (x : Executor) (names : List String) (song : Song) (c : Context) (time : Duration)
    (answer : SearchAnswer) : Prop :=
  ∃ call, x.search names song c none = some call ∧ call.answer = answer ∧ call.elapsed = time

/-- Different results are different answers. -/
theorem answer_settled_inj {result other : Except FailureReport Found} :
    (Closing.settled result).answer = (Closing.settled other).answer ↔ result = other := by
  cases result <;> cases other <;> simp [Closing.answer]

theorem gives_iff (hl : x.registry.lineup names = .ok lineup) {time : Duration}
    (result : Except FailureReport Found) :
    Gives x names song c time (Closing.settled result).answer ↔
      settle c.mode (launch lineup song c) = .settled time result := by
  constructor
  · rintro ⟨call, hcall, ha, rfl⟩
    rcases search_cases hl hcall with ⟨other, hs, -, ho⟩ | ⟨p, hp, -, -⟩
    · rw [ho, answer_settled_inj] at ha
      rw [hs, ha]
    · cases hp
  · exact fun hs => ⟨_, search_settled hl hs (awaits_none time), rfl, rfl⟩

theorem gives_found_iff (hl : x.registry.lineup names = .ok lineup) {time : Duration} {f : Found} :
    Gives x names song c time (.found f) ↔
      settle c.mode (launch lineup song c) = .settled time (.ok f) :=
  gives_iff hl (.ok f)

theorem gives_allFailed_iff (hl : x.registry.lineup names = .ok lineup) {time : Duration}
    {report : FailureReport} : Gives x names song c time (.refused (.allFailed report)) ↔
      settle c.mode (launch lineup song c) = .settled time (.error report) :=
  gives_iff hl (.error report)

/-- Names that pass the check are searched, and that comes to one of three things. -/
theorem gives_or_staysPending (hl : x.registry.lineup names = .ok lineup) (song : Song)
    (c : Context) : (∃ time f, Gives x names song c time (.found f)) ∨
      (∃ time report, Gives x names song c time (.refused (.allFailed report))) ∨
      StaysPending x names song c := by
  simp only [gives_found_iff hl, gives_allFailed_iff hl, staysPending_iff hl]
  cases settle c.mode (launch lineup song c) with
  | pending => exact Or.inr (Or.inr rfl)
  | settled time result =>
    cases result with
    | ok f => exact Or.inl ⟨time, f, rfl⟩
    | error report => exact Or.inr (Or.inl ⟨time, report, rfl⟩)

end

/-- An executor over engines that follow these scripts. -/
def Executor.ofScripts (scripts : List Script) : Executor :=
  ⟨.ofList (scripts.map Script.engine), .empty⟩

theorem Executor.reachable_ofScripts (scripts : List Script) :
    (ofScripts scripts).registry.Reachable := Registry.reachable_ofList _

end TrackResolver
