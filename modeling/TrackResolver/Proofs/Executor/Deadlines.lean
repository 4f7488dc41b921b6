import TrackResolver.Proofs.Search.Decision

/-!
# Searches with deadlines on the engines

Nobody but the engines puts a deadline on a search. If all that are asked for have one, the search
ends by the latest of them, whatever the engines do.

Results:
* `under_apply`, `reachable_under`: deadlines can be put on the engines of a registry before or after
  they are registered.
* `heldBy_under`: what a deadline makes of one engine's part in a search.
* `search_underDeadlines`: what deadlines make of a whole call.
-/
namespace TrackResolver

open Slot Duration

/-! ## Deadlines on engines -/

/-- The run under a deadline, if there is one. -/
def Run.under {α : Type} (deadline? : Option Duration) (r : Run α) : Run α :=
  match deadline? with
  | some d => r.within d
  | none => r

/-- The engine with its searches under a deadline, if there is one. -/
def Engine.under (deadline? : Option Duration) (e : Engine) : Engine :=
  { e with search := fun song v => (e.search song v).under deadline? }

/-- The slot of an engine under a deadline, if there is one. -/
def Slot.under (deadline? : Option Duration) (s : Slot) : Slot :=
  { s with run := s.run.under deadline? }

section
variable (deadlines : String → Option Duration)

/-- The entry with its engine under the deadline of its name. -/
def Entry.under (entry : Entry) : Entry :=
  ⟨entry.name, entry.engine.under (deadlines entry.name)⟩

/-- The registry with its engines under the deadlines of their names. -/
def Registry.under (r : Registry) : Registry :=
  { r with entries := r.entries.map (Entry.under deadlines) }

def Change.under : Change → Change
  | register e => register (e.under (deadlines e.id))
  | deregister name => deregister name

/-- The executor with its engines under the deadlines of their names. -/
def Executor.under (x : Executor) : Executor := { x with registry := x.registry.under deadlines }

/-! ## The registry -/

theorem under_apply (r : Registry) (change : Change) :
    (r.under deadlines).apply (change.under deadlines) = (r.apply change).under deadlines := by
  cases change with
  | register e =>
    show (r.under deadlines).register (e.under (deadlines e.id)) = (r.register e).under deadlines
    cases hp : r.positions.get? e.id with
    | some p =>
      rw [Registry.register_of_some hp,
        Registry.register_of_some (r := r.under deadlines) (e := e.under (deadlines e.id)) hp]
      simp only [Registry.under, List.map_set]
      rfl
    | none =>
      rw [Registry.register_of_none hp,
        Registry.register_of_none (r := r.under deadlines) (e := e.under (deadlines e.id)) hp]
      simp only [Registry.under, List.map_append, List.length_map]
      rfl
  | deregister name =>
    show ((r.under deadlines).deregister name).2 = (r.deregister name).2.under deadlines
    cases hp : r.positions.get? name with
    | some p =>
      rw [Registry.deregister_of_some hp,
        Registry.deregister_of_some (r := r.under deadlines) hp]
      simp only [Registry.under, List.eraseIdx_map]
    | none =>
      rw [Registry.deregister_of_none hp, Registry.deregister_of_none (r := r.under deadlines) hp]

theorem reachable_under {r : Registry} (h : r.Reachable) : (r.under deadlines).Reachable := by
  obtain ⟨history, rfl⟩ := h
  refine ⟨history.map (Change.under deadlines), ?_⟩
  rw [Registry.after, Registry.after, List.foldl_map]
  exact (List.foldl_hom (Registry.under deadlines) (under_apply deadlines)).symm

theorem lineup_under {r : Registry} (h : r.Reachable) {names : List String} {lineup : List Entry}
    (hl : r.lineup names = .ok lineup) :
    (r.under deadlines).lineup names = .ok (lineup.map (Entry.under deadlines)) := by
  have hr := Registry.wellFormed_of_reachable h
  have hr' := Registry.wellFormed_of_reachable (reachable_under deadlines h)
  obtain ⟨hne, hnodup, hnames, hget⟩ := (Registry.lineup_eq_ok_iff hr).1 hl
  refine (Registry.lineup_eq_ok_iff hr').2 ⟨hne, hnodup, ?_, ?_⟩
  · rw [List.map_map]
    exact hnames
  · intro entry hentry
    obtain ⟨bare, hbare, rfl⟩ := List.mem_map.1 hentry
    exact hr'.get?_eq_some.2 (List.mem_map_of_mem (hr.get?_eq_some.1 (hget bare hbare)))

theorem launch_under (lineup : List Entry) (song : Song) (c : Context) :
    launch (lineup.map (Entry.under deadlines)) song c =
      (launch lineup song c).map fun s => s.under (deadlines s.engine) := by
  simp only [launch, List.map_map]
  rfl

end

/-! ## One engine -/

/-- `s'` is the slot of an engine with this deadline, and `s` is that of the engine without it. -/
structure Slot.HeldBy (deadline? : Option Duration) (s s' : Slot) : Prop where
  engine : s'.engine = s.engine
  free : deadline? = none → s' = s
  late : ∀ d, deadline? = some d → (∀ t, s.run.time? = some t → d < t) → s'.Fails d (.timeout d)
  inTime : ∀ d t, deadline? = some d → s.run.time? = some t → t ≤ d → s' = s

theorem under_inTime {s : Slot} {d t : Duration} (ht : s.run.time? = some t) (hle : t ≤ d) :
    s.under (some d) = s := by
  obtain ⟨engine, run⟩ := s
  cases run with
  | hangs => cases ht
  | finishes u ending =>
    cases ht
    exact congrArg (Slot.mk engine) (Run.within_of_le hle)

theorem under_late {s : Slot} {d : Duration} (h : ∀ t, s.run.time? = some t → d < t) :
    (s.under (some d)).Fails d (.timeout d) := by
  obtain ⟨engine, run⟩ := s
  cases run with
  | hangs => exact .own rfl
  | finishes u ending => exact .own (if_neg (not_le.2 (h u rfl)))

theorem heldBy_under (deadline? : Option Duration) (s : Slot) :
    s.HeldBy deadline? (s.under deadline?) where
  engine := rfl
  free := by rintro rfl; rfl
  late := by rintro d rfl h; exact under_late h
  inTime := by rintro d t rfl ht hle; exact under_inTime ht hle

theorem under_ends (d : Duration) (s : Slot) :
    ∃ t ≤ d, (s.under (some d)).run.time? = some t := by
  by_cases h : ∃ t ≤ d, s.run.time? = some t
  · obtain ⟨t, hle, ht⟩ := h
    exact ⟨t, hle, by rw [under_inTime ht hle]; exact ht⟩
  · refine ⟨d, le_refl _, (under_late fun t ht => not_le.1 fun hle => ?_).time?⟩
    exact h ⟨t, hle, ht⟩

/-! ## The engines of a search -/

section
variable {deadlines : String → Option Duration} {slots : List Slot}

/-- Under deadlines that have all passed at some time, every engine has resolved by then. -/
theorem ends_of_mem_under {bound : Duration}
    (h : ∀ s ∈ slots, ∃ d ≤ bound, deadlines s.engine = some d) :
    ∀ s ∈ slots.map (fun s => s.under (deadlines s.engine)),
      ∃ t ≤ bound, s.run.time? = some t := by
  intro s hs
  obtain ⟨bare, hbare, rfl⟩ := List.mem_map.1 hs
  obtain ⟨d, hle, hd⟩ := h bare hbare
  obtain ⟨t, ht, htime⟩ := under_ends d bare
  rw [hd]
  exact ⟨t, le_trans ht hle, htime⟩

/-- Deadlines that engines keep change nothing. -/
theorem map_under_of_inTime (h : ∀ s ∈ slots, ∀ d, deadlines s.engine = some d →
    ∃ t ≤ d, s.run.time? = some t) :
    slots.map (fun s => s.under (deadlines s.engine)) = slots := by
  refine (List.map_congr_left fun s hs => ?_).trans (List.map_id _)
  cases hd : deadlines s.engine with
  | none => rfl
  | some d =>
    obtain ⟨t, hle, ht⟩ := h s hs d hd
    exact under_inTime ht hle

end

/-! ## The call -/

/-- **Deadlines on the engines bound the whole search.** An engine that works past its deadline fails
with a timeout at the deadline, and any other comes to what it would without the deadline, at the
same time. If each engine that is asked for has a deadline, the call ends by the latest of them; and
if each keeps its own, the call is the same as without deadlines. -/
theorem search_underDeadlines {x : Executor} (hr : x.registry.Reachable) {names : List String}
    {lineup : List Entry} (hl : x.registry.lineup names = .ok lineup) (song : Song) (c : Context)
    (deadlines : String → Option Duration) :
    ∃ lineup', (x.under deadlines).registry.lineup names = .ok lineup' ∧
      List.Forall₂ (fun s s' => s.HeldBy (deadlines s.engine) s')
        (launch lineup song c) (launch lineup' song c) ∧
      (∀ bound, (∀ name ∈ names, ∃ d ≤ bound, deadlines name = some d) → ∀ patience,
        ∃ call, (x.under deadlines).search names song c patience = some call ∧
          call.elapsed ≤ bound) ∧
      ((∀ s ∈ launch lineup song c, ∀ d, deadlines s.engine = some d →
          ∃ t ≤ d, s.run.time? = some t) → ∀ patience,
        (x.under deadlines).search names song c patience =
          (x.search names song c patience).map fun call =>
            { call with after := call.after.under deadlines }) := by
  have hl' : (x.under deadlines).registry.lineup names = .ok (lineup.map (Entry.under deadlines)) :=
    lineup_under deadlines hr hl
  have hr' := reachable_under deadlines hr
  have hlaunch := launch_under deadlines lineup song c
  refine ⟨_, hl', ?_, ?_, ?_⟩
  · rw [hlaunch, List.forall₂_map_right_iff]
    exact List.forall₂_same.2 fun s _ => heldBy_under (deadlines s.engine) s
  · intro bound hbound patience
    have hends : ∀ s ∈ launch (lineup.map (Entry.under deadlines)) song c,
        ∃ t ≤ bound, s.run.time? = some t := by
      rw [hlaunch]
      refine ends_of_mem_under fun s hs => hbound s.engine ?_
      rw [← launch_engines hr hl song c]
      exact List.mem_map_of_mem hs
    obtain ⟨time, hle, result, hs⟩ := settle_by (launch_engines_nodup hr' hl' song c)
      (launch_ne_nil hr' hl' song c) hends
    obtain ⟨call, hcall, helapsed⟩ := exists_call_of_settled hl' hs
    exact ⟨call, hcall, le_trans helapsed hle⟩
  · intro hin patience
    rw [search_of_lineup hl, search_of_lineup hl', hlaunch, map_under_of_inTime hin, Option.map_map]
    rfl

/-- An engine that is late, one that is in time to the instant, and one that never resolves. -/
def laggards : Executor := .ofScripts
  [{ id := "late", after := .ofMillis 50 },
   { id := "edge", after := .ofMillis 30 },
   { id := "stuck", search := .hang }]

/-- How long the laggards are waited for. -/
def allowance : String → Option Duration
  | "late" => some (.ofMillis 20)
  | "edge" => some (.ofMillis 30)
  | "stuck" => some (.ofMillis 40)
  | _ => none

theorem search_underDeadlines_laggards :
    laggards.registry.Reachable ∧
    laggards.registry.lineup ["late", "edge", "stuck"] = .ok laggards.registry.entries ∧
    laggards.under allowance = .ofScripts
      [{ id := "late", after := .ofMillis 50, deadline := some (.ofMillis 20) },
       { id := "edge", after := .ofMillis 30, deadline := some (.ofMillis 30) },
       { id := "stuck", search := .hang, deadline := some (.ofMillis 40) }] ∧
    ∃ lineup' late edge stuck call,
      (laggards.under allowance).registry.lineup ["late", "edge", "stuck"] = .ok lineup' ∧
      launch lineup' { name := "" } {} = [late, edge, stuck] ∧
      late.Fails (.ofMillis 20) (.timeout (.ofMillis 20)) ∧
      edge.Wins (.ofMillis 30) { source := "edge", identifier := "edge-track" } ∧
      stuck.Fails (.ofMillis 40) (.timeout (.ofMillis 40)) ∧
      (laggards.under allowance).search ["late", "edge", "stuck"] { name := "" } {} none =
        some call ∧ call.elapsed ≤ .ofMillis 40 := by
  have hr : laggards.registry.Reachable := Executor.reachable_ofScripts _
  have hl : laggards.registry.lineup ["late", "edge", "stuck"] =
    .ok laggards.registry.entries := rfl
  obtain ⟨lineup', hl', hheld, hbound, -⟩ :=
    search_underDeadlines hr hl { name := "" } {} allowance
  obtain ⟨late, _, hlate, hothers, he⟩ := List.forall₂_cons_left_iff.1 hheld
  obtain ⟨edge, _, hedge, hlast, rfl⟩ := List.forall₂_cons_left_iff.1 hothers
  obtain ⟨stuck, _, hstuck, hnone, rfl⟩ := List.forall₂_cons_left_iff.1 hlast
  obtain rfl := List.forall₂_nil_left_iff.1 hnone
  obtain ⟨call, hcall, helapsed⟩ := hbound (.ofMillis 40) (by
    intro name hname
    match name, hname with
    | _, .head _ => exact ⟨_, by decide, rfl⟩
    | _, .tail _ (.head _) => exact ⟨_, by decide, rfl⟩
    | _, .tail _ (.tail _ (.head _)) => exact ⟨_, by decide, rfl⟩) none
  refine ⟨hr, hl, rfl, lineup', late, edge, stuck, call, hl', he, ?_, ?_, ?_, hcall, helapsed⟩
  · exact hlate.late (.ofMillis 20) rfl (by rintro t ⟨⟩; decide)
  · rw [hedge.inTime (.ofMillis 30) (.ofMillis 30) rfl rfl (by decide)]
    exact ⟨rfl, rfl⟩
  · exact hstuck.late (.ofMillis 40) rfl nofun

end TrackResolver
