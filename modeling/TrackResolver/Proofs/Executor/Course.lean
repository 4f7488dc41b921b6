import TrackResolver.Proofs.Executor.Search
import TrackResolver.Proofs.Search.Course

/-!
# A call as a course

A call of the executor says when it ends, what it answers, and what becomes of every engine. A
course takes it there in single steps: the engines that end in time hand in, the call reads the
slots in the order of its policy until it has its result, or loses its caller, and then the sign
to stop brings the others to their end.

Results:
* `exists_runs_handedIn`: the engines that end in time hand in.
* `exists_runs_reads`: what the walk over the slots settles to, the call comes to read by read.
* `exists_runs_settled`, `exists_runs_abandoned`: the two ways in which a call ends.
* `search_course`: what holds of every course, and the call of the executor is one.
-/
namespace TrackResolver

open Slot Course

/-- What has become of an engine, once its task is at its end. -/
def Task.fate? : Task → Option Fate
  | working | holding _ => none
  | reported | discarded => some .completed
  | died => some .died
  | cancelled => some .cancelled

/-- What the caller learns, once the call is at its end. -/
def Course.Phase.answer? : Phase → Option SearchAnswer
  | returned result => some (Closing.settled result).answer
  | dropped => some .abandoned
  | waiting | committed _ | leaving => none

/-! ## The engines that end in time -/

/-- The task of an engine that ends while the call waits. -/
def Worker.handsIn (w : Worker) : Ending Found → Worker
  | .answered answer => (w.ends (.answered answer)).reports answer true
  | .died => w.ends .died

/-- The task of an engine at the start. -/
def Slot.worker (slot : Slot) : Worker := { engine := slot.engine }

/-- The task of an engine at `time`, if it hands in as soon as it ends. -/
def Slot.workerAt (time : Duration) (slot : Slot) : Worker :=
  match slot.run with
  | .hangs => slot.worker
  | .finishes t ending => if t ≤ time then slot.worker.handsIn ending else slot.worker

theorem Worker.engine_handsIn (w : Worker) (ending : Ending Found) :
    (w.handsIn ending).engine = w.engine := by
  cases ending <;> rfl

/-- An engine has a task that has handed in, or it is at work and does not end by `time`. -/
theorem Slot.workerAt_cases (slot : Slot) (time : Duration) :
    (∃ t ending, slot.run = .finishes t ending ∧ t ≤ time ∧
      slot.workerAt time = slot.worker.handsIn ending) ∨
    (slot.workerAt time = slot.worker ∧ slot.fate time = .cancelled) := by
  cases hr : slot.run with
  | hangs => exact Or.inr ⟨by rw [workerAt, hr], by rw [fate, hr]⟩
  | finishes t ending =>
    by_cases ht : t ≤ time
    · exact Or.inl ⟨t, ending, rfl, ht, by simp only [workerAt, hr, if_pos ht]⟩
    · exact Or.inr ⟨by simp only [workerAt, hr, if_neg ht], by simp only [fate, hr, if_neg ht]⟩

theorem Slot.workerAt_of_le {slot : Slot} {time t : Duration} {ending : Ending Found}
    (hr : slot.run = .finishes t ending) (ht : t ≤ time) :
    slot.workerAt time = slot.worker.handsIn ending := by
  simp only [workerAt, hr, if_pos ht]

theorem Slot.engine_workerAt (time : Duration) (slot : Slot) :
    (slot.workerAt time).engine = slot.engine := by
  rcases slot.workerAt_cases time with ⟨t, ending, -, -, hw⟩ | ⟨hw, -⟩
  · rw [hw, Worker.engine_handsIn]; rfl
  · rw [hw]; rfl

/-- What is in the slot of an engine that has handed in is what its ending means for the call. -/
theorem Slot.outcome?_workerAt {slot : Slot} {time t : Duration} {ending : Ending Found}
    (hr : slot.run = .finishes t ending) (ht : t ≤ time) :
    (slot.workerAt time).outcome? = some (judge slot.engine ending) := by
  rw [workerAt_of_le hr ht]
  cases ending <;> rfl

/-- An engine that has not handed in when the call ends is stopped, and that is its fate. -/
theorem Slot.fate?_wound (time : Duration) (slot : Slot) :
    (slot.workerAt time).wound.engine = slot.engine ∧
      (slot.workerAt time).wound.task.fate? = some (slot.fate time) := by
  rcases slot.workerAt_cases time with ⟨t, ending, hr, ht, hw⟩ | ⟨hw, hf⟩
  · rw [hw]
    simp only [fate, hr, if_pos ht]
    cases ending <;> exact ⟨rfl, rfl⟩
  · rw [hw, hf]
    exact ⟨rfl, rfl⟩

namespace Course

variable {mode : SearchMode} {slots : List Slot} {time : Duration}

/-- The call waits, and all engines that end by `time` have handed in. -/
def handedIn (slots : List Slot) (time : Duration) : Course :=
  { workers := slots.map (workerAt time) }

/-- Engines come to an end in these moves as in `slots`, and none after `time`. -/
def EndsBy (slots : List Slot) (time : Duration) (moves : List Move) : Prop :=
  ∀ i ending, Move.finish i ending ∈ moves →
    ∃ slot t, slots[i]? = some slot ∧ slot.run = .finishes t ending ∧ t ≤ time

theorem EndsBy.append {moves more : List Move} (h : EndsBy slots time moves)
    (h' : EndsBy slots time more) : EndsBy slots time (moves ++ more) := by
  intro i ending hm
  rcases List.mem_append.1 hm with hm | hm
  · exact h i ending hm
  · exact h' i ending hm

theorem EndsNone.endsBy {moves : List Move} (h : EndsNone moves) : EndsBy slots time moves :=
  fun i ending hm => absurd hm (h i ending)

theorem exists_runs_handsIn (mode : SearchMode) {s : Course} {i : Nat} {w : Worker}
    (hp : s.phase = .waiting) (hw : s.workers[i]? = some w) (ht : w.task = .working)
    (ending : Ending Found) :
    ∃ moves, Runs mode s moves (s.put i (w.handsIn ending)) ∧
      ∀ j ending', Move.finish j ending' ∈ moves → j = i ∧ ending' = ending := by
  have hends : Step mode s (.finish i ending) (s.put i (w.ends ending)) := .finish hw ht
  cases ending with
  | died =>
    refine ⟨_, hends.runs, ?_⟩
    rintro j ending' hm
    cases List.mem_singleton.1 hm
    exact ⟨rfl, rfl⟩
  | answered answer =>
    have hat : (s.put i (w.ends (.answered answer))).workers[i]? =
        some (w.ends (.answered answer)) := by
      rw [getElem?_put, if_pos rfl, hw]; rfl
    have hreports : Step mode _ (.report i) _ := .report hat rfl
    have hput : (s.put i (w.ends (.answered answer))).put i (w.handsIn (.answered answer)) =
        s.put i (w.handsIn (.answered answer)) := by
      simp only [put, List.set_set]
    have hopen : (s.put i (w.ends (.answered answer))).phase.isWaiting = true := by
      rw [put, hp]; rfl
    rw [hopen] at hreports
    refine ⟨_, .cons hends (.cons (hput ▸ hreports) .nil), ?_⟩
    rintro j ending' hm
    rcases List.mem_cons.1 hm with hm | hm
    · cases hm; exact ⟨rfl, rfl⟩
    · cases List.mem_singleton.1 hm

theorem exists_runs_handedIn (mode : SearchMode) (slots : List Slot) (time : Duration) :
    ∃ moves, Runs mode (start (slots.map (·.engine))) moves (handedIn slots time) ∧
      EndsBy slots time moves := by
  obtain ⟨moves, hmoves, hP⟩ := @runs_each mode _ (start []) Slot.worker (workerAt time)
    (fun i slot m => ∀ j ending, m = .finish j ending →
      j = i ∧ ∃ t, slot.run = .finishes t ending ∧ t ≤ time) slots (by
      intro s i slot hsign hphase hw
      rcases slot.workerAt_cases time with ⟨t, ending, hr, ht, he⟩ | ⟨he, -⟩
      · obtain ⟨moves, hmoves, hfinish⟩ := exists_runs_handsIn mode hphase hw rfl ending
        refine ⟨moves, by rw [he]; exact hmoves, ?_⟩
        rintro m hm j ending' rfl
        obtain ⟨rfl, rfl⟩ := hfinish j ending' hm
        exact ⟨rfl, t, hr, ht⟩
      · have hsame : s.put i (slot.workerAt time) = s := by
          obtain ⟨hlt, hget⟩ := List.getElem?_eq_some_iff.1 hw
          rw [he, put, ← hget, List.set_getElem_self hlt]
        exact ⟨[], by rw [hsame]; exact .nil, fun m hm => absurd hm List.not_mem_nil⟩)
  have hstart : start (slots.map (·.engine)) =
      { start [] with workers := slots.map Slot.worker } := by
    simp only [start, List.map_map]
    rfl
  refine ⟨moves, by rw [hstart]; exact hmoves, ?_⟩
  intro i ending hm
  obtain ⟨j, slot, hj, hm⟩ := hP _ hm
  obtain ⟨rfl, t, hr, ht⟩ := hm i ending rfl
  exact ⟨slot, t, hj, hr, ht⟩

/-! ## Reading -/

/-- These positions may be read one after another. -/
def Ahead (mode : SearchMode) (s : Course) (queue : List Nat) : Prop :=
  match mode with
  | .orderFirst => queue = List.range' s.reads.length queue.length
  | .fastFirst => (s.reads.map (·.1) ++ queue).Nodup

theorem Ahead.due {s : Course} {i : Nat} {queue : List Nat} (h : s.Ahead mode (i :: queue)) :
    s.Due mode i := by
  cases mode with
  | orderFirst =>
    have h : i :: queue = List.range' s.reads.length (queue.length + 1) := h
    rw [List.range'_succ, List.cons.injEq] at h
    exact h.1
  | fastFirst =>
    have h : (s.reads.map (·.1) ++ i :: queue).Nodup := h
    intro hi
    exact (List.nodup_append.1 h).2.2 i hi i List.mem_cons_self rfl

theorem Ahead.receive {s : Course} {i : Nat} {queue : List Nat} (h : s.Ahead mode (i :: queue))
    (w : Worker) (outcome : Except EngineError Found) :
    (s.receive i w outcome).Ahead mode queue := by
  have hreads := (receive_eq s i w outcome).2.2.1
  cases mode with
  | orderFirst =>
    have h : i :: queue = List.range' s.reads.length (queue.length + 1) := h
    rw [List.range'_succ, List.cons.injEq] at h
    show queue = List.range' (s.receive i w outcome).reads.length queue.length
    rw [hreads, List.length_append, List.length_singleton]
    exact h.2
  | fastFirst =>
    have h : (s.reads.map (·.1) ++ i :: queue).Nodup := h
    show ((s.receive i w outcome).reads.map (·.1) ++ queue).Nodup
    rw [hreads, List.map_append, List.append_assoc]
    exact h

theorem le_of_settleFrom {t : Duration} {result : Except FailureReport Found} :
    ∀ {slots : List Slot} {time : Duration} {failures : List (String × EngineError)},
      settleFrom time failures slots = .settled t result → time ≤ t := by
  intro slots
  induction slots with
  | nil =>
    intro time failures h
    cases h
    exact le_refl _
  | cons slot rest ih =>
    intro time failures h
    rcases slot.hangs_or_wins_or_fails with hh | ⟨u, f, hw⟩ | ⟨u, e, hf⟩
    · rw [settleFrom_cons_hangs hh] at h; cases h
    · rw [settleFrom_cons_wins hw] at h; cases h; exact le_max_left _ _
    · rw [settleFrom_cons_fails hf] at h
      exact le_trans (le_max_left _ _) (ih h)

/-- The walk over `todo`, read by read. All that is read on the way has been handed in by `time`. -/
theorem exists_runs_reads {pos : Slot → Nat} {t : Duration} {result : Except FailureReport Found}
    (ht : t ≤ time) : ∀ (todo : List Slot) (s : Course) (since : Duration),
    settleFrom since s.failures todo = .settled t result → s.Ahead mode (todo.map pos) →
    (∀ slot ∈ todo, s.workers[pos slot]? = some (slot.workerAt time)) →
    s.reads.length + todo.length = s.workers.length → (todo ≠ [] → s.phase = .waiting) →
    (todo = [] → s.phase = .committed (.error (s.report s.failures))) →
    ∃ moves s', Runs mode s moves s' ∧ s'.workers = s.workers ∧
      s'.phase = .committed (result.mapError (·.inOrderOf (s.workers.map (·.engine)))) ∧
      EndsNone moves := by
  intro todo
  induction todo with
  | nil =>
    intro s since hs _ _ _ _ hdone
    cases hs
    exact ⟨[], s, .nil, rfl, hdone rfl, nofun⟩
  | cons slot rest ih =>
    intro s since hs hahead hworkers hlen hwait _
    have hp := hwait nofun
    have hw := hworkers slot List.mem_cons_self
    have hread : ∀ {u ending}, slot.run = .finishes u ending → u ≤ time →
        Step mode s (.read (pos slot))
          (s.receive (pos slot) (slot.workerAt time) (judge slot.engine ending)) :=
      fun hr hu => .read hp hahead.due hw (outcome?_workerAt hr hu)
    rcases slot.hangs_or_wins_or_fails with hh | ⟨u, f, hwins⟩ | ⟨u, e, hf⟩
    · rw [settleFrom_cons_hangs hh] at hs; cases hs
    · rw [settleFrom_cons_wins hwins] at hs
      cases hs
      have hstep := hread hwins.1 (le_trans (le_max_right _ _) ht)
      rw [hwins.judge] at hstep
      exact ⟨_, _, hstep.runs, rfl, rfl, by simp [EndsNone]⟩
    · rw [settleFrom_cons_fails hf] at hs
      obtain ⟨ending, hr, hj⟩ := hf.exists_judge
      have hstep := hread hr (le_trans (le_max_right _ _) (le_trans (le_of_settleFrom hs) ht))
      rw [hj] at hstep
      rw [List.length_cons] at hlen
      -- the report is committed if and only if this was the last slot
      have hlast : s.reads.length + 1 = s.workers.length ↔ rest = [] := by
        rw [← List.length_eq_zero_iff]; omega
      obtain ⟨moves, s', hmoves, hsame, hend, hfinish⟩ :=
        ih (s.receive (pos slot) (slot.workerAt time) (.error e)) (max since u)
          (by rw [← hs, receive, engine_workerAt]) (hahead.receive _ _)
          (fun v hv => hworkers v (List.mem_cons_of_mem _ hv))
          (by simp only [receive, List.length_append, List.length_singleton]; omega)
          (fun hne => if_neg (mt hlast.1 hne)) (fun hnil => if_pos (hlast.2 hnil))
      refine ⟨_, s', .cons hstep hmoves, hsame, hend, ?_⟩
      intro i ending' hm
      rcases List.mem_cons.1 hm with hm | hm
      · cases hm
      · exact hfinish i ending' hm

/-- The position of a slot, by its engine. -/
def position (slots : List Slot) (slot : Slot) : Nat := (slots.map (·.engine)).idxOf slot.engine

theorem position_getElem (hn : (slots.map (·.engine)).Nodup) {i : Nat} (hi : i < slots.length) :
    position slots slots[i] = i := by
  have hget := hn.idxOf_getElem i (by rw [List.length_map]; exact hi)
  rw [List.getElem_map] at hget
  exact hget

theorem ahead_arranged (hn : (slots.map (·.engine)).Nodup) :
    (handedIn slots time).Ahead mode ((arranged mode slots).map (position slots)) := by
  have hrange : slots.map (position slots) = List.range slots.length := by
    refine List.ext_getElem (by simp) fun i hi _ => ?_
    rw [List.length_map] at hi
    rw [List.getElem_map, List.getElem_range, position_getElem hn hi]
  cases mode with
  | orderFirst =>
    show slots.map (position slots) = List.range' 0 (slots.map (position slots)).length
    rw [hrange, List.length_range, List.range_eq_range']
  | fastFirst =>
    show ((arranged .fastFirst slots).map (position slots)).Nodup
    rw [((arranged_perm .fastFirst slots).map _).nodup_iff, hrange]
    exact List.nodup_range

/-! ## The two ends of a call -/

/-- A call that settles with `result` at `time` can take its course so. -/
theorem exists_runs_settled (hn : (slots.map (·.engine)).Nodup) (hne : slots ≠ [])
    {result : Except FailureReport Found} (h : settle mode slots = .settled time result) :
    ∃ moves s, Runs mode (start (slots.map (·.engine))) moves s ∧ s.phase = .returned result ∧
      s.signalled = true ∧ s.workers = slots.map (workerAt time) ∧ EndsBy slots time moves := by
  obtain ⟨moves, hmoves, hends⟩ := exists_runs_handedIn mode slots time
  have hnames : (slots.map (workerAt time)).map (·.engine) = slots.map (·.engine) := by
    rw [List.map_map]
    exact List.map_congr_left fun slot _ => engine_workerAt time slot
  rw [settle_eq] at h
  cases hwalk : settleInOrder (arranged mode slots) with
  | pending => rw [hwalk] at h; cases h
  | settled t r =>
    rw [hwalk] at h
    cases h
    have hperm := arranged_perm mode slots
    obtain ⟨more, s', hmore, hsame, hend, hfinish⟩ :=
      exists_runs_reads (le_refl time) (arranged mode slots) (handedIn slots time) .zero hwalk
        (ahead_arranged hn)
        (by
          intro slot hs
          obtain ⟨i, hi, rfl⟩ := List.getElem_of_mem (mem_arranged.1 hs)
          rw [position_getElem hn hi, handedIn, List.getElem?_map, List.getElem?_eq_getElem hi]
          rfl)
        (by simp [handedIn, hperm.length_eq]) (fun _ => rfl)
        (fun hnil => absurd (List.perm_nil.1 (hnil ▸ hperm.symm)) hne)
    rw [handedIn, hnames] at hend
    have hrelease : EndsNone [.release] := by simp [EndsNone]
    exact ⟨_, _, (hmoves.append hmore).append (Step.release hend).runs, rfl, rfl, hsame,
      (hends.append hfinish.endsBy).append hrelease.endsBy⟩

/-- A call that waits can be abandoned at any time. -/
theorem exists_runs_abandoned (mode : SearchMode) (slots : List Slot) (time : Duration) :
    ∃ moves s, Runs mode (start (slots.map (·.engine))) moves s ∧ s.phase = .dropped ∧
      s.signalled = true ∧ s.workers = slots.map (workerAt time) ∧ EndsBy slots time moves := by
  obtain ⟨moves, hmoves, hends⟩ := exists_runs_handedIn mode slots time
  have hleave : EndsNone [.leave, .unwind] := by simp [EndsNone]
  exact ⟨_, _, hmoves.append (.cons (.leave rfl) (.cons (.unwind rfl) .nil)), rfl, rfl, rfl,
    hends.append hleave.endsBy⟩

end Course

/-- **Cancellation is safe in every order of steps.** Whatever the tasks, the call and the caller do
next, the course is `Safe`, and no slot is read twice. The call of the executor is such a course: it
answers what the call answers, no engine ends in it other than on its own, and none after the call,
and each has the fate that the ledger enters. -/
theorem search_course {x : Executor} {names : List String} {lineup : List Entry} {song : Song}
    {c : Context} (hr : x.registry.Reachable) (hl : x.registry.lineup names = .ok lineup) :
    (∀ moves s, Runs c.mode (start names) moves s →
      s.Safe c.mode ∧ (moves.filterMap Move.readAt?).Nodup) ∧
    ∀ patience call, x.search names song c patience = some call →
      ∃ moves s, Runs c.mode (start names) moves s ∧ s.phase.answer? = some call.answer ∧
        EndsBy (launch lineup song c) call.elapsed moves ∧
        s.workers.map (fun w => (w.engine, w.task.fate?)) =
          (launch lineup song c).map fun slot => (slot.engine, some (slot.fate call.elapsed)) := by
  refine ⟨fun moves s hs => ⟨safe_of_runs hs, nodup_reads hs⟩, ?_⟩
  intro patience call hcall
  have hnames := launch_engines hr hl song c
  have hn := launch_engines_nodup hr hl song c
  obtain ⟨moves, s, hmoves, hanswer, hover, hsign, hworkers, hends⟩ :
      ∃ moves s, Runs c.mode (start names) moves s ∧ s.phase.answer? = some call.answer ∧
        s.phase.isOver = true ∧ s.signalled = true ∧
        s.workers = (launch lineup song c).map (workerAt call.elapsed) ∧
        EndsBy (launch lineup song c) call.elapsed moves := by
    rw [← hnames]
    rcases search_cases hl hcall with ⟨result, hs, -, ha⟩ | ⟨p, -, -, ha⟩
    · obtain ⟨moves, s, hmoves, hp, hrest⟩ :=
        exists_runs_settled hn (launch_ne_nil hr hl song c) hs
      exact ⟨moves, s, hmoves, by rw [hp, ha]; rfl, by rw [hp]; rfl, hrest⟩
    · obtain ⟨moves, s, hmoves, hp, hrest⟩ :=
        exists_runs_abandoned c.mode (launch lineup song c) call.elapsed
      exact ⟨moves, s, hmoves, by rw [hp, ha]; rfl, by rw [hp]; rfl, hrest⟩
  obtain ⟨more, hmore, hfinish⟩ := exists_runs_wound c.mode hover hsign
  refine ⟨_, _, hmoves.append hmore, hanswer, hends.append hfinish.endsBy, ?_⟩
  show (s.workers.map Worker.wound).map _ = _
  rw [hworkers, List.map_map, List.map_map]
  refine List.map_congr_left fun slot _ => ?_
  obtain ⟨hengine, hfate⟩ := slot.fate?_wound call.elapsed
  simp only [Function.comp_apply, hengine, hfate]

/-- An engine that breaks off, one that succeeds, and one that is still at work then. -/
def medley : Executor := .ofScripts
  [{ id := "broken", after := .ofMillis 2, search := .die },
   { id := "steady", after := .ofMillis 5 },
   { id := "slow", after := .ofMillis 20 }]

theorem search_course_medley :
    medley.registry.Reachable ∧
    medley.registry.lineup ["broken", "steady", "slow"] = .ok medley.registry.entries ∧
    (∀ moves s, Runs .orderFirst (start ["broken", "steady", "slow"]) moves s →
      s.Safe .orderFirst ∧ (moves.filterMap Move.readAt?).Nodup) ∧
    ∃ moves s, Runs .orderFirst (start ["broken", "steady", "slow"]) moves s ∧
      s.phase.answer? = some (.found { source := "steady", identifier := "steady-track" }) ∧
      s.workers.map (fun w => (w.engine, w.task.fate?)) =
        [("broken", some .died), ("steady", some .completed), ("slow", some .cancelled)] := by
  have hr : medley.registry.Reachable := Executor.reachable_ofScripts _
  have hl : medley.registry.lineup ["broken", "steady", "slow"] = .ok medley.registry.entries := rfl
  obtain ⟨hsafe, hcourse⟩ := @search_course _ _ _ { name := "" } { mode := .orderFirst } hr hl
  obtain ⟨moves, s, hmoves, hanswer, -, hfates⟩ := hcourse none _ rfl
  exact ⟨hr, hl, hsafe, moves, s, hmoves, hanswer, hfates⟩

end TrackResolver
