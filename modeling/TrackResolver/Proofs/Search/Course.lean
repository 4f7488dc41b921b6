import Mathlib.Data.List.Nodup
import TrackResolver.Search

/-!
# The course of a search

A search in its single steps. Every engine works in a task of its own, and the tasks, the call and
its caller take their steps in any order. A task that has its answer puts it into its slot; one that
breaks off, and one that gives its engine up because the sign to stop was given, leaves the slot
without a sender, and the slot alone does not tell which of the two it was. `Step` says what can
happen next to a `Course`, and `Runs` what can happen in the long run.

Results:
* `runs_each`: what every task can do on its own, all of them can do one after another.
* `Inv.step`: every step keeps the invariant `Inv`; `inv_of_runs`: so every course has it.
* `Runs.result`: a result that has been committed stays, with all that was read.
* `Runs.afterEnd`: after the end of a call the sign stays given, and a task that still runs gets
  nowhere.
* `exists_runs_wound`: after the end of a call every task can be brought to an end.
* `safe_of_runs`: what holds of every course, in whatever order its steps are taken.
-/
namespace TrackResolver

/-- How far the task of an engine is. -/
inductive Task where
  | working
  /-- The engine has answered, and the answer is not in the slot yet. -/
  | holding (answer : Except EngineError Found)
  | reported
  /-- The answer came when the slot was gone. -/
  | discarded
  /-- The engine broke off. -/
  | died
  /-- The task saw the sign to stop and gave its engine up. -/
  | cancelled

namespace Task

def isRunning : Task → Bool
  | working | holding _ => true
  | reported | discarded | died | cancelled => false

/-- Where a task can get to when its slot is gone. -/
def Idle (t : Task) : Prop := t.isRunning = true ∨ t = cancelled ∨ t = discarded ∨ t = died

end Task

/-- What is in a slot. -/
inductive Mail where
  | empty
  | holds (outcome : Except EngineError Found)
  /-- The sender is gone and has left nothing. -/
  | vanished

/-- An engine at work, with its slot. -/
structure Worker where
  engine : String
  task : Task := .working
  mail : Mail := .empty
  /-- Whether the engine has looked for the sign to stop and has seen it. -/
  sawSign : Bool := false

namespace Worker

/-- The engine looks for the sign. -/
def looks (w : Worker) (signalled : Bool) : Worker := { w with sawSign := w.sawSign || signalled }

/-- The work of the engine ends. -/
def ends (w : Worker) : Ending Found → Worker
  | .answered answer => { w with task := .holding answer }
  | .died => { w with task := .died, mail := .vanished }

/-- The task puts the answer into the slot, if the slot is still there. -/
def reports (w : Worker) (answer : Except EngineError Found) (isOpen : Bool) : Worker :=
  if isOpen then
    { w with task := .reported, mail := .holds (Slot.judge w.engine (.answered answer)) }
  else { w with task := .discarded }

/-- The task gives its engine up. -/
def stops (w : Worker) : Worker := { w with task := .cancelled, mail := .vanished }

/-- A task that still runs is brought to its end when its slot is gone. -/
def wound (w : Worker) : Worker :=
  match w.task with
  | .working => w.stops
  | .holding answer => w.reports answer false
  | _ => w

/-- What the call makes of the slot, once there is something to be made of it. -/
def outcome? (w : Worker) : Option (Except EngineError Found) :=
  match w.mail with
  | .empty => none
  | .holds outcome => some outcome
  | .vanished => some (Slot.judge w.engine .died)

/-- The slot agrees with the task, and without a sign none was seen. -/
structure Ok (signalled : Bool) (w : Worker) : Prop where
  unseen : signalled = false → w.sawSign = false ∧ w.task ≠ .cancelled
  vanished : w.mail = .vanished → w.task = .died ∨ w.task = .cancelled
  held : ∀ outcome, w.mail = .holds outcome → w.task = .reported

/-- This was in the slot when it was read, and the engine could not have seen the sign. -/
def WasRead (w : Worker) (mail : Mail) : Prop :=
  w.sawSign = false ∧ (mail = .vanished ∧ w.task = .died ∨ mail ≠ .vanished ∧ w.task = .reported)

variable {w : Worker} {signalled : Bool}

theorem WasRead.not_running {mail : Mail} (h : w.WasRead mail) : w.task.isRunning = false := by
  obtain ⟨-, ⟨-, ht⟩ | ⟨-, ht⟩⟩ := h <;> rw [ht] <;> rfl

/-- The slot of a task that still runs is empty. -/
theorem Ok.mail_eq (h : w.Ok signalled) (ht : w.task.isRunning = true) : w.mail = .empty := by
  cases hm : w.mail with
  | empty => rfl
  | holds outcome =>
    rw [h.held outcome hm] at ht
    cases ht
  | vanished =>
    rcases h.vanished hm with he | he <;> rw [he] at ht <;> cases ht

theorem Ok.looks (h : w.Ok signalled) : (w.looks signalled).Ok signalled where
  unseen hs := by
    obtain ⟨hsaw, ht⟩ := h.unseen hs
    exact ⟨by simp [Worker.looks, hsaw, hs], ht⟩
  vanished := h.vanished
  held := h.held

/-- A task that holds an answer, or had it discarded, has left its slot empty. -/
theorem Ok.of_mail_eq {u : Worker} (h : w.Ok signalled) (hm : u.mail = .empty)
    (hsaw : u.sawSign = w.sawSign) (ht : u.task ≠ .cancelled) : u.Ok signalled where
  unseen hs := ⟨hsaw.trans (h.unseen hs).1, ht⟩
  vanished hv := by rw [hm] at hv; cases hv
  held outcome hv := by rw [hm] at hv; cases hv

theorem Ok.ends (h : w.Ok signalled) (ht : w.task = .working) (ending : Ending Found) :
    (w.ends ending).Ok signalled := by
  cases ending with
  | answered answer => exact h.of_mail_eq (h.mail_eq (by rw [ht]; rfl)) rfl nofun
  | died => exact ⟨fun hs => ⟨(h.unseen hs).1, nofun⟩, fun _ => Or.inl rfl, nofun⟩

theorem Ok.reports (h : w.Ok signalled) {answer : Except EngineError Found}
    (ht : w.task = .holding answer) (isOpen : Bool) : (w.reports answer isOpen).Ok signalled := by
  cases isOpen with
  | true => exact ⟨fun hs => ⟨(h.unseen hs).1, nofun⟩, nofun, fun _ _ => rfl⟩
  | false => exact h.of_mail_eq (h.mail_eq (by rw [ht]; rfl)) rfl nofun

theorem Ok.stops (hs : signalled = true) : w.stops.Ok signalled :=
  ⟨fun hn => absurd (hs.symm.trans hn) nofun, fun _ => Or.inr rfl, nofun⟩

theorem Ok.signal (h : w.Ok signalled) : w.Ok true := ⟨nofun, h.vanished, h.held⟩

theorem isRunning_wound (w : Worker) : w.wound.task.isRunning = false := by
  cases ht : w.task <;> simp only [wound, ht] <;> rfl

end Worker

/-- How far the call is. Its slots are there only while it waits. -/
inductive Course.Phase where
  /-- The call waits for its slots, and the caller for the call. -/
  | waiting
  /-- The call has its result and has not given the sign to stop yet. -/
  | committed (result : Except FailureReport Found)
  /-- The sign is given, and the caller has the result. -/
  | returned (result : Except FailureReport Found)
  /-- The caller has gone, and the sign to stop is not given yet. -/
  | leaving
  /-- The caller has gone, and the sign is given. -/
  | dropped

/-- A search on its way. -/
structure Course where
  workers : List Worker
  /-- Whether the sign to stop is given. -/
  signalled : Bool := false
  phase : Course.Phase := .waiting
  /-- The failures that have been read, in the order of reading. -/
  failures : List (String × EngineError) := []
  /-- The positions of the slots that have been read, and what was in them. -/
  reads : List (Nat × Mail) := []

namespace Course

namespace Phase

/-- Whether the slots are still there. -/
def isWaiting : Phase → Bool
  | waiting => true
  | committed _ | returned _ | leaving | dropped => false

/-- Whether the call has returned or been dropped. -/
def isOver : Phase → Bool
  | returned _ | dropped => true
  | waiting | committed _ | leaving => false

def result? : Phase → Option (Except FailureReport Found)
  | committed result | returned result => some result
  | waiting | leaving | dropped => none

theorem isWaiting_of_isOver {p : Phase} (h : p.isOver = true) : p.isWaiting = false := by
  cases p <;> first | rfl | cases h

end Phase

/-- All engines have just been started. -/
def start (names : List String) : Course := { workers := names.map fun name => { engine := name } }

/-- The course with another worker at `i`. -/
def put (s : Course) (i : Nat) (w : Worker) : Course := { s with workers := s.workers.set i w }

/-- Whether the slot at `i` may be read next: by order it is the first that has not been read, by
speed any. -/
def Due (mode : SearchMode) (s : Course) (i : Nat) : Prop :=
  match mode with
  | .orderFirst => i = s.reads.length
  | .fastFirst => i ∉ s.reads.map (·.1)

/-- These failures as a report, in the order of the request. -/
def report (s : Course) (failures : List (String × EngineError)) : FailureReport :=
  FailureReport.inOrderOf (s.workers.map (·.engine)) ⟨failures⟩

/-- The call has read the slot of `w` at `i`. The first result is committed, and the report when
there is nothing else to be read. -/
def receive (s : Course) (i : Nat) (w : Worker) : Except EngineError Found → Course
  | .ok f => { s with reads := s.reads ++ [(i, w.mail)], phase := .committed (.ok f) }
  | .error e =>
    let failures := s.failures ++ [(w.engine, e)]
    { s with
      reads := s.reads ++ [(i, w.mail)]
      failures
      phase :=
        if s.reads.length + 1 = s.workers.length then .committed (.error (s.report failures))
        else .waiting }

/-- A step of a search. -/
inductive Move where
  /-- The engine at `i` looks whether it is to stop. -/
  | look (i : Nat)
  /-- The engine at `i` comes to an end. -/
  | finish (i : Nat) (ending : Ending Found)
  /-- The task at `i` hands its answer in. -/
  | report (i : Nat)
  /-- The task at `i` sees the sign to stop. -/
  | cancel (i : Nat)
  /-- The call reads the slot at `i`. -/
  | read (i : Nat)
  /-- The call gives the sign to stop and returns. -/
  | release
  /-- The caller goes away. -/
  | leave
  /-- What is left of the call gives the sign to stop. -/
  | unwind

/-- The position of the slot that is read. -/
def Move.readAt? : Move → Option Nat
  | read i => some i
  | look _ | finish .. | report _ | cancel _ | release | leave | unwind => none

/-- What can happen next. -/
inductive Step (mode : SearchMode) : Course → Move → Course → Prop
  | look {s : Course} {i : Nat} {w : Worker} (hw : s.workers[i]? = some w)
    (ht : w.task = .working) : Step mode s (.look i) (s.put i (w.looks s.signalled))
  | finish {s : Course} {i : Nat} {w : Worker} {ending : Ending Found}
    (hw : s.workers[i]? = some w) (ht : w.task = .working) :
    Step mode s (.finish i ending) (s.put i (w.ends ending))
  | report {s : Course} {i : Nat} {w : Worker} {answer : Except EngineError Found}
    (hw : s.workers[i]? = some w) (ht : w.task = .holding answer) :
    Step mode s (.report i) (s.put i (w.reports answer s.phase.isWaiting))
  | cancel {s : Course} {i : Nat} {w : Worker} (hw : s.workers[i]? = some w)
    (ht : w.task = .working) (hs : s.signalled = true) : Step mode s (.cancel i) (s.put i w.stops)
  | read {s : Course} {i : Nat} {w : Worker} {outcome : Except EngineError Found}
    (hp : s.phase = .waiting) (hi : s.Due mode i) (hw : s.workers[i]? = some w)
    (ho : w.outcome? = some outcome) : Step mode s (.read i) (s.receive i w outcome)
  | release {s : Course} {result : Except FailureReport Found} (hp : s.phase = .committed result) :
    Step mode s .release { s with phase := .returned result, signalled := true }
  | leave {s : Course} (hp : s.phase = .waiting) : Step mode s .leave { s with phase := .leaving }
  | unwind {s : Course} (hp : s.phase = .leaving) :
    Step mode s .unwind { s with phase := .dropped, signalled := true }

/-- What can happen, move by move. -/
inductive Runs (mode : SearchMode) : Course → List Move → Course → Prop
  | nil {s : Course} : Runs mode s [] s
  | cons {s s' s'' : Course} {m : Move} {moves : List Move} (h : Step mode s m s')
    (hs : Runs mode s' moves s'') : Runs mode s (m :: moves) s''

variable {mode : SearchMode} {s s' s'' : Course} {m : Move} {moves more : List Move}

theorem Step.runs (h : Step mode s m s') : Runs mode s [m] s' := .cons h .nil

theorem Runs.append (h : Runs mode s moves s') (h' : Runs mode s' more s'') :
    Runs mode s (moves ++ more) s'' := by
  induction h with
  | nil => exact h'
  | cons hs _ ih => exact .cons hs (ih h')

/-- No engine comes to an end in these moves. -/
def EndsNone (moves : List Move) : Prop := ∀ i ending, Move.finish i ending ∉ moves

/-- What every task can do on its own, all of them can do one after another. -/
theorem runs_each {α : Type} (s : Course) (f g : α → Worker) (P : Nat → α → Move → Prop)
    (l : List α) (h : ∀ (t : Course) (i : Nat) (a : α), t.signalled = s.signalled →
      t.phase = s.phase → t.workers[i]? = some (f a) →
      ∃ moves, Runs mode t moves (t.put i (g a)) ∧ ∀ m ∈ moves, P i a m) :
    ∃ moves, Runs mode { s with workers := l.map f } moves { s with workers := l.map g } ∧
      ∀ m ∈ moves, ∃ i a, l[i]? = some a ∧ P i a m := by
  -- the tasks of `done` have got there, and the next one is that of the head of `todo`
  suffices hrest : ∀ todo done : List α, l = done ++ todo →
      ∃ moves, Runs mode { s with workers := done.map g ++ todo.map f } moves
        { s with workers := l.map g } ∧ ∀ m ∈ moves, ∃ i a, l[i]? = some a ∧ P i a m from
    hrest l [] rfl
  intro todo
  induction todo with
  | nil =>
    intro done hl
    rw [List.append_nil] at hl
    subst hl
    exact ⟨[], by rw [List.map_nil, List.append_nil]; exact .nil, nofun⟩
  | cons a rest ih =>
    intro done hl
    obtain ⟨moves, hmoves, hP⟩ := h { s with workers := done.map g ++ (a :: rest).map f }
      done.length a rfl rfl (by simp)
    obtain ⟨more, hmore, hP'⟩ := ih (done ++ [a]) (by simp [hl])
    have hput : Course.put { s with workers := done.map g ++ (a :: rest).map f } done.length (g a) =
        { s with workers := (done ++ [a]).map g ++ rest.map f } := by
      simp [Course.put, List.set_append_right]
    rw [hput] at hmoves
    refine ⟨moves ++ more, hmoves.append hmore, ?_⟩
    intro m hm
    rcases List.mem_append.1 hm with hm | hm
    · exact ⟨done.length, a, by simp [hl], hP m hm⟩
    · exact hP' m hm

/-- The step of one task leaves the others alone. -/
theorem getElem?_put (s : Course) (i j : Nat) (w : Worker) :
    (s.put i w).workers[j]? = if i = j then s.workers[j]?.map fun _ => w else s.workers[j]? := by
  rw [put, List.getElem?_set']
  rfl

theorem receive_eq (s : Course) (i : Nat) (w : Worker) (outcome : Except EngineError Found) :
    (s.receive i w outcome).workers = s.workers ∧
    (s.receive i w outcome).signalled = s.signalled ∧
    (s.receive i w outcome).reads = s.reads ++ [(i, w.mail)] ∧
    (s.receive i w outcome).phase.isOver = false := by
  cases outcome with
  | ok f => exact ⟨rfl, rfl, rfl, rfl⟩
  | error e =>
    refine ⟨rfl, rfl, rfl, ?_⟩
    simp only [receive]
    split <;> rfl

/-! ## The invariant -/

structure Inv (mode : SearchMode) (s : Course) : Prop where
  signalled : s.signalled = s.phase.isOver
  ok : ∀ w ∈ s.workers, w.Ok s.signalled
  read : ∀ i mail, (i, mail) ∈ s.reads → ∃ w, s.workers[i]? = some w ∧ w.WasRead mail
  inOrder : mode = .orderFirst → s.reads.map (·.1) = List.range s.reads.length
  nodup : (s.reads.map (·.1)).Nodup

/-- A step of a task that runs keeps the invariant if it keeps its own worker in order. -/
theorem Inv.put (h : s.Inv mode) {i : Nat} {w w' : Worker} (hw : s.workers[i]? = some w)
    (ht : w.task.isRunning = true) (hok : w'.Ok s.signalled) : (s.put i w').Inv mode where
  signalled := h.signalled
  ok := by
    intro u hu
    rcases List.mem_or_eq_of_mem_set hu with hu | rfl
    · exact h.ok u hu
    · exact hok
  read := by
    intro j mail hj
    obtain ⟨u, hu, hread⟩ := h.read j mail hj
    -- a task whose slot has been read has ended
    have hij : i ≠ j := by
      rintro rfl
      rw [hw, Option.some.injEq] at hu
      subst hu
      rw [hread.not_running] at ht
      cases ht
    exact ⟨u, by rw [getElem?_put, if_neg hij, hu], hread⟩
  inOrder := h.inOrder
  nodup := h.nodup

/-- What is read while the call waits was put there by an engine that had answered or broken off. -/
theorem Inv.wasRead (h : s.Inv mode) (hp : s.phase = .waiting) {w : Worker} (hw : w ∈ s.workers)
    {outcome : Except EngineError Found} (ho : w.outcome? = some outcome) : w.WasRead w.mail := by
  have hs : s.signalled = false := by rw [h.signalled, hp]; rfl
  obtain ⟨hsaw, htask⟩ := (h.ok w hw).unseen hs
  refine ⟨hsaw, ?_⟩
  cases hm : w.mail with
  | empty => rw [Worker.outcome?, hm] at ho; cases ho
  | holds outcome => exact Or.inr ⟨nofun, (h.ok w hw).held outcome hm⟩
  | vanished => exact Or.inl ⟨rfl, ((h.ok w hw).vanished hm).resolve_right htask⟩

/-- A slot that may be read has not been read. -/
theorem Inv.not_mem_of_due (h : s.Inv mode) {i : Nat} (hi : s.Due mode i) :
    i ∉ s.reads.map (·.1) := by
  cases mode with
  | fastFirst => exact hi
  | orderFirst =>
    rw [h.inOrder rfl, List.mem_range]
    simp only [Due] at hi
    omega

theorem Inv.receive (h : s.Inv mode) (hp : s.phase = .waiting) {i : Nat} (hi : s.Due mode i)
    {w : Worker} (hw : s.workers[i]? = some w) {outcome : Except EngineError Found}
    (ho : w.outcome? = some outcome) : (s.receive i w outcome).Inv mode := by
  obtain ⟨hworkers, hsignalled, hreads, hover⟩ := receive_eq s i w outcome
  have hquiet : s.signalled = false := by rw [h.signalled, hp]; rfl
  refine ⟨by rw [hsignalled, hover, hquiet], ?_, ?_, ?_, ?_⟩
  · rw [hworkers, hsignalled]; exact h.ok
  · intro j mail hj
    rw [hreads, List.mem_append, List.mem_singleton] at hj
    rw [hworkers]
    rcases hj with hj | hj
    · exact h.read j mail hj
    · cases hj
      exact ⟨w, hw, h.wasRead hp (List.mem_of_getElem? hw) ho⟩
  · intro hm
    have hdue : i = s.reads.length := by rw [hm] at hi; exact hi
    rw [hreads, List.map_append, h.inOrder hm, List.length_append, List.length_singleton,
      List.range_succ, hdue]
    rfl
  · rw [hreads, List.map_append, List.nodup_append]
    refine ⟨h.nodup, List.nodup_singleton _, ?_⟩
    intro a ha b hb hab
    rw [List.map_singleton, List.mem_singleton] at hb
    subst hb; subst hab
    exact h.not_mem_of_due hi ha

theorem Inv.step (h : s.Inv mode) (hs : Step mode s m s') : s'.Inv mode := by
  cases hs with
  | @look i w hw ht =>
    exact h.put hw (by rw [ht]; rfl) (h.ok w (List.mem_of_getElem? hw)).looks
  | @finish i w ending hw ht =>
    exact h.put hw (by rw [ht]; rfl) ((h.ok w (List.mem_of_getElem? hw)).ends ht ending)
  | @report i w answer hw ht =>
    exact h.put hw (by rw [ht]; rfl) ((h.ok w (List.mem_of_getElem? hw)).reports ht _)
  | @cancel i w hw ht hsign => exact h.put hw (by rw [ht]; rfl) (Worker.Ok.stops hsign)
  | read hp hi hw ho => exact h.receive hp hi hw ho
  | release hp => exact ⟨rfl, fun w hw => (h.ok w hw).signal, h.read, h.inOrder, h.nodup⟩
  | leave hp =>
    refine ⟨?_, h.ok, h.read, h.inOrder, h.nodup⟩
    rw [h.signalled, hp]
    rfl
  | unwind hp => exact ⟨rfl, fun w hw => (h.ok w hw).signal, h.read, h.inOrder, h.nodup⟩

theorem inv_start (mode : SearchMode) (names : List String) : (start names).Inv mode where
  signalled := rfl
  ok := by
    intro w hw
    obtain ⟨name, -, rfl⟩ := List.mem_map.1 hw
    exact ⟨fun _ => ⟨rfl, nofun⟩, nofun, nofun⟩
  read := nofun
  inOrder _ := rfl
  nodup := List.nodup_nil

theorem Inv.runs (h : s.Inv mode) (hs : Runs mode s moves s') : s'.Inv mode := by
  induction hs with
  | nil => exact h
  | cons hstep _ ih => exact ih (h.step hstep)

theorem inv_of_runs {names : List String} (h : Runs mode (start names) moves s) : s.Inv mode :=
  (inv_start mode names).runs h

/-! ## After the commit -/

theorem Step.result (h : Step mode s m s') {result : Except FailureReport Found}
    (hr : s.phase.result? = some result) :
    s'.phase.result? = some result ∧ s'.failures = s.failures ∧ s'.reads = s.reads := by
  cases h with
  | look | finish | report | cancel => exact ⟨hr, rfl, rfl⟩
  | read hp | leave hp | unwind hp => rw [hp] at hr; cases hr
  | release hp => rw [hp] at hr; exact ⟨hr, rfl, rfl⟩

theorem Runs.result (h : Runs mode s moves s') {result : Except FailureReport Found}
    (hr : s.phase.result? = some result) :
    s'.phase.result? = some result ∧ s'.failures = s.failures ∧ s'.reads = s.reads := by
  induction h with
  | nil => exact ⟨hr, rfl, rfl⟩
  | cons hstep _ ih =>
    obtain ⟨hr', hf, hreads⟩ := hstep.result hr
    obtain ⟨hr'', hf', hreads'⟩ := ih hr'
    exact ⟨hr'', hf'.trans hf, hreads'.trans hreads⟩

/-! ## After the end -/

theorem Step.afterEnd (h : Step mode s m s') (ho : s.phase.isOver = true)
    (hs : s.signalled = true) :
    s'.phase = s.phase ∧ s'.signalled = true ∧ s'.reads = s.reads ∧
      ∀ (i : Nat) (w : Worker), s.workers[i]? = some w → w.task.Idle →
        ∃ w', s'.workers[i]? = some w' ∧ w'.task.Idle := by
  -- a task that takes a step stays idle, and all others stay as they are
  have hput : ∀ (i : Nat) (w : Worker), w.task.Idle → ∀ (j : Nat) (u : Worker),
      s.workers[j]? = some u → u.task.Idle →
      ∃ u', (s.put i w).workers[j]? = some u' ∧ u'.task.Idle := by
    intro i w hw j u hu hidle
    rw [getElem?_put, hu]
    by_cases hij : i = j
    · exact ⟨w, by rw [if_pos hij]; rfl, hw⟩
    · exact ⟨u, by rw [if_neg hij], hidle⟩
  cases h with
  | @look i w hw ht => exact ⟨rfl, hs, rfl, hput i _ (Or.inl (by rw [Worker.looks, ht]; rfl))⟩
  | @finish i w ending hw ht =>
    refine ⟨rfl, hs, rfl, hput i _ ?_⟩
    cases ending with
    | answered answer => exact Or.inl rfl
    | died => exact Or.inr (Or.inr (Or.inr rfl))
  | @report i w answer hw ht =>
    refine ⟨rfl, hs, rfl, hput i _ ?_⟩
    rw [Phase.isWaiting_of_isOver ho]
    exact Or.inr (Or.inr (Or.inl rfl))
  | @cancel i w hw ht hsign => exact ⟨rfl, hs, rfl, hput i _ (Or.inr (Or.inl rfl))⟩
  | read hp | release hp | leave hp | unwind hp => rw [hp] at ho; cases ho

theorem Runs.afterEnd (h : Runs mode s moves s') (ho : s.phase.isOver = true)
    (hs : s.signalled = true) :
    s'.phase = s.phase ∧ s'.signalled = true ∧ s'.reads = s.reads ∧
      ∀ (i : Nat) (w : Worker), s.workers[i]? = some w → w.task.Idle →
        ∃ w', s'.workers[i]? = some w' ∧ w'.task.Idle := by
  induction h with
  | nil => exact ⟨rfl, hs, rfl, fun i w hw hidle => ⟨w, hw, hidle⟩⟩
  | cons hstep _ ih =>
    obtain ⟨hp, hs', hreads, hidle⟩ := hstep.afterEnd ho hs
    obtain ⟨hp', hs'', hreads', hidle'⟩ := ih (by rw [hp]; exact ho) hs'
    refine ⟨hp'.trans hp, hs'', hreads'.trans hreads, ?_⟩
    intro i w hw hi
    obtain ⟨u, hu, hui⟩ := hidle i w hw hi
    exact hidle' i u hu hui

/-- What still runs after the end can be brought to its end, without any engine finishing. -/
theorem exists_runs_wound (mode : SearchMode) (ho : s.phase.isOver = true)
    (hs : s.signalled = true) :
    ∃ moves, Runs mode s moves { s with workers := s.workers.map Worker.wound } ∧
      EndsNone moves := by
  obtain ⟨moves, hmoves, hP⟩ := @runs_each mode _ s id Worker.wound
    (fun _ _ m => ∀ i ending, m ≠ .finish i ending) s.workers (by
      intro t i w hsign hphase hw
      have hclosed : t.phase.isWaiting = false := by
        rw [hphase]; exact Phase.isWaiting_of_isOver ho
      cases ht : w.task with
      | working =>
        have hstep : Step mode t (.cancel i) (t.put i w.stops) := .cancel hw ht (hsign.trans hs)
        refine ⟨[.cancel i], ?_, by simp⟩
        rw [Worker.wound, ht]
        exact hstep.runs
      | holding answer =>
        have hstep : Step mode t (.report i) (t.put i (w.reports answer t.phase.isWaiting)) :=
          .report hw ht
        rw [hclosed] at hstep
        refine ⟨[.report i], ?_, by simp⟩
        rw [Worker.wound, ht]
        exact hstep.runs
      | _ =>
        have hsame : t.put i w.wound = t := by
          obtain ⟨hlt, he⟩ := List.getElem?_eq_some_iff.1 hw
          rw [Worker.wound, ht, put]
          simp only [id] at he
          rw [← he, List.set_getElem_self hlt]
        exact ⟨[], by rw [hsame]; exact .nil, nofun⟩)
  rw [List.map_id] at hmoves
  refine ⟨moves, hmoves, ?_⟩
  intro i ending hm
  obtain ⟨_, _, -, hne⟩ := hP _ hm
  exact hne i ending rfl

/-! ## Every order of steps -/

/-- What holds of a course, whatever has happened and whatever still will. -/
structure Safe (mode : SearchMode) (s : Course) : Prop where
  /-- No sign is given while the call waits for a caller who is there. -/
  quiet : s.phase = .waiting → s.signalled = false
  /-- A slot that has lost its sender is read only if the engine broke off. -/
  vanished : ∀ i, (i, Mail.vanished) ∈ s.reads → ∃ w, s.workers[i]? = some w ∧ w.task = .died
  /-- An engine whose slot is read never saw the sign. -/
  unseen : ∀ i mail, (i, mail) ∈ s.reads → ∃ w, s.workers[i]? = some w ∧ w.sawSign = false
  /-- Nothing changes a result that is committed, or is read after it. -/
  final : ∀ result, s.phase.result? = some result → ∀ moves s', Runs mode s moves s' →
    s'.phase.result? = some result ∧ s'.failures = s.failures ∧ s'.reads = s.reads
  /-- When the call has returned or been dropped the sign is given. -/
  signalled : s.phase.isOver = true → s.signalled = true
  /-- The sign stays given. A task that still runs then never gets its answer read, whether it ends
  as cancelled, comes with its answer in vain, or breaks off. -/
  afterEnd : s.phase.isOver = true → ∀ moves s', Runs mode s moves s' →
    s'.phase = s.phase ∧ s'.signalled = true ∧ s'.reads = s.reads ∧
      ∀ (i : Nat) (w : Worker), s.workers[i]? = some w → w.task.isRunning = true →
        i ∉ s'.reads.map (·.1) ∧ ∃ w', s'.workers[i]? = some w' ∧ w'.task.Idle
  /-- And every such task can end at once. -/
  ended : s.phase.isOver = true → ∃ moves s', Runs mode s moves s' ∧ EndsNone moves ∧
    ∀ w ∈ s'.workers, w.task.isRunning = false

theorem safe_of_runs {names : List String} (h : Runs mode (start names) moves s) : s.Safe mode := by
  have hinv := inv_of_runs h
  have hsign : s.phase.isOver = true → s.signalled = true := fun ho => hinv.signalled.trans ho
  refine ⟨?_, ?_, ?_, ?_, hsign, ?_, ?_⟩
  · intro hp
    rw [hinv.signalled, hp]
    rfl
  · intro i hi
    obtain ⟨w, hw, -, ⟨-, ht⟩ | ⟨hne, -⟩⟩ := hinv.read i _ hi
    · exact ⟨w, hw, ht⟩
    · exact absurd rfl hne
  · intro i mail hi
    obtain ⟨w, hw, hsaw, -⟩ := hinv.read i mail hi
    exact ⟨w, hw, hsaw⟩
  · exact fun result hr moves s' hs => hs.result hr
  · intro ho moves s' hs
    obtain ⟨hp, hs', hreads, hidle⟩ := hs.afterEnd ho (hsign ho)
    refine ⟨hp, hs', hreads, ?_⟩
    intro i w hw ht
    refine ⟨?_, hidle i w hw (Or.inl ht)⟩
    intro hi
    rw [hreads] at hi
    obtain ⟨⟨j, mail⟩, hj, rfl⟩ := List.mem_map.1 hi
    obtain ⟨u, hu, hread⟩ := hinv.read j mail hj
    rw [hw, Option.some.injEq] at hu
    subst hu
    rw [hread.not_running] at ht
    cases ht
  · intro ho
    obtain ⟨moves, hmoves, hfinish⟩ := exists_runs_wound mode ho (hsign ho)
    refine ⟨moves, _, hmoves, hfinish, ?_⟩
    intro w hw
    obtain ⟨u, -, rfl⟩ := List.mem_map.1 hw
    exact u.isRunning_wound

theorem Step.reads (h : Step mode s m s') :
    s'.reads.map (·.1) = s.reads.map (·.1) ++ m.readAt?.toList := by
  cases h with
  | @read i w outcome hp hi hw ho =>
    rw [(receive_eq s i w outcome).2.2.1, List.map_append]
    rfl
  | _ => exact (List.append_nil _).symm

theorem Runs.reads (h : Runs mode s moves s') :
    s'.reads.map (·.1) = s.reads.map (·.1) ++ moves.filterMap Move.readAt? := by
  induction h with
  | nil => exact (List.append_nil _).symm
  | @cons _ _ _ m _ hstep _ ih =>
    rw [ih, hstep.reads, List.append_assoc, List.filterMap_cons]
    cases m.readAt? <;> rfl

/-- No slot is read twice. -/
theorem nodup_reads {names : List String} (h : Runs mode (start names) moves s) :
    (moves.filterMap Move.readAt?).Nodup := by
  have hreads : s.reads.map (·.1) = moves.filterMap Move.readAt? := h.reads
  rw [← hreads]
  exact (inv_of_runs h).nodup

end Course

end TrackResolver
