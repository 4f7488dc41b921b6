import TrackResolver.Proofs.Http.Arrivals

/-!
# The windows of a limit

The counted requests fall into windows: a window opens with the first that comes when none is open,
and holds all that come before its end. The end is reckoned when the window opens, and the clock may
not be able to tell it; then the budget breaks.

Results:
* `flatten_windows`: every request is in one window.
* `Treats.weathers`: a run. Of each window the limit's number is served and the others are shed, and
  from the first whose end the clock cannot tell everything is lost.
* `Weathers.kept`: if the clock can tell all of them, nothing is.
-/
namespace TrackResolver.Http

open Router

/-! ## Windows -/

/-- Requests cut into windows: each opens with the first of them and holds all that come before its
end. -/
def windows (period : Duration) : List Arrival → List (List Arrival)
  | [] => []
  | a :: rest =>
    let inside := Arrival.isBefore (a.now + period.nanos)
    (a :: rest.takeWhile inside) :: windows period (rest.dropWhile inside)
termination_by arrivals => arrivals.length
decreasing_by exact Nat.lt_succ_of_le (List.dropWhile_suffix _).length_le

/-- Every request is in one window, in order. -/
theorem flatten_windows (period : Duration) (arrivals : List Arrival) :
    (windows period arrivals).flatten = arrivals := by
  fun_induction windows period arrivals with
  | case1 => rfl
  | case2 a rest inside ih =>
    rw [List.flatten_cons, ih, List.cons_append, List.takeWhile_append_dropWhile]

/-- A window ends where the next request does not come before its end. -/
theorem windows_cons_append {period : Duration} {a : Arrival} (inside later : List Arrival)
    (hinside : ∀ u ∈ inside, u.isBefore (a.now + period.nanos) = true)
    (hlater : ∀ u ∈ later.head?, u.isBefore (a.now + period.nanos) = false) :
    windows period (a :: (inside ++ later)) = (a :: inside) :: windows period later := by
  rw [windows, List.takeWhile_append_of_pos hinside, List.dropWhile_append_of_pos hinside]
  cases later with
  | nil => simp
  | cons u rest =>
    have hu := Bool.eq_false_iff.1 (hlater u rfl)
    rw [List.takeWhile_cons_of_neg hu, List.dropWhile_cons_of_neg hu, List.append_nil]

/-- The first `n` requests of a window are admitted, and the others shed. -/
def Shed (n : Nat) (window : List Arrival) : Prop :=
  ∀ (i : Nat) (h : i < window.length), window[i].isShed = true ↔ n ≤ i

theorem shed_nil (n : Nat) : Shed n [] := nofun

theorem shed_cons {n : Nat} {a : Arrival} {window : List Arrival} :
    Shed n (a :: window) ↔ (a.isShed = true ↔ n = 0) ∧ Shed (n - 1) window := by
  constructor
  · intro h
    refine ⟨(h 0 (Nat.zero_lt_succ _)).trans Nat.le_zero, fun i hi => ?_⟩
    have hnext := h (i + 1) (Nat.succ_lt_succ hi)
    rw [List.getElem_cons_succ] at hnext
    exact hnext.trans Nat.sub_le_iff_le_add.symm
  · rintro ⟨ha, h⟩ i hi
    cases i with
    | zero => exact ha.trans Nat.le_zero.symm
    | succ i =>
      rw [List.getElem_cons_succ]
      exact (h i (Nat.lt_of_succ_lt_succ hi)).trans Nat.sub_le_iff_le_add

theorem Shed.take {n m : Nat} {window : List Arrival} (h : Shed n window) (hm : m ≤ n) :
    ∀ a ∈ window.take m, a.isShed = false := by
  intro a ha
  obtain ⟨i, hi, heq⟩ := List.mem_take_iff_getElem.1 ha
  rw [← heq, ← Bool.not_eq_true, h i (by omega)]
  omega

theorem Shed.countP_le {n : Nat} {window : List Arrival} (h : Shed n window) :
    window.countP (fun a => !a.isShed) ≤ n := by
  induction window generalizing n with
  | nil => exact Nat.zero_le n
  | cons a rest ih =>
    obtain ⟨ha, hrest⟩ := shed_cons.1 h
    have hle := ih hrest
    rw [List.countP_cons]
    cases hshed : a.isShed with
    | true => simp; omega
    | false =>
      have hpos : n ≠ 0 := fun hn => by rw [ha.2 hn] at hshed; cases hshed
      simp; omega

/-- The request that opens a window is admitted. -/
theorem Shed.head {n : Nat} {window : List Arrival} (h : Shed n window) (hn : 0 < n) :
    ∀ a ∈ window.head?, a.isShed = false := by
  rintro a ha
  cases window with
  | nil => cases ha
  | cons first rest =>
    cases ha
    rw [← Bool.not_eq_true, (shed_cons.1 h).1]
    omega

/-! ## One request after another -/

/-- A broken budget stays broken. -/
theorem Budget.Treats.lost {clock : Clock} {limit : RateLimit} {counted : List Arrival}
    (hs : (Budget.mk clock limit none).Treats counted) :
    ∀ a ∈ counted, a.isShed = false ∧ a.isLost = true := by
  induction counted with
  | nil => nofun
  | cons a rest ih =>
    cases hs with
    | cons rt hb h hrest =>
      exact List.forall_mem_cons.2 ⟨h.of_broken, ih hrest⟩

/-- Of each window the limit's number is served and the others are shed, until a window opens of
which the clock cannot tell the end; everything from then on is lost. -/
inductive Weathers (clock : Clock) (limit : RateLimit) : List (List Arrival) → Prop
  | nil : Weathers clock limit []
  | window {a : Arrival} {inside : List Arrival} {later : List (List Arrival)}
    (hclock : clock.tells (a.now + limit.period.nanos) = true)
    (hshed : Shed limit.requests.toNat (a :: inside))
    (hlost : ∀ u ∈ a :: inside, u.isLost = false) (hs : Weathers clock limit later) :
    Weathers clock limit ((a :: inside) :: later)
  | outage {a : Arrival} {inside : List Arrival} {later : List (List Arrival)}
    (hclock : clock.tells (a.now + limit.period.nanos) = false)
    (hlost : ∀ window ∈ (a :: inside) :: later, ∀ u ∈ window,
      u.isShed = false ∧ u.isLost = true) :
    Weathers clock limit ((a :: inside) :: later)

/-- What an open window makes of the requests that come before its end, and what becomes of those
that come later. -/
structure Charged (clock : Clock) (limit : RateLimit) (w : Window) (counted : List Arrival) :
    Prop where
  inside : Shed w.left (counted.takeWhile (Arrival.isBefore w.until_))
  served : ∀ a ∈ counted.takeWhile (Arrival.isBefore w.until_), a.isLost = false
  later : Weathers clock limit (windows limit.period (counted.dropWhile (Arrival.isBefore w.until_)))

section
variable {clock : Clock} {limit : RateLimit} {w : Window} {a : Arrival} {rest : List Arrival}

theorem Charged.of_inside (hlt : a.isBefore w.until_ = true) (ha : a.isShed = true ↔ w.left = 0)
    (hlost : a.isLost = false) (h : Charged clock limit ⟨w.until_, w.left - 1⟩ rest) :
    Charged clock limit w (a :: rest) where
  inside := by
    rw [List.takeWhile_cons_of_pos hlt]
    exact shed_cons.2 ⟨ha, h.inside⟩
  served := by
    rw [List.takeWhile_cons_of_pos hlt]
    exact List.forall_mem_cons.2 ⟨hlost, h.served⟩
  later := by
    rw [List.dropWhile_cons_of_pos hlt]
    exact h.later

theorem Charged.of_later (hle : ¬ a.isBefore w.until_ = true)
    (h : Weathers clock limit (windows limit.period (a :: rest))) : Charged clock limit w (a :: rest) where
  inside := by
    rw [List.takeWhile_cons_of_neg hle]
    exact shed_nil _
  served := by
    rw [List.takeWhile_cons_of_neg hle]
    nofun
  later := by
    rw [List.dropWhile_cons_of_neg hle]
    exact h

/-- A window opens. -/
theorem Charged.weathers (hclock : clock.tells (a.now + limit.period.nanos) = true)
    (ha : a.isShed = true ↔ limit.requests.toNat = 0) (hlost : a.isLost = false)
    (h : Charged clock limit ⟨a.now + limit.period.nanos, limit.requests.toNat - 1⟩ rest) :
    Weathers clock limit (windows limit.period (a :: rest)) := by
  rw [windows]
  exact .window hclock (shed_cons.2 ⟨ha, h.inside⟩) (List.forall_mem_cons.2 ⟨hlost, h.served⟩)
    h.later

/-- The budget breaks. -/
theorem weathers_of_lost (hclock : clock.tells (a.now + limit.period.nanos) = false)
    (h : ∀ u ∈ a :: rest, u.isShed = false ∧ u.isLost = true) :
    Weathers clock limit (windows limit.period (a :: rest)) := by
  have hflat := flatten_windows limit.period (a :: rest)
  rw [windows] at hflat ⊢
  refine .outage hclock ?_
  intro window hwindow u hu
  refine h u ?_
  rw [← hflat]
  exact List.mem_flatten.2 ⟨window, hwindow, hu⟩

theorem Budget.Treats.charged {counted : List Arrival}
    (hs : (Budget.mk clock limit (some w)).Treats counted) : Charged clock limit w counted := by
  induction counted generalizing w with
  | nil => exact ⟨shed_nil _, nofun, by rw [List.dropWhile_nil, windows]; exact .nil⟩
  | cons a rest ih =>
    cases hs with
    | cons rt hb h hrest =>
      by_cases hlt : a.isBefore w.until_ = true
      · rw [request_inside clock limit (of_decide_eq_true hlt)] at h hrest
        obtain ⟨hshed, hlost⟩ := h.of_left
        exact .of_inside hlt hshed hlost (ih hrest)
      refine .of_later hlt ?_
      have hlate : ¬ a.now < w.until_ := mt decide_eq_true hlt
      cases hclock : clock.tells (a.now + limit.period.nanos) with
      | true =>
        rw [request_opens hlate hclock] at h hrest
        obtain ⟨hshed, hlost⟩ := h.of_left
        exact Charged.weathers hclock hshed hlost (ih hrest)
      | false =>
        rw [request_breaks hlate hclock] at h hrest
        exact weathers_of_lost hclock (List.forall_mem_cons.2 ⟨h.of_broken, hrest.lost⟩)

/-- The window of a fresh budget is over before the first request comes. -/
theorem Budget.Treats.weathers {counted : List Arrival}
    (hs : (Budget.fresh clock limit).Treats counted) :
    Weathers clock limit (windows limit.period counted) := by
  have hall : counted.dropWhile (Arrival.isBefore 0) = counted := by
    cases counted <;> simp [Arrival.isBefore]
  have hlater := hs.charged.later
  rwa [hall] at hlater

/-- As long as the clock can tell the ends of the windows. -/
theorem Weathers.kept {cut : List (List Arrival)} (h : Weathers clock limit cut)
    (hclock : ∀ window ∈ cut, ∀ a ∈ window.head?, clock.tells (a.now + limit.period.nanos) = true) :
    ∀ window ∈ cut, Shed limit.requests.toNat window ∧ ∀ a ∈ window, a.isLost = false := by
  induction h with
  | nil => nofun
  | window _ hshed hlost _ ih =>
    obtain ⟨-, hclocks⟩ := List.forall_mem_cons.1 hclock
    exact List.forall_mem_cons.2 ⟨⟨hshed, hlost⟩, ih hclocks⟩
  | outage hbreaks _ =>
    rw [hclock _ List.mem_cons_self _ rfl] at hbreaks
    cases hbreaks

end

theorem budget_ofService {limit : RateLimit} (he : limit.isEnabled = true) (clock : Clock)
    (s : Service) : (ofService clock (s.withRateLimit limit)).budget = some (.fresh clock limit) := by
  rw [Service.withRateLimit, if_pos he]
  rfl

end TrackResolver.Http
