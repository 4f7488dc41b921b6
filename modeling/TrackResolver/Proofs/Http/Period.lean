import TrackResolver.Proofs.Http.Admission

/-!
# How many requests are admitted in a span of time

A limit is of a number of requests in a period. Of each window that number is admitted; but a span
as long as the period can begin in one window and end in the next, and then it can hold nearly twice
that number.

Results:
* `admitted_le_of_head`: of requests that come from the start of a span on, the number is admitted
  at most.
* `admitted_le`: of any requests, twice the number less one.
* `exists_atBrink`, `AtBrink.admitted`: requests of which as many as that are admitted.
* `admitted_over_period`: so a limit is kept over every span exactly if it is of one request.
-/
namespace TrackResolver.Http

open Router

/-- Whether the request is admitted in the span of this length that begins at `start`. -/
def Arrival.isAdmittedIn (start : Instant) (length : Duration) (a : Arrival) : Bool :=
  !a.isShed && (decide (start ≤ a.now) && a.isBefore (start + length.nanos))

/-- In the order of time. -/
def InTime (arrivals : List Arrival) : Prop := arrivals.Pairwise fun a b => a.now ≤ b.now

instance (arrivals : List Arrival) : Decidable (InTime arrivals) :=
  inferInstanceAs (Decidable (arrivals.Pairwise _))

/-! ## At most -/

section
variable {n : Nat} {period : Duration} {start : Instant} {arrivals : List Arrival}

theorem isAdmittedIn_iff {a : Arrival} : a.isAdmittedIn start period = true ↔
    a.isShed = false ∧ start ≤ a.now ∧ a.now < start + period.nanos := by
  simp [Arrival.isAdmittedIn, Arrival.isBefore]

theorem Shed.admitted_le (h : Shed n arrivals) :
    arrivals.countP (Arrival.isAdmittedIn start period) ≤ n := by
  refine Nat.le_trans (List.countP_mono_left fun a _ ha => ?_) h.countP_le
  rw [(isAdmittedIn_iff.1 ha).1]
  rfl

theorem admitted_eq_zero (h : ∀ a ∈ arrivals, a.now < start ∨ start + period.nanos ≤ a.now) :
    arrivals.countP (Arrival.isAdmittedIn start period) = 0 := by
  rw [List.countP_eq_zero]
  intro a ha hin
  obtain ⟨-, hle, hlt⟩ := isAdmittedIn_iff.1 hin
  rcases h a ha with hbefore | hafter
  · exact Nat.not_le_of_lt hbefore hle
  · exact Nat.not_le_of_lt hlt hafter

/-- What does not come before a moment comes then or later. -/
theorem le_of_mem_dropWhile (h : InTime arrivals) {time : Instant} :
    ∀ a ∈ arrivals.dropWhile (Arrival.isBefore time), time ≤ a.now := by
  induction arrivals with
  | nil => nofun
  | cons first rest ih =>
    obtain ⟨hfirst, hrest⟩ := List.pairwise_cons.1 h
    by_cases hlt : first.isBefore time = true
    · rw [List.dropWhile_cons_of_pos hlt]
      exact ih hrest
    · rw [List.dropWhile_cons_of_neg hlt]
      have hle : time ≤ first.now := Nat.le_of_not_lt (mt decide_eq_true hlt)
      intro a ha
      rcases List.mem_cons.1 ha with rfl | ha
      · exact hle
      · exact Nat.le_trans hle (hfirst a ha)

theorem lt_of_mem_takeWhile {time : Instant} :
    ∀ a ∈ arrivals.takeWhile (Arrival.isBefore time), a.now < time := by
  induction arrivals with
  | nil => nofun
  | cons first rest ih =>
    by_cases hlt : first.isBefore time = true
    · rw [List.takeWhile_cons_of_pos hlt]
      intro a ha
      rcases List.mem_cons.1 ha with rfl | ha
      · exact of_decide_eq_true hlt
      · exact ih a ha
    · rw [List.takeWhile_cons_of_neg hlt]
      nofun

theorem forall_head_windows {p : Arrival → Prop} (h : ∀ a ∈ arrivals, p a) :
    ∀ window ∈ windows period arrivals, ∀ a ∈ window.head?, p a := by
  intro window hwindow a ha
  refine h a ?_
  rw [← flatten_windows period arrivals]
  exact List.mem_flatten.2 ⟨window, hwindow, List.mem_of_mem_head? ha⟩

theorem countP_cut (p inside : Arrival → Bool) (arrivals : List Arrival) : arrivals.countP p =
    (arrivals.takeWhile inside).countP p + (arrivals.dropWhile inside).countP p := by
  rw [← List.countP_append, List.takeWhile_append_dropWhile]

/-- If the first request comes in a span or after it, the span ends before its window does. -/
theorem admitted_le_of_head (h : InTime arrivals)
    (hw : ∀ window ∈ windows period arrivals, Shed n window)
    (hstart : ∀ a ∈ arrivals.head?, start ≤ a.now) :
    arrivals.countP (Arrival.isAdmittedIn start period) ≤ n := by
  fun_cases windows period arrivals with
  | case1 => exact Nat.zero_le n
  | case2 a rest inside =>
    rw [windows] at hw
    have hlater : (rest.dropWhile inside).countP (Arrival.isAdmittedIn start period) = 0 := by
      refine admitted_eq_zero fun u hu => Or.inr ?_
      have hend := le_of_mem_dropWhile (List.pairwise_cons.1 h).2 u hu
      exact Nat.le_trans (Nat.add_le_add_right (hstart a rfl) _) hend
    rw [List.countP_cons, countP_cut _ inside, hlater, Nat.add_zero, ← List.countP_cons]
    exact (hw _ List.mem_cons_self).admitted_le

/-- A span holds the end of one window, without the request that opened it, and one more window. -/
theorem admitted_le (h : InTime arrivals) (hn : 0 < n)
    (hw : ∀ window ∈ windows period arrivals, Shed n window) :
    arrivals.countP (Arrival.isAdmittedIn start period) ≤ 2 * n - 1 := by
  fun_induction windows period arrivals with
  | case1 => exact Nat.zero_le _
  | case2 a rest inside ih =>
    have hrest : InTime rest := (List.pairwise_cons.1 h).2
    have hlater : InTime (rest.dropWhile inside) := hrest.sublist (List.dropWhile_sublist _)
    by_cases ha : start ≤ a.now
    · have hle : (a :: rest).countP (Arrival.isAdmittedIn start period) ≤ n :=
        admitted_le_of_head h (by rw [windows]; exact hw) (by rintro u ⟨⟩; exact ha)
      omega
    have hfirst := (shed_cons.1 (hw _ List.mem_cons_self)).2
    have hnext := fun window hwindow => hw window (List.mem_cons_of_mem _ hwindow)
    have hopener : ¬ Arrival.isAdmittedIn start period a = true :=
      fun hin => ha (isAdmittedIn_iff.1 hin).2.1
    rw [List.countP_cons_of_neg hopener, countP_cut _ inside]
    by_cases hhead : ∀ u ∈ (rest.dropWhile inside).head?, start ≤ u.now
    · have hend : (rest.takeWhile inside).countP (Arrival.isAdmittedIn start period) ≤ n - 1 :=
        hfirst.admitted_le
      have hwhole : (rest.dropWhile inside).countP (Arrival.isAdmittedIn start period) ≤ n :=
        admitted_le_of_head hlater hnext hhead
      omega
    · -- the next window opens before the span begins, so this one is over by then
      have hnone : (rest.takeWhile inside).countP (Arrival.isAdmittedIn start period) = 0 := by
        simp only [not_forall] at hhead
        obtain ⟨u, hu, hlt⟩ := hhead
        refine admitted_eq_zero fun v hv => Or.inl ?_
        have hopens := le_of_mem_dropWhile hrest u (List.mem_of_mem_head? hu)
        exact Nat.lt_trans (Nat.lt_of_lt_of_le (lt_of_mem_takeWhile v hv) hopens) (Nat.lt_of_not_le hlt)
      rw [hnone, Nat.zero_add]
      exact ih hlater hnext

end

/-! ## As many as that -/

/-- Whatever requests are made, they come to the router. -/
theorem exists_receives (requests : List (Instant × Request)) : ∀ rt : Router,
    ∃ arrivals, rt.Receives arrivals ∧ arrivals.map (fun a => (a.now, a.request)) = requests := by
  induction requests with
  | nil => exact fun rt => ⟨[], .nil, rfl⟩
  | cons first rest ih =>
    intro rt
    obtain ⟨arrivals, hs, hmap⟩ := ih ⟨rt.service, rt.budgetAfter first.1 first.2⟩
    exact ⟨⟨first.1, first.2, (rt.handle first.1 first.2).map (·.1)⟩ :: arrivals,
      .cons rt.service rfl hs, by rw [List.map_cons, hmap]⟩

theorem Clock.tells_of_le {clock : Clock} {t u : Instant} (h : clock.tells u = true)
    (hle : t ≤ u) : clock.tells t = true := by
  rw [Clock.tells, decide_eq_true_eq] at h ⊢
  exact Nat.le_trans (Nat.div_le_div_right (Nat.add_le_add_left hle _)) h

theorem period_pos {limit : RateLimit} (h : limit.isEnabled = true) : 1 < limit.period.nanos := by
  rw [RateLimit.isEnabled, Bool.and_eq_true, decide_eq_true_eq, decide_eq_true_eq] at h
  have hpos : 0 < limit.perSeconds.toNat := UInt64.lt_iff_toNat_lt.1 h.2
  show 1 < limit.perSeconds.toNat * 1000000000
  omega

theorem Shed.all_admitted {n : Nat} {window : List Arrival} (h : Shed n window)
    (hlength : window.length ≤ n) : ∀ a ∈ window, a.isShed = false := by
  intro a ha
  exact h.take hlength a (by rwa [List.take_length])

/-- A request for the names of the engines. -/
def enquiry : Request := { method := .get, target := "/api/v1/engines" }

/-- These requests come at `time`, all for the names of the engines. -/
def ComeAt (time : Instant) (arrivals : List Arrival) : Prop :=
  ∀ a ∈ arrivals, a.now = time ∧ a.request = enquiry

/-- A request opens a window, as many come at its last moment as it still admits, and as many at the
first moment behind it as the next one admits. -/
structure AtBrink (limit : RateLimit) (opener : Arrival) (last next : List Arrival) : Prop where
  length_last : last.length = limit.requests.toNat - 1
  length_next : next.length = limit.requests.toNat
  opener : ComeAt 0 [opener]
  last : ComeAt (limit.period.nanos - 1) last
  next : ComeAt limit.period.nanos next

section
variable {limit : RateLimit} {opener : Arrival} {last next : List Arrival}

theorem comeAt_of_map {arrivals : List Arrival} {count : Nat} {time : Instant}
    (h : arrivals.map (fun a => (a.now, a.request)) = List.replicate count (time, enquiry)) :
    arrivals.length = count ∧ ComeAt time arrivals := by
  obtain ⟨hlength, hall⟩ := List.eq_replicate_iff.1 h
  rw [List.length_map] at hlength
  exact ⟨hlength, fun a ha => Prod.mk.inj (hall _ (List.mem_map_of_mem ha))⟩

theorem exists_atBrink (limit : RateLimit) (rt : Router) :
    ∃ opener last next, rt.Receives (opener :: (last ++ next)) ∧ AtBrink limit opener last next := by
  obtain ⟨arrivals, hs, hmap⟩ := exists_receives
    (List.replicate 1 (0, enquiry) ++
      (List.replicate (limit.requests.toNat - 1) (limit.period.nanos - 1, enquiry) ++
        List.replicate limit.requests.toNat (limit.period.nanos, enquiry))) rt
  obtain ⟨first, others, rfl, hfirst, hothers⟩ := List.map_eq_append_iff.1 hmap
  obtain ⟨last, next, rfl, hlast, hnext⟩ := List.map_eq_append_iff.1 hothers
  obtain ⟨hone, hfirst⟩ := comeAt_of_map hfirst
  obtain ⟨hlast, hlasts⟩ := comeAt_of_map hlast
  obtain ⟨hnext, hnexts⟩ := comeAt_of_map hnext
  obtain ⟨opener, rfl⟩ := List.length_eq_one_iff.1 hone
  exact ⟨opener, last, next, hs, hlast, hnext, hfirst, hlasts, hnexts⟩

theorem AtBrink.mem (h : AtBrink limit opener last next) :
    ∀ a ∈ opener :: (last ++ next), a.request = enquiry ∧ a.now ≤ limit.period.nanos := by
  intro a ha
  rcases List.mem_cons.1 ha with rfl | ha
  · obtain ⟨hnow, hrequest⟩ := h.opener a (List.mem_singleton_self a)
    exact ⟨hrequest, hnow ▸ Nat.zero_le _⟩
  · rcases List.mem_append.1 ha with ha | ha
    · exact ⟨(h.last a ha).2, (h.last a ha).1 ▸ Nat.sub_le _ _⟩
    · exact ⟨(h.next a ha).2, (h.next a ha).1 ▸ Nat.le_refl _⟩

theorem AtBrink.isCounted (h : AtBrink limit opener last next) :
    ∀ a ∈ opener :: (last ++ next), a.isCounted = true := by
  intro a ha
  rw [Arrival.isCounted, (h.mem a ha).1]
  decide

theorem AtBrink.inTime (h : AtBrink limit opener last next) : InTime (opener :: (last ++ next)) := by
  have hsame : ∀ {time : Instant} {arrivals : List Arrival}, ComeAt time arrivals → InTime arrivals :=
    fun h => List.pairwise_of_forall_mem_list fun a ha b hb =>
      Nat.le_of_eq ((h a ha).1.trans (h b hb).1.symm)
  refine List.pairwise_cons.2 ⟨fun a _ => ?_, List.pairwise_append.2 ⟨hsame h.last, hsame h.next, ?_⟩⟩
  · rw [(h.opener opener (List.mem_singleton_self _)).1]
    exact Nat.zero_le _
  · intro a ha b hb
    rw [(h.last a ha).1, (h.next b hb).1]
    exact Nat.sub_le _ _

theorem AtBrink.windows_eq (h : AtBrink limit opener last next) (he : limit.isEnabled = true) :
    windows limit.period (opener :: (last ++ next)) = [opener :: last, next] := by
  have hp := period_pos he
  have hend : opener.now + limit.period.nanos = limit.period.nanos := by
    rw [(h.opener opener (List.mem_singleton_self _)).1]
    exact Nat.zero_add _
  rw [windows_cons_append]
  · cases next with
    | nil => exact absurd h.length_next (Nat.ne_of_lt (requests_pos he))
    | cons first rest =>
      have hinside : ∀ a ∈ rest, a.isBefore (first.now + limit.period.nanos) = true := by
        intro a ha
        refine decide_eq_true ?_
        rw [(h.next a (List.mem_cons_of_mem _ ha)).1, (h.next first List.mem_cons_self).1]
        exact Nat.lt_add_of_pos_right (Nat.lt_of_succ_lt hp)
      have hwhole : windows limit.period (first :: (rest ++ [])) = (first :: rest) :: windows _ [] :=
        windows_cons_append rest [] hinside (by simp)
      rw [List.append_nil] at hwhole
      rw [hwhole, windows]
  · intro a ha
    refine decide_eq_true ?_
    rw [hend, (h.last a ha).1]
    exact Nat.sub_lt (Nat.lt_of_succ_lt hp) Nat.one_pos
  · intro a ha
    refine decide_eq_false ?_
    rw [hend, (h.next a (List.mem_of_mem_head? ha)).1]
    exact Nat.lt_irrefl _

theorem AtBrink.admitted (h : AtBrink limit opener last next) (he : limit.isEnabled = true)
    (hw : ∀ window ∈ [opener :: last, next], Shed limit.requests.toNat window) :
    (opener :: (last ++ next)).countP (Arrival.isAdmittedIn (limit.period.nanos - 1) limit.period) =
      2 * limit.requests.toNat - 1 := by
  have hn := requests_pos he
  have hp := period_pos he
  have hlast : ∀ a ∈ last, a.isShed = false := fun a ha =>
    (hw _ List.mem_cons_self).all_admitted
      (by rw [List.length_cons, h.length_last]; omega) a (List.mem_cons_of_mem _ ha)
  have hnext := (hw next (by simp)).all_admitted (Nat.le_of_eq h.length_next)
  have hopener : ¬ opener.isAdmittedIn (limit.period.nanos - 1) limit.period = true := by
    rw [isAdmittedIn_iff, (h.opener opener (List.mem_singleton_self _)).1]
    exact fun hin => Nat.not_le_of_lt (Nat.sub_pos_of_lt hp) hin.2.1
  have hends : ∀ a ∈ last, a.isAdmittedIn (limit.period.nanos - 1) limit.period = true := by
    intro a ha
    rw [isAdmittedIn_iff, (h.last a ha).1]
    exact ⟨hlast a ha, Nat.le_refl _, Nat.lt_add_of_pos_right (Nat.lt_of_succ_lt hp)⟩
  have hbegins : ∀ a ∈ next, a.isAdmittedIn (limit.period.nanos - 1) limit.period = true := by
    intro a ha
    rw [isAdmittedIn_iff, (h.next a ha).1]
    exact ⟨hnext a ha, Nat.sub_le _ _, Nat.lt_add_of_pos_left (Nat.sub_pos_of_lt hp)⟩
  rw [List.countP_cons_of_neg hopener, List.countP_append, List.countP_eq_length.2 hends,
    List.countP_eq_length.2 hbegins, h.length_last, h.length_next]
  omega

end

/-! ## The limit over every span -/

/-- In no span as long as the period of the limit more requests are admitted than it allows, whatever
requests for endpoints below the base are made with GET and POST. -/
def KeptOverSpans (clock : Clock) (limit : RateLimit) : Prop :=
  ∀ (s : Service) (arrivals : List Arrival),
    (ofService clock (s.withRateLimit limit)).Receives arrivals → InTime arrivals →
    (∀ a ∈ arrivals, a.isCounted = true ∧ (a.request.method = .get ∨ a.request.method = .post) ∧
      clock.tells (a.now + limit.period.nanos) = true) →
    ∀ start, arrivals.countP (Arrival.isAdmittedIn start limit.period) ≤ limit.requests.toNat

section
variable {clock : Clock} {limit : RateLimit}

/-- Of requests in the order of time, with windows whose ends are on the clock. -/
theorem Router.Receives.admitted_le (he : limit.isEnabled = true) {s : Service}
    {arrivals : List Arrival} (hs : (ofService clock (s.withRateLimit limit)).Receives arrivals)
    (ht : InTime arrivals) (hc : ∀ a ∈ arrivals, clock.tells (a.now + limit.period.nanos) = true)
    (start : Instant) :
    (arrivals.filter Arrival.isCounted).countP (Arrival.isAdmittedIn start limit.period) ≤
      2 * limit.requests.toNat - 1 := by
  exact Http.admitted_le (ht.filter _) (requests_pos he) (hs.shed_windows he
    (forall_head_windows fun a ha => hc a (List.mem_of_mem_filter ha)))

/-- A limit of more than one request is exceeded at the end of a window. -/
theorem le_one_of_keptOverSpans (he : limit.isEnabled = true)
    (hc : clock.tells (2 * limit.period.nanos) = true) (h : KeptOverSpans clock limit) :
    limit.requests.toNat ≤ 1 := by
  obtain ⟨opener, last, next, hs, hbrink⟩ :=
    exists_atBrink limit
      (ofService clock (Service.withRateLimit ⟨default, ⟨.empty, .empty⟩, {}, none, none⟩ limit))
  have hclock : ∀ a ∈ opener :: (last ++ next), clock.tells (a.now + limit.period.nanos) = true :=
    fun a ha => Clock.tells_of_le hc
      (Nat.two_mul _ ▸ Nat.add_le_add_right (hbrink.mem a ha).2 _)
  have hcounted := List.filter_eq_self.2 hbrink.isCounted
  have hshed := hs.shed_windows he (forall_head_windows (hcounted.symm ▸ hclock))
  rw [hcounted, hbrink.windows_eq he] at hshed
  have hle := h _ _ hs hbrink.inTime
    (fun a ha => ⟨hbrink.isCounted a ha, Or.inl (by rw [(hbrink.mem a ha).1]; rfl), hclock a ha⟩)
    (limit.period.nanos - 1)
  rw [hbrink.admitted he hshed] at hle
  have hn := requests_pos he
  omega

/-- **How far a limit is kept.** In a span as long as the period, wherever it begins, at most twice the
number of the limit less one requests are admitted; and the number itself bounds them in every span
exactly if it is one. -/
theorem admitted_over_period (he : limit.isEnabled = true)
    (hc : clock.tells (2 * limit.period.nanos) = true) :
    (∀ (s : Service) (arrivals : List Arrival),
      (ofService clock (s.withRateLimit limit)).Receives arrivals → InTime arrivals →
      (∀ a ∈ arrivals, clock.tells (a.now + limit.period.nanos) = true) →
      ∀ start, (arrivals.filter Arrival.isCounted).countP
        (Arrival.isAdmittedIn start limit.period) ≤ 2 * limit.requests.toNat - 1) ∧
    (KeptOverSpans clock limit ↔ limit.requests.toNat = 1) := by
  refine ⟨fun s arrivals hs ht hclock start => hs.admitted_le he ht hclock start, ?_, ?_⟩
  · intro h
    exact Nat.le_antisymm (le_one_of_keptOverSpans he hc h) (requests_pos he)
  · intro hone s arrivals hs ht harrivals start
    have hcounted : arrivals.filter Arrival.isCounted = arrivals :=
      List.filter_eq_self.2 fun a ha => (harrivals a ha).1
    have hle := hs.admitted_le he ht (fun a ha => (harrivals a ha).2.2) start
    rw [hone]
    rwa [hcounted, hone] at hle

theorem admitted_over_period_thirty :
    RateLimit.isEnabled ⟨30, 300⟩ = true ∧
    bell.tells (2 * (RateLimit.mk 30 300).period.nanos) = true ∧
    ¬ KeptOverSpans bell ⟨30, 300⟩ := by
  have he : RateLimit.isEnabled ⟨30, 300⟩ = true := by decide
  have hc : bell.tells (2 * (RateLimit.mk 30 300).period.nanos) = true := by decide
  refine ⟨he, hc, fun h => ?_⟩
  exact absurd ((admitted_over_period he hc).2.1 h) (by decide)

/-- The names of the engines are asked for at the beginning and the end of a window of ten seconds, and
twice at the beginning of the next. -/
def revisits : List Arrival :=
  [⟨0, enquiry, some roster⟩, ⟨9000000000, enquiry, some roster⟩,
   ⟨10000000000, enquiry, some roster⟩, ⟨10000000000, enquiry, some roster⟩]

/-- Two requests in ten seconds are allowed, and three are admitted in the ten that begin after nine. -/
theorem not_keptOverSpans : ¬ ∀ (clock : Clock) (limit : RateLimit), limit.isEnabled = true →
    KeptOverSpans clock limit := by
  intro h
  have hs : (ofService bell (gate.withRateLimit ⟨2, 10⟩)).Receives revisits :=
    .cons gate rfl (.cons gate rfl (.cons gate rfl (.cons gate rfl .nil)))
  have hin : InTime revisits := by decide
  have hle := h bell ⟨2, 10⟩ (by decide) gate revisits hs hin (by decide) 9000000000
  exact absurd hle (by decide)

end

end TrackResolver.Http
