import TrackResolver.Proofs.Search.Decision

/-!
# Searching by speed in another order

The order of the request decides between engines that succeed at the same time, and gives the order
of a report. A search by speed depends on it in nothing else.

Results:
* `firstInTime_perm`: the first success in time comes at the same time in any order.
* `getElem?_failuresOf_perm`: the entries of a report are put in another order with the names.
* `search_reordered`: two calls for the same names in different orders.
-/
namespace TrackResolver

open Slot Duration

/-- No two engines succeed at this time. -/
def Untied (slots : List Slot) (time : Duration) : Prop :=
  ∀ s ∈ slots, ∀ u ∈ slots, ∀ f g, s.Wins time f → u.Wins time g → s = u

section
variable {slots other : List Slot} {t : Duration}

/-! ## The winner -/

theorem firstInTime_perm (hp : other.Perm slots) (hn : slots.Nodup) {k : Nat} {f : Found}
    (h : FirstInTime slots k t f) : ∃ j g, FirstInTime other j t g := by
  obtain ⟨s, hk, hw⟩ := h.1
  have hs : s ∈ other := hp.mem_iff.2 (List.mem_of_getElem? hk)
  obtain ⟨j, u, g, hfirst, -⟩ := settle_fastFirst_wins (hp.nodup_iff.2 hn) ⟨s, hs, t, f, hw⟩
  obtain ⟨o, hj, ho⟩ := hfirst.1
  have hut : u = t := le_antisymm (hfirst.le hs hw)
    (h.le (hp.mem_iff.1 (List.mem_of_getElem? hj)) ho)
  exact ⟨j, g, hut ▸ hfirst⟩

theorem Untied.eq (h : Untied slots t) (hp : other.Perm slots) {j k : Nat} {f g : Found}
    (hf : FirstInTime slots k t f) (hg : FirstInTime other j t g) : g = f := by
  obtain ⟨s, hk, hs⟩ := hf.1
  obtain ⟨u, hj, hu⟩ := hg.1
  have hsame := h s (List.mem_of_getElem? hk) u (hp.mem_iff.1 (List.mem_of_getElem? hj)) f g hs hu
  subst hsame
  exact (hu.unique hs).2

theorem settle_fastFirst_pending_perm (hp : other.Perm slots) (hn : slots.Nodup) :
    settle .fastFirst other = .pending ↔ settle .fastFirst slots = .pending := by
  simp only [settle_fastFirst_pending_iff hn, settle_fastFirst_pending_iff (hp.nodup_iff.2 hn),
    hp.mem_iff]

/-! ## The report -/

theorem getElem?_eq_of_engine (hp : other.Perm slots) (hn : (slots.map (·.engine)).Nodup)
    {i j : Nat} (h : (other.map (·.engine))[i]? = (slots.map (·.engine))[j]?) :
    other[i]? = slots[j]? := by
  rw [List.getElem?_map, List.getElem?_map] at h
  cases hi : other[i]? with
  | none =>
    rw [hi, Option.map_none, eq_comm, Option.map_eq_none_iff] at h
    exact h.symm
  | some s =>
    rw [hi, Option.map_some, eq_comm, Option.map_eq_some_iff] at h
    obtain ⟨u, hj, he⟩ := h
    rw [hj, List.inj_on_of_nodup_map hn (List.mem_of_getElem? hj)
      (hp.mem_iff.1 (List.mem_of_getElem? hi)) he]

/-- The entries are in another order, as the names are. -/
theorem getElem?_failuresOf_perm (hp : other.Perm slots) (hn : (slots.map (·.engine)).Nodup)
    (hf : ∀ s ∈ slots, s.Failed) {i j : Nat}
    (h : (other.map (·.engine))[i]? = (slots.map (·.engine))[j]?) :
    (failuresOf other)[i]? = (failuresOf slots)[j]? := by
  rw [getElem?_failuresOf hf, getElem?_failuresOf fun s hs => hf s (hp.mem_iff.1 hs),
    getElem?_eq_of_engine hp hn h]

end

/-! ## The calls -/

/-- **A search by speed depends on the order of the request only between equals.** For the same names
in another order, a call waits for ever exactly if it does for these; it finds something exactly when
it does for these, and the same if no two engines succeed at that time, while of several each call
takes the one that it names first; and it fails at the same time, with the entries of the report in
the order of the names. -/
theorem search_reordered {x : Executor} (hr : x.registry.Reachable) {names other : List String}
    (hp : other.Perm names) {lineup : List Entry} (hl : x.registry.lineup names = .ok lineup)
    (song : Song) {c : Context} (hm : c.mode = .fastFirst) :
    ∃ lineup', x.registry.lineup other = .ok lineup' ∧
      (launch lineup' song c).Perm (launch lineup song c) ∧
      (StaysPending x other song c ↔ StaysPending x names song c) ∧
      (∀ t f, Gives x names song c t (.found f) → ∃ g, Gives x other song c t (.found g) ∧
        (∃ k, FirstInTime (launch lineup song c) k t f) ∧
        (∃ k, FirstInTime (launch lineup' song c) k t g) ∧
        (Untied (launch lineup song c) t → g = f)) ∧
      ∀ t report, Gives x names song c t (.refused (.allFailed report)) →
        ∃ report', Gives x other song c t (.refused (.allFailed report')) ∧
          report.engines = names ∧ report'.engines = other ∧
          report'.failures.Perm report.failures ∧
          ∀ i j : Nat, other[i]? = names[j]? → report'.failures[i]? = report.failures[j]? := by
  obtain ⟨lineup', hl', hperm⟩ :=
    Registry.lineup_perm (Registry.wellFormed_of_reachable hr) hp hl
  have hslots : (launch lineup' song c).Perm (launch lineup song c) := hperm.map _
  have hn := launch_nodup hr hl song c
  refine ⟨lineup', hl', hslots, ?_, ?_, ?_⟩
  · rw [staysPending_iff hl', staysPending_iff hl, hm]
    exact settle_fastFirst_pending_perm hslots hn
  · intro t f hf
    rw [gives_found_iff hl, hm, settle_fastFirst_ok_iff hn] at hf
    obtain ⟨k, hfirst⟩ := hf
    obtain ⟨j, g, hfirst'⟩ := firstInTime_perm hslots hn hfirst
    refine ⟨g, ?_, ⟨k, hfirst⟩, ⟨j, hfirst'⟩, fun huntied => huntied.eq hslots hfirst hfirst'⟩
    rw [gives_found_iff hl', hm, settle_fastFirst_ok_iff (launch_nodup hr hl' song c)]
    exact ⟨j, hfirst'⟩
  · intro t report hfails
    rw [gives_allFailed_iff hl, settle_launch_error_iff hr hl] at hfails
    obtain ⟨hall, ht, rfl⟩ := hfails
    have hall' : ∀ s ∈ launch lineup' song c, s.Failed := fun s hs => hall s (hslots.mem_iff.1 hs)
    have hnames := launch_engines hr hl song c
    have hnames' := launch_engines hr hl' song c
    refine ⟨⟨failuresOf (launch lineup' song c)⟩, ?_, (map_fst_failures hall).trans hnames,
      (map_fst_failures hall').trans hnames', hslots.filterMap _, ?_⟩
    · rw [gives_allFailed_iff hl', settle_launch_error_iff hr hl']
      exact ⟨hall', LastFilled.perm hslots ht, rfl⟩
    · intro i j hij
      rw [← hnames', ← hnames] at hij
      exact getElem?_failuresOf_perm hslots (launch_engines_nodup hr hl song c) hall hij

/-- An engine that never resolves, a late one, one in another's name, and the fastest of all. -/
def heat : Executor := .ofScripts
  [{ id := "stuck", search := .hang },
   { id := "late", after := .ofMillis 20 },
   { id := "fake", after := .ofMillis 1, search := .pose "early" },
   { id := "early", after := .ofMillis 10 }]

theorem search_reordered_heat :
    heat.registry.Reachable ∧
    ["early", "fake", "late", "stuck"].Perm ["stuck", "late", "fake", "early"] ∧
    heat.registry.lineup ["stuck", "late", "fake", "early"] = .ok heat.registry.entries ∧
    Gives heat ["early", "fake", "late", "stuck"] { name := "" } {} (.ofMillis 10)
      (.found { source := "early", identifier := "early-track" }) := by
  have hr : heat.registry.Reachable := Executor.reachable_ofScripts _
  have hp : ["early", "fake", "late", "stuck"].Perm ["stuck", "late", "fake", "early"] := by decide
  have hl : heat.registry.lineup ["stuck", "late", "fake", "early"] = .ok heat.registry.entries := rfl
  have hwins : ∀ j s u g, (launch heat.registry.entries { name := "" } {})[j]? = some s →
      s.Wins u g → Duration.ofMillis 10 ≤ u ∧ (Duration.ofMillis 10 = u → j = 3) := by
    intro j s u g hj hw
    match j, hj with
    | 0, hj => cases hj; cases hw.1
    | 1, hj => cases hj; cases hw.1; exact ⟨by decide, by decide⟩
    | 2, hj => cases hj; cases hw.1; exact absurd hw.2 (by decide)
    | 3, hj => cases hj; cases hw.1; exact ⟨by decide, fun _ => rfl⟩
  refine ⟨hr, hp, hl, ?_⟩
  obtain ⟨_, -, -, -, hfound, -⟩ := search_reordered hr hp hl { name := "" } (c := {}) rfl
  have hfirst : FirstInTime (launch heat.registry.entries { name := "" } {}) 3 (.ofMillis 10)
      { source := "early", identifier := "early-track" } := by
    refine ⟨⟨_, rfl, rfl, rfl⟩, fun j s u g hj hw => ?_⟩
    obtain ⟨hle, heq⟩ := hwins j s u g hj hw
    exact (lt_or_eq_of_le hle).imp_right fun h => ⟨h, Nat.le_of_eq (heq h).symm⟩
  have huntied : Untied (launch heat.registry.entries { name := "" } {}) (.ofMillis 10) := by
    intro s hs u hu f g hf hg
    obtain ⟨i, hi⟩ := List.mem_iff_getElem?.1 hs
    obtain ⟨j, hj⟩ := List.mem_iff_getElem?.1 hu
    rw [(hwins i s _ f hi hf).2 rfl] at hi
    rw [(hwins j u _ g hj hg).2 rfl, hi] at hj
    exact Option.some.inj hj
  obtain ⟨g, hg, -, -, hsame⟩ := hfound (.ofMillis 10) _ ((gives_found_iff hl).2
    ((settle_fastFirst_ok_iff (launch_nodup hr hl _ _)).2 ⟨3, hfirst⟩))
  rw [hsame huntied] at hg
  exact hg

end TrackResolver
