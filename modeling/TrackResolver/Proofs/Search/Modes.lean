import Mathlib.Data.List.Forall2
import TrackResolver.Proofs.Search.Decision

/-!
# The two policies side by side

The same engines are searched by order and by speed. They may see the policy and say so in what they
answer, but whether they succeed, and when, is `Alike`. Then the search by speed is never the slower
one, and never the one that fails or waits where the other does not.

Results:
* `settle_fastFirst_of_orderFirst`: a result by order comes no earlier than one by speed.
* `settle_orderFirst_of_fastFirst`: where there is a result by speed, a search by order does not fail.
* `settle_orderFirst_pending`: a search by order waits for ever if the one by speed does.
* `settle_orderFirst_at`: both come to the same engine at one time, if it is the first in either
  order.
* `search_modes`: the four of them, for whole calls.
-/
namespace TrackResolver

open Slot Duration

/-- The slot comes to the same: it is filled at one time, or never, and with a success or not. -/
structure Slot.Alike (s u : Slot) : Prop where
  engine : s.engine = u.engine
  time? : s.run.time? = u.run.time?
  succeeds : s.Succeeds ↔ u.Succeeds

/-- The context under this policy. -/
def Context.under (c : Context) (mode : SearchMode) : Context := { c with mode }

/-! ## Slots that are alike -/

theorem Slot.hangs_iff {s : Slot} : s.Hangs ↔ s.run.time? = none := by
  rw [Hangs]
  cases s.run <;> simp [Run.time?]

namespace Slot.Alike

variable {s u : Slot}

theorem refl (s : Slot) : s.Alike s := ⟨rfl, rfl, .rfl⟩

theorem symm (h : s.Alike u) : u.Alike s := ⟨h.engine.symm, h.time?.symm, h.succeeds.symm⟩

theorem hangs (h : s.Alike u) : s.Hangs ↔ u.Hangs := by rw [hangs_iff, hangs_iff, h.time?]

/-- What wins under one policy wins at the same time under the other. -/
theorem exists_wins (h : s.Alike u) {t : Duration} {f : Found} (hw : s.Wins t f) :
    ∃ g, u.Wins t g ∧ g.source = f.source := by
  obtain ⟨v, g, hg⟩ := h.succeeds.1 ⟨t, f, hw⟩
  have ht := h.time?
  rw [hw.time?, hg.time?, Option.some.injEq] at ht
  exact ⟨g, ht ▸ hg, by rw [hg.2, hw.2, h.engine]⟩

end Slot.Alike

section
variable {slots others : List Slot}

theorem exists_alike_getElem? (h : List.Forall₂ Slot.Alike slots others) {k : Nat} {s : Slot}
    (hk : slots[k]? = some s) : ∃ u, others[k]? = some u ∧ s.Alike u := by
  induction h generalizing k with
  | nil => cases hk
  | @cons a b _ _ hab _ ih =>
    cases k with
    | zero => cases hk; exact ⟨b, rfl, hab⟩
    | succ k => exact ih hk

theorem exists_alike_mem (h : List.Forall₂ Slot.Alike slots others) {s : Slot} (hs : s ∈ slots) :
    ∃ u ∈ others, s.Alike u := by
  obtain ⟨k, hk⟩ := List.mem_iff_getElem?.1 hs
  obtain ⟨u, hu, halike⟩ := exists_alike_getElem? h hk
  exact ⟨u, List.mem_of_getElem? hu, halike⟩

theorem alike_symm (h : List.Forall₂ Slot.Alike slots others) :
    List.Forall₂ Slot.Alike others slots :=
  (h.imp fun _ _ hab => hab.symm).flip

/-! ## Settling by either policy -/

/-- Some engine has won by the time at which a search by order has a result. -/
theorem settle_fastFirst_of_orderFirst (h : List.Forall₂ Slot.Alike slots others)
    (hn : others.Nodup) {t : Duration} {f : Found}
    (hs : settle .orderFirst slots = .settled t (.ok f)) :
    ∃ u g, settle .fastFirst others = .settled u (.ok g) ∧ u ≤ t := by
  obtain ⟨s, hmem, v, hv, hw⟩ := exists_wins_of_settle hs
  obtain ⟨o, ho, halike⟩ := exists_alike_mem h hmem
  obtain ⟨g, hg, -⟩ := halike.exists_wins hw
  obtain ⟨k, u, g', hfirst, hsettle⟩ := settle_fastFirst_wins hn ⟨o, ho, v, g, hg⟩
  exact ⟨u, g', hsettle, le_trans (hfirst.le ho hg) hv⟩

/-- A search by order that ends after all ends with a result, if the one by speed does. -/
theorem settle_orderFirst_of_fastFirst (h : List.Forall₂ Slot.Alike slots others)
    (hn : (slots.map (·.engine)).Nodup) (hne : slots ≠ []) {t u : Duration} {g : Found}
    {result : Except FailureReport Found} (hs : settle .fastFirst others = .settled u (.ok g))
    (ho : settle .orderFirst slots = .settled t result) : ∃ f, result = .ok f := by
  cases result with
  | ok f => exact ⟨f, rfl⟩
  | error report =>
    obtain ⟨o, hmem, v, -, hw⟩ := exists_wins_of_settle hs
    obtain ⟨s, hmem, halike⟩ := exists_alike_mem (alike_symm h) hmem
    obtain ⟨hall, -⟩ := (settle_eq_error_iff hn hne).1 ho
    exact absurd (halike.succeeds.1 ⟨v, g, hw⟩) (hall s hmem).not_succeeds

/-- A search by speed waits for ever only if no engine succeeds and some engine never resolves. -/
theorem settle_orderFirst_pending (h : List.Forall₂ Slot.Alike slots others)
    (hn : (others.map (·.engine)).Nodup) (hne : others ≠ [])
    (hs : settle .fastFirst others = .pending) : settle .orderFirst slots = .pending := by
  have hnodup : others.Nodup := List.Nodup.of_map _ hn
  have hlost : ∀ s ∈ slots, ¬ s.Succeeds := by
    intro s hmem hw
    obtain ⟨o, ho, halike⟩ := exists_alike_mem h hmem
    obtain ⟨k, t, f, -, hsettle⟩ := settle_fastFirst_wins hnodup ⟨o, ho, halike.succeeds.1 hw⟩
    rw [hs] at hsettle
    cases hsettle
  rcases exists_decisive slots with hall | ⟨passed, s, rest, rfl, hp, hd⟩
  · -- if all failed, the search by speed would have said so
    have hall : ∀ o ∈ others, o.Failed := by
      intro o ho
      obtain ⟨s, hmem, halike⟩ := exists_alike_mem (alike_symm h) ho
      rcases o.hangs_or_wins_or_fails with hh | hw | hf
      · exact absurd (halike.hangs.1 hh) (hall s hmem).not_hangs
      · exact absurd (halike.succeeds.1 hw) (hlost s hmem)
      · exact hf
    obtain ⟨t, ht⟩ := exists_lastFilled hne hall
    have hsettle : settle .fastFirst others = _ :=
      (settle_eq_error_iff hn hne).2 ⟨hall, ht, rfl⟩
    rw [hs] at hsettle
    cases hsettle
  · have hh : s.Hangs := hd.resolve_right (hlost s (by simp))
    exact settle_of_pending (settleInOrder_hangs hp hh rest)

/-- The first success in time, if all positions before it have failed by then. -/
theorem settle_orderFirst_at (h : List.Forall₂ Slot.Alike slots others) {k : Nat} {t : Duration}
    {g : Found} (hfirst : FirstInTime others k t g)
    (hbefore : ∀ o ∈ others.take k, ∃ u ≤ t, ∃ e, o.Fails u e) :
    ∃ s f, slots[k]? = some s ∧ s.Wins t f ∧ f.source = g.source ∧
      settle .orderFirst slots = .settled t (.ok f) := by
  obtain ⟨⟨o, hk, hw⟩, -⟩ := hfirst
  obtain ⟨s, hs, halike⟩ := exists_alike_getElem? (alike_symm h) hk
  obtain ⟨f, hf, hsource⟩ := halike.exists_wins hw
  have hfailed : ∀ v ∈ slots.take k, ¬ v.Succeeds ∧ ∃ u ≤ t, v.run.time? = some u := by
    intro v hv
    obtain ⟨o, ho, halike⟩ := exists_alike_mem (List.forall₂_take k h) hv
    obtain ⟨u, hu, e, he⟩ := hbefore o ho
    refine ⟨fun hw => Failed.not_succeeds ⟨u, e, he⟩ (halike.succeeds.1 hw), u, hu, ?_⟩
    rw [halike.time?, he.time?]
  have hcommits : Commits .orderFirst slots t f := by
    refine ⟨k, ⟨⟨s, t, hs, hf⟩, fun v hv => (hfailed v hv).1⟩, ?_, ?_⟩
    · intro v hv hh
      obtain ⟨-, u, -, hu⟩ := hfailed v hv
      rw [hh.time?] at hu
      cases hu
    · rw [take_succ_of_getElem? hs]
      refine ⟨⟨s, by simp, hf.time?⟩, ?_⟩
      rintro w ⟨v, hv, hw⟩
      rcases List.mem_append.1 hv with hv | hv
      · obtain ⟨-, u, hu, hvu⟩ := hfailed v hv
        rw [hvu, Option.some.injEq] at hw
        exact hw ▸ hu
      · rw [List.mem_singleton.1 hv, hf.time?, Option.some.injEq] at hw
        exact le_of_eq hw.symm
  exact ⟨s, f, hs, hf, hsource, settle_orderFirst_ok_iff.2 hcommits⟩

end

/-! ## The calls -/

/-- **Order is never faster than speed, and never luckier.** Of two calls that differ in the policy
only, with engines that are alike under both: a result by order comes with one by speed that is not
later; if there is a result by speed, a call by order that ends has one as well; a call by order goes
on for ever if that by speed does; and if the first engine in time is also the first in order, those
before it having failed by then, both give what it finds, at the same time. -/
theorem search_modes {x : Executor} {names : List String} {lineup : List Entry} {song : Song}
    {c : Context} (hr : x.registry.Reachable) (hl : x.registry.lineup names = .ok lineup)
    (h : List.Forall₂ Slot.Alike (launch lineup song (c.under .orderFirst))
      (launch lineup song (c.under .fastFirst))) :
    (∀ patience call f, x.search names song (c.under .orderFirst) patience = some call →
      call.answer = .found f →
      ∃ call' g, x.search names song (c.under .fastFirst) patience = some call' ∧
        call'.answer = .found g ∧ call'.elapsed ≤ call.elapsed) ∧
    (∀ p q call call' g, x.search names song (c.under .fastFirst) p = some call' →
      call'.answer = .found g → x.search names song (c.under .orderFirst) q = some call →
      call.answer ≠ .abandoned → ∃ f, call.answer = .found f) ∧
    (StaysPending x names song (c.under .fastFirst) →
      StaysPending x names song (c.under .orderFirst)) ∧
    (∀ k t g, FirstInTime (launch lineup song (c.under .fastFirst)) k t g →
      (∀ s ∈ (launch lineup song (c.under .fastFirst)).take k, ∃ u ≤ t, ∃ e, s.Fails u e) →
      ∀ patience, Awaits patience t → ∃ call call' f,
        x.search names song (c.under .orderFirst) patience = some call ∧
        x.search names song (c.under .fastFirst) patience = some call' ∧
        call.answer = .found f ∧ call'.answer = .found g ∧
        call.elapsed = t ∧ call'.elapsed = t ∧ f.source = g.source ∧
        ((launch lineup song (c.under .orderFirst))[k]? =
          (launch lineup song (c.under .fastFirst))[k]? → f = g)) := by
  have hn := launch_nodup hr hl song (c.under .fastFirst)
  refine ⟨?_, ?_, ?_, ?_⟩
  · intro patience call f hcall hf
    obtain ⟨hs, hp⟩ := settle_of_found hl hcall hf
    obtain ⟨u, g, hs', hle⟩ := settle_fastFirst_of_orderFirst h hn hs
    have hp' : Awaits patience u := fun p hmem => lt_of_le_of_lt hle (hp p hmem)
    exact ⟨_, g, search_settled (c := c.under .fastFirst) hl hs' hp', rfl, hle⟩
  · intro p q call call' g hcall' hg hcall hends
    have hs' := (settle_of_found hl hcall' hg).1
    rcases search_cases hl hcall with ⟨result, hs, -, ha⟩ | ⟨r, -, -, ha⟩
    · obtain ⟨f, rfl⟩ := settle_orderFirst_of_fastFirst h
        (launch_engines_nodup hr hl song _) (launch_ne_nil hr hl song _) hs' hs
      exact ⟨f, ha⟩
    · exact absurd ha hends
  · intro hpending
    have hs' := settle_of_staysPending hl hpending
    exact staysPending_of_settle hl (settle_orderFirst_pending h
      (launch_engines_nodup hr hl song _) (launch_ne_nil hr hl song _) hs')
  · intro k t g hfirst hbefore patience hp
    obtain ⟨s, f, hk, hw, hsource, hs⟩ := settle_orderFirst_at h hfirst hbefore
    have hs' := (settle_fastFirst_ok_iff hn).2 ⟨k, hfirst⟩
    refine ⟨_, _, f, search_settled (c := c.under .orderFirst) hl hs hp,
      search_settled (c := c.under .fastFirst) hl hs' hp, rfl, rfl, rfl, rfl, hsource, ?_⟩
    intro hsame
    obtain ⟨⟨o, ho, hwo⟩, -⟩ := hfirst
    rw [hk, ho, Option.some.injEq] at hsame
    subst hsame
    exact (hw.unique hwo).2

/-- An engine that finds nothing, one that succeeds, and a slow one that tells what it sees. -/
def relay : Executor := .ofScripts
  [{ id := "mute", after := .ofMillis 3, search := .fail .noMatch },
   { id := "plain", after := .ofMillis 5 },
   { id := "mirror", after := .ofMillis 20, search := .describe }]

theorem search_modes_relay :
    relay.registry.Reachable ∧
    relay.registry.lineup ["mute", "plain", "mirror"] = .ok relay.registry.entries ∧
    List.Forall₂ Slot.Alike
      (launch relay.registry.entries { name := "" } (({} : Context).under .orderFirst))
      (launch relay.registry.entries { name := "" } (({} : Context).under .fastFirst)) ∧
    ∃ call call', relay.search ["mute", "plain", "mirror"] { name := "" }
        (({} : Context).under .orderFirst) none = some call ∧
      relay.search ["mute", "plain", "mirror"] { name := "" }
        (({} : Context).under .fastFirst) none = some call' ∧
      call.answer = .found { source := "plain", identifier := "plain-track" } ∧
      call'.answer = .found { source := "plain", identifier := "plain-track" } ∧
      call.elapsed = .ofMillis 5 ∧ call'.elapsed = .ofMillis 5 := by
  have hr : relay.registry.Reachable := Executor.reachable_ofScripts _
  have hl : relay.registry.lineup ["mute", "plain", "mirror"] = .ok relay.registry.entries := rfl
  have h : List.Forall₂ Slot.Alike
      (launch relay.registry.entries { name := "" } (({} : Context).under .orderFirst))
      (launch relay.registry.entries { name := "" } (({} : Context).under .fastFirst)) := by
    refine .cons (.refl _) (.cons (.refl _) (.cons ⟨rfl, rfl, ?_⟩ .nil))
    -- the mirror succeeds with what it is shown, and that is not the same
    exact iff_of_true ⟨_, _, rfl, rfl⟩ ⟨_, _, rfl, rfl⟩
  refine ⟨hr, hl, h, ?_⟩
  obtain ⟨-, -, -, hsame⟩ := search_modes hr hl h
  have hfirst : FirstInTime
      (launch relay.registry.entries { name := "" } (({} : Context).under .fastFirst)) 1
      (.ofMillis 5) { source := "plain", identifier := "plain-track" } := by
    refine ⟨⟨_, rfl, rfl, rfl⟩, ?_⟩
    intro j s u g hj hw
    match j, hj with
    | 0, hj => cases hj; cases hw.1
    | 1, hj => cases hj; cases hw.1; exact Or.inr ⟨rfl, by decide⟩
    | 2, hj => cases hj; cases hw.1; exact Or.inl (by decide)
  obtain ⟨call, call', f, hcall, hcall', hf, hg, ht, ht', -, heq⟩ := hsame 1 _ _ hfirst
    (by
      intro s hs
      rw [List.mem_singleton.1 hs]
      exact ⟨.ofMillis 3, by decide, .noMatch, .own rfl⟩)
    none (awaits_none _)
  obtain rfl := heq rfl
  exact ⟨call, call', hcall, hcall', hf, hg, ht, ht'⟩

end TrackResolver
