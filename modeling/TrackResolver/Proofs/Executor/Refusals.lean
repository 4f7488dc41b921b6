import TrackResolver.Proofs.Executor.Search

/-!
# The order of refused names

The check of a list of names refuses those that are not registered, and else those that come twice.
Names that are not registered are reported in the order of the request. A name that comes twice is
found out at its second place, so such names are reported in the order of their second places; and
that is the order of the request only if none of them `Encloses` another.

Results:
* `listedBy_of_pairwise`: a list in a strict order of places is `ListedBy` them.
* `listedBy_congr`: when a list that is in the order of some places is in that of others.
* `refused_order`: the order in which a search reports the names that it refuses.
-/
namespace TrackResolver

/-- One name stands before another in `wrong` exactly if its place comes first. -/
def ListedBy (place : String → Nat) (wrong : List String) : Prop :=
  ∀ a ∈ wrong, ∀ b ∈ wrong, wrong.idxOf a < wrong.idxOf b ↔ place a < place b

/-- `b` comes twice between the first two places of `a`. -/
def Encloses (names : List String) (a b : String) : Prop :=
  names.idxOf a < names.idxOf b ∧ names.idxOfNth b 1 < names.idxOfNth a 1

section
variable {wrong : List String} {place other : String → Nat}

/-- Places tell names apart, so it is enough that what stands before also comes first. -/
theorem listedBy_of_lt
    (h : ∀ a ∈ wrong, ∀ b ∈ wrong, wrong.idxOf a < wrong.idxOf b → place a < place b) :
    ListedBy place wrong := by
  intro a ha b hb
  refine ⟨h a ha b hb, fun hplace => ?_⟩
  rcases Nat.lt_trichotomy (wrong.idxOf a) (wrong.idxOf b) with hab | hab | hab
  · exact hab
  · rw [(List.idxOf_inj ha).1 hab] at hplace
    exact absurd hplace (Nat.lt_irrefl _)
  · exact absurd (h b hb a ha hab) (Nat.lt_asymm hplace)

theorem listedBy_of_pairwise (h : wrong.Pairwise fun a b => place a < place b) :
    ListedBy place wrong := by
  refine listedBy_of_lt fun a ha b hb hab => ?_
  have hplace := List.pairwise_iff_getElem.1 h _ _ (List.idxOf_lt_length_iff.2 ha)
    (List.idxOf_lt_length_iff.2 hb) hab
  rwa [List.getElem_idxOf, List.getElem_idxOf] at hplace

/-- Names in the order of some places are in that of others, if no two of them stand the other way
round there. -/
theorem listedBy_congr (h : ListedBy place wrong)
    (hinj : ∀ a ∈ wrong, ∀ b ∈ wrong, other a = other b → a = b) :
    ListedBy other wrong ↔ ∀ a ∈ wrong, ∀ b ∈ wrong, ¬ (other a < other b ∧ place b < place a) := by
  constructor
  · rintro ho a ha b hb ⟨hab, hba⟩
    exact Nat.lt_asymm ((ho a ha b hb).2 hab) ((h b hb a ha).2 hba)
  · intro hno
    refine listedBy_of_lt fun a ha b hb hab => ?_
    rcases Nat.lt_trichotomy (other a) (other b) with ho | ho | ho
    · exact ho
    · rw [hinj a ha b hb ho] at hab
      exact absurd hab (Nat.lt_irrefl _)
    · exact absurd ⟨ho, (h a ha b hb).1 hab⟩ (hno b hb a ha)

end

/-! ## The check of the names -/

/-- Names that come twice are reported in the order of the request exactly if none of them encloses
another. -/
theorem listedBy_repeated_iff (names : List String) :
    ListedBy names.idxOf (Registry.repeated names) ↔
      ∀ a ∈ Registry.repeated names, ∀ b ∈ Registry.repeated names, ¬ Encloses names a b := by
  refine listedBy_congr (listedBy_of_pairwise (Registry.pairwise_repeated names)) ?_
  intro a ha b _ he
  have hmem : a ∈ names := List.count_pos_iff.1 (Nat.zero_lt_of_lt (Registry.mem_repeated.1 ha))
  exact (List.idxOf_inj hmem).1 he

section
variable {x : Executor} {names wrong : List String} {why : Refusal} {song : Song} {c : Context}
  {patience : Option Duration} {call : Call SearchAnswer}

/-- Only the check refuses names. -/
theorem lineup_of_unknown (hs : x.search names song c patience = some call)
    (hw : call.answer = .refused (.unknownEngines wrong why)) :
    x.registry.lineup names = .error (.unknownEngines wrong why) := by
  cases hl : x.registry.lineup names with
  | error cause =>
    rw [Executor.search, hl, Option.some.injEq] at hs
    subst hs
    cases hw
    rfl
  | ok lineup =>
    rcases search_cases hl hs with ⟨result, -, -, ha⟩ | ⟨p, -, -, ha⟩
    · rw [ha] at hw
      cases result <;> cases hw
    · rw [ha] at hw
      cases hw

/-- **Refused names and the order of the request.** Names that are not registered are reported in the
order of their first places. Names that come twice are reported in the order of their second places,
which is that of the first ones exactly if none of them encloses another. -/
theorem refused_order (hs : x.search names song c patience = some call)
    (hw : call.answer = .refused (.unknownEngines wrong why)) :
    (why = .notRegistered → ListedBy names.idxOf wrong) ∧
    (why = .duplicated → ListedBy (names.idxOfNth · 1) wrong ∧
      (ListedBy names.idxOf wrong ↔ ∀ a ∈ wrong, ∀ b ∈ wrong, ¬ Encloses names a b)) := by
  rcases Registry.eq_of_lineup_unknown (lineup_of_unknown hs hw) with ⟨rfl, rfl⟩ | ⟨rfl, rfl⟩
  · exact ⟨fun _ => listedBy_of_pairwise (Registry.pairwise_missing _ names), nofun⟩
  · exact ⟨nofun, fun _ => ⟨listedBy_of_pairwise (Registry.pairwise_repeated names),
      listedBy_repeated_iff names⟩⟩

end

/-- Three engines that succeed at once. -/
def trio : Executor := .ofScripts [{ id := "a" }, { id := "b" }, { id := "c" }]

/-- The names `a` and `c` overlap, and `b` comes twice between the places of `a`. -/
theorem refused_order_trio :
    ∃ call, trio.search ["a", "b", "c", "b", "a", "c"] { name := "" } {} none = some call ∧
      call.answer = .refused (.unknownEngines ["b", "a", "c"] .duplicated) ∧
      ListedBy (["a", "b", "c", "b", "a", "c"].idxOfNth · 1) ["b", "a", "c"] ∧
      ¬ ListedBy ["a", "b", "c", "b", "a", "c"].idxOf ["b", "a", "c"] := by
  obtain ⟨call, hs⟩ : ∃ call, trio.search ["a", "b", "c", "b", "a", "c"] { name := "" } {} none =
    some call := ⟨_, rfl⟩
  have hw : call.answer = .refused (.unknownEngines ["b", "a", "c"] .duplicated) := by cases hs; rfl
  obtain ⟨hsecond, hfirst⟩ := (refused_order hs hw).2 rfl
  refine ⟨call, hs, hw, hsecond, fun hlisted => ?_⟩
  exact hfirst.1 hlisted "a" (by decide) "b" (by decide) (by unfold Encloses; decide)

/-- Not every search reports the names that it refuses in the order of the request. -/
theorem not_listed_as_requested :
    ¬ ∀ (x : Executor) (names wrong : List String) (why : Refusal) (song : Song) (c : Context)
        (patience : Option Duration) (call : Call SearchAnswer), x.registry.Reachable →
      x.search names song c patience = some call →
      call.answer = .refused (.unknownEngines wrong why) → ListedBy names.idxOf wrong := by
  intro h
  have hlisted := h trio ["a", "b", "b", "a"] ["b", "a"] .duplicated { name := "" } {} none
    ⟨.refused (.unknownEngines ["b", "a"] .duplicated), .zero, trio⟩
    (Executor.reachable_ofScripts _) rfl rfl
  exact absurd ((hlisted "b" (by decide) "a" (by decide)).1 (by decide)) (by decide)

end TrackResolver
