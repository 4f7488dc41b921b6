import TrackResolver.Proofs.Context
import TrackResolver.Proofs.Json.Forms

/-!
# The two readings of a context

The same object is read as a whole context, or as overrides to be laid on one. Laid on a context with
nothing set, the overrides are what the whole context would have been. The one difference is that
overrides take a `null` for two members that have to be something in a whole context; it stands for
what they are when left out.

Results:
* `Known.Matches`, `readRecord_matches`: a document that one record is read from is read as another.
* `exists_overrides`, `readContext_of_overrides`: each reading from the other.
* `NullIn`, `Replaces`: where a text gives `null`, and the text with something else there.
* `context_readings_agree`: the two readings of a text.
-/
namespace TrackResolver

namespace Json

open Reading

/-! ## Two records with the same members -/

section
variable {τ σ : Type} {P : String → Node → Prop} {R : τ → σ → Prop}

/-- Two members of one name. What the first can read, where `P` allows it, the second can read as well,
and records that are related by `R` still are when both have put in what they read. -/
structure Known.Matches (P : String → Node → Prop) (R : τ → σ → Prop) (k : Known τ) (l : Known σ) :
    Prop where
  name : l.name = k.name
  required : l.required = k.required
  reads : ∀ n a, P k.name n → k.read n = .ok a →
    ∃ b, l.read n = .ok b ∧ ∀ x y, R x y → R (k.put a x) (l.put b y)

variable {known : List (Known τ)} {other : List (Known σ)}

theorem names_of_matches (h : List.Forall₂ (Known.Matches P R) known other) :
    other.map Known.name = known.map Known.name := by
  induction h with
  | nil => rfl
  | cons hkl _ ih => rw [List.map_cons, List.map_cons, hkl.name, ih]

/-- What members do to the one record they do to the other. -/
theorem exists_changes (h : List.Forall₂ (Known.Matches P R) known other)
    {members : List (Node × Node)} {es : List (Option (Change τ))}
    (hes : List.Forall₂ (Does known) members es)
    (hP : ∀ m ∈ members, ∀ name, readName m.1 = .ok name → P name m.2) :
    ∃ us, List.Forall₂ (Does other) members us ∧
      us.reduceOption.map (·.1) = es.reduceOption.map (·.1) ∧
      ∀ x y, R x y → R (changed es.reduceOption x) (changed us.reduceOption y) := by
  induction hes with
  | nil => exact ⟨[], .nil, rfl, fun _ _ hxy => hxy⟩
  | @cons m e members es hdoes _ ih =>
    obtain ⟨hm, hmembers⟩ := List.forall_mem_cons.1 hP
    obtain ⟨us, hus, hnames, hrelated⟩ := ih hmembers
    cases hdoes with
    | passes hname hno hskip =>
      exact ⟨none :: us, .cons (.passes hname (names_of_matches h ▸ hno) hskip) hus, hnames, hrelated⟩
    | @puts k a hk hname ha =>
      obtain ⟨l, hl, hkl⟩ := forall₂_exists_right h hk
      obtain ⟨b, hb, hput⟩ := hkl.reads m.2 a (hm _ hname) ha
      refine ⟨some (l.name, l.put b) :: us, .cons (.puts hl (hkl.name ▸ hname) hb) hus, ?_, ?_⟩
      · simp only [List.reduceOption_cons_of_some, List.map_cons, hkl.name, hnames]
      · exact fun x y hxy => hrelated _ _ (hput x y hxy)

/-- A document that is read as one record is read as the other, if `P` allows what it gives. -/
theorem readRecord_matches {r : Record Node τ} {s : Record Node σ} (hr : Knows r known)
    (hs : Knows s other) (h : List.Forall₂ (Known.Matches P R) known other)
    (hblank : R r.blank s.blank) {n : Node} {a : τ} (hread : readRecord r n = .ok a)
    (hP : ∀ name v, n.Gives (known.map Known.name) name v → P name v) :
    ∃ b, readRecord s n = .ok b ∧ R a b := by
  obtain ⟨hfits, hobject⟩ := hr.readRecord_iff_given.1 hread
  obtain ⟨es, hes, hnodup, hrequired, rfl⟩ := hr.readRecord_object_iff.1 hobject
  obtain ⟨us, hus, hnames, hrelated⟩ :=
    exists_changes h hes fun m hm name hname => hP name m.2 ⟨m, hm, hname, rfl⟩
  refine ⟨_, hs.readRecord_iff_given.2 ⟨h.length_eq ▸ hfits, ?_⟩, hrelated _ _ hblank⟩
  rw [names_of_matches h]
  refine hs.readRecord_object_iff.2 ⟨us, hus, hnames ▸ hnodup, fun l hl hl' => ?_, rfl⟩
  obtain ⟨k, hk, hkl⟩ := forall₂_exists_left h hl
  rw [hnames, hkl.name]
  exact hrequired k hk (hkl.required ▸ hl')

end

/-! ## Optional values -/

section
variable {α τ σ : Type} {P : String → Node → Prop} {R : τ → σ → Prop} {form : Form α}

theorem exists_of_readOption {read : Reader α} {n : Node} {a : Option α}
    (h : readOption read n = .ok a) (hn : n ≠ .null) : ∃ b, read n = .ok b ∧ a = some b := by
  unfold readOption at h
  split at h
  · exact absurd rfl hn
  · cases h
  · obtain ⟨b, hb, rfl⟩ := map_eq_ok_iff.1 h
    exact ⟨b, hb, rfl⟩

theorem readOption_some {read : Reader α} (hnull : ∀ a, read .null ≠ .ok a)
    (hbroken : ∀ s a, read (.brokenWord true s) ≠ .ok a) {n : Node} {a : α} (h : read n = .ok a) :
    readOption read n = .ok (some a) := by
  unfold readOption
  split
  · exact absurd h (hnull a)
  · exact absurd h (hbroken _ a)
  · rw [h]
    rfl

/-- A member that is read alike on both sides. -/
theorem matches_same {name : String} {required : Bool} {put : α → τ → τ} {put' : α → σ → σ}
    (hput : ∀ a x y, R x y → R (put a x) (put' a y)) :
    Known.Matches P R (form.known name required put) (form.known name required put') :=
  ⟨rfl, rfl, fun _ a _ ha => ⟨a, ha, hput a⟩⟩

/-- A member that is optional on the second side. -/
theorem matches_option {name : String} {required : Bool} {put : α → τ → τ} {put' : Option α → σ → σ}
    (hnull : ∀ a, form.read .null ≠ .ok a) (hbroken : ∀ s a, form.read (.brokenWord true s) ≠ .ok a)
    (hput : ∀ a x y, R x y → R (put a x) (put' (some a) y)) :
    Known.Matches P R (form.known name required put) (form.option.known name required put') :=
  ⟨rfl, rfl, fun _ a _ ha => ⟨some a, readOption_some hnull hbroken ha, hput a⟩⟩

/-- A member that is optional on the first side, and not `null`. -/
theorem matches_of_option {name : String} {required : Bool} {put : Option α → τ → τ}
    {put' : α → σ → σ} (hP : ∀ n, P name n → n ≠ .null)
    (hput : ∀ a x y, R x y → R (put (some a) x) (put' a y)) :
    Known.Matches P R (form.option.known name required put) (form.known name required put') := by
  refine ⟨rfl, rfl, fun n a hn ha => ?_⟩
  obtain ⟨b, hb, rfl⟩ := exists_of_readOption ha (hP n hn)
  exact ⟨b, hb, hput b⟩

end

end Json

open Json

/-! ## Contexts -/

theorem Merges.onto_empty (d : Dict Settings) : Merges .empty d d where
  setting _ _ := Option.or_none.symm
  table _ := (Bool.or_false _).symm

/-- Overrides laid on a context with nothing set. -/
theorem Overrides.layerOn_default (o : Overrides) :
    o.layerOn {} = ⟨o.proxy, o.flac.getD false, o.mode.getD .fastFirst, o.settings⟩ :=
  Overrides.layerOn_eq_iff.2 ⟨Option.or_none.symm, rfl, rfl, .onto_empty _⟩

/-- What is read as a context is read as overrides that make it. -/
theorem exists_overrides {n : Node} {c : Context} (h : Context.read n = .ok c) :
    ∃ o, Overrides.read n = .ok o ∧ o.layerOn {} = c := by
  have hmatch : List.Forall₂ (Known.Matches (fun _ _ => True) fun c o => Overrides.layerOn o {} = c)
      Context.known Overrides.known := by
    refine .cons (matches_same ?_) <| .cons (matches_option nofun nofun ?_) <|
      .cons (matches_option nofun nofun ?_) <| .cons (matches_same ?_) .nil
    all_goals
      rintro a _ o rfl
      simp only [Overrides.layerOn_default, Option.getD_some]
  exact readRecord_matches Context.specified.toKnows Overrides.specified.toKnows hmatch rfl h
    fun _ _ _ => trivial

/-- The names of the members, in their order. -/
def Overrides.names : List String := Overrides.record.fields.map (·.name)

/-- The members that may be `null` in overrides only. -/
def nullable : List String := ["enable_flac", "search_mode"]

/-- What is read as overrides is read as the context that they make, if it does not give `null` where
a context needs something. -/
theorem readContext_of_overrides {n : Node} {o : Overrides} (h : Overrides.read n = .ok o)
    (hnulls : ∀ name ∈ nullable, ¬ n.Gives Overrides.names name .null) :
    Context.read n = .ok (o.layerOn {}) := by
  have hmatch : List.Forall₂ (Known.Matches (fun name v => name ∈ nullable → v ≠ .null)
      fun o c => Overrides.layerOn o {} = c) Overrides.known Context.known := by
    refine .cons (matches_same ?_) <| .cons (matches_of_option (fun _ hP => hP (by decide)) ?_) <|
      .cons (matches_of_option (fun _ hP => hP (by decide)) ?_) <| .cons (matches_same ?_) .nil
    all_goals
      rintro a o _ rfl
      simp only [Overrides.layerOn_default, Option.getD_some]
  obtain ⟨c, hc, rfl⟩ := readRecord_matches Overrides.specified.toKnows Context.specified.toKnows hmatch
    rfl h fun name v hv hname hnull => hnulls name hname (hnull ▸ hv)
  exact hc

/-! ## Texts with something else for `null` -/

/-- The text gives `null` for the member `name`, and this stands around it. -/
structure NullIn (name : String) (text before after : List UInt8) : Prop where
  text_eq : text = before ++ (utf8 "null".toList ++ after)
  around : ∃ hole, Place Overrides.names name hole ∧ Surrounds before after hole

/-- `text'` is the text with `value` in place of the `null` that it gives for `name`, if it gives
one. -/
def Replaces (name : String) (value text text' : List UInt8) : Prop :=
  (∃ before after, NullIn name text before after ∧ text' = before ++ (value ++ after)) ∨
  (¬ ∃ before after, NullIn name text before after) ∧ text' = text

section
variable {name : String} {text text' value : List UInt8} {n v : Node} {o : Overrides}

theorem exists_replaces (name : String) (value text : List UInt8) :
    ∃ text', Replaces name value text text' := by
  by_cases h : ∃ before after, NullIn name text before after
  · obtain ⟨before, after, hnull⟩ := h
    exact ⟨_, .inl ⟨before, after, hnull, rfl⟩⟩
  · exact ⟨text, .inr ⟨h, rfl⟩⟩

theorem exists_nullIn (hn : n.IsTreeOf text) (h : n.Gives Overrides.names name .null) :
    ∃ before after, NullIn name text before after := by
  obtain ⟨hole, hplace, rfl⟩ := exists_place hn.1.skip h
  obtain ⟨before, after, htext, hsurrounds⟩ := exists_around hplace hn
  exact ⟨before, after, htext, hole, hplace, hsurrounds⟩

/-- What overrides come to does not change when something stands for `null` that comes to the same, and
then no `null` is left there. -/
theorem exists_replaced {α : Type} {form : Form α} {put : Option α → Overrides → Overrides}
    (hk : form.option.known name false put ∈ Overrides.known) (hv : v.IsTreeOf value)
    (hne : v ≠ .null) {a : α} (ha : readOption form.read v = .ok (some a))
    (hsame : ∀ y, (put (some a) y).layerOn {} = (put none y).layerOn {})
    (hn : n.IsTreeOf text) (hread : Overrides.read n = .ok o) (h : Replaces name value text text') :
    ∃ n' o', n'.IsTreeOf text' ∧ Overrides.read n' = .ok o' ∧ o'.layerOn {} = o.layerOn {} ∧
      ¬ n'.Gives Overrides.names name .null ∧
      ∀ other, other ≠ name → n'.Gives Overrides.names other .null →
        n.Gives Overrides.names other .null := by
  have hknows := Overrides.specified.toKnows
  rcases h with ⟨before, after, ⟨rfl, hole, hplace, hsurrounds⟩, rfl⟩ | ⟨hno, rfl⟩
  · -- a text has one tree, and this one has `null` in the place
    have htree := (hsurrounds _ _ isTreeOf_null).parse
    obtain rfl : n = hole .null := congrArg Prod.fst (hn.parse.symm.trans htree)
    obtain ⟨y, c, hc, rfl, hother⟩ := hknows.readRecord_place hk hplace hread
    cases hc
    have hread' : Overrides.read (hole v) = .ok (put (some a) y) := hother v (some a) ha
    refine ⟨hole v, _, hsurrounds v value hv, hread', hsame y, fun hnull => ?_,
      fun other hname hnull => hplace.gives_other hname hnull⟩
    exact hne (hknows.gives_unique hread' (List.mem_map_of_mem hk) (hplace.gives v) hnull)
  · exact ⟨n, o, hn, hread, rfl, fun hnull => hno (exists_nullIn hn hnull), fun _ _ hnull => hnull⟩

end

/-- **The two readings of a context agree.** A text that is read as a context is read as overrides, and
laid on a context with nothing set they make it. A text that is read as overrides, but not as a
context, gives `null` for the lossless flag or for the mode; with `false` and `fast_first` in place of
what it gives so, it is read as the context that the overrides make. -/
theorem context_readings_agree (t : List UInt8) :
    (∀ c, readWhole Context.read t = .ok c →
      ∃ o, readWhole Overrides.read t = .ok o ∧ o.layerOn {} = c) ∧
    ∀ o, readWhole Overrides.read t = .ok o →
      ((∀ c, readWhole Context.read t ≠ .ok c) →
        ∃ name ∈ nullable, ∃ before after, NullIn name t before after) ∧
      (∃ t' t'', Replaces "enable_flac" (utf8 "false".toList) t t' ∧
        Replaces "search_mode" (utf8 "\"fast_first\"".toList) t' t'') ∧
      ∀ t' t'', Replaces "enable_flac" (utf8 "false".toList) t t' →
        Replaces "search_mode" (utf8 "\"fast_first\"".toList) t' t'' →
        readWhole Context.read t'' = .ok (o.layerOn {}) := by
  have hcontext : Reader.Minds Context.read := minds_readRecord _
  have hoverrides : Reader.Minds Overrides.read := minds_readRecord _
  refine ⟨fun c hc => ?_, fun o ho => ⟨fun hno => ?_, ?_, fun t' t'' hflac hmode => ?_⟩⟩
  · obtain ⟨n, hn, hread⟩ := (readWhole_eq_ok_iff hcontext).1 hc
    obtain ⟨o, ho, hlayer⟩ := exists_overrides hread
    exact ⟨o, (readWhole_eq_ok_iff hoverrides).2 ⟨n, hn, ho⟩, hlayer⟩
  · obtain ⟨n, hn, hread⟩ := (readWhole_eq_ok_iff hoverrides).1 ho
    by_contra hnone
    refine hno _ ((readWhole_eq_ok_iff hcontext).2 ⟨n, hn, readContext_of_overrides hread ?_⟩)
    exact fun name hname hnull => hnone ⟨name, hname, exists_nullIn hn hnull⟩
  · obtain ⟨t', hflac⟩ := exists_replaces "enable_flac" (utf8 "false".toList) t
    obtain ⟨t'', hmode⟩ := exists_replaces "search_mode" (utf8 "\"fast_first\"".toList) t'
    exact ⟨t', t'', hflac, hmode⟩
  · obtain ⟨n, hn, hread⟩ := (readWhole_eq_ok_iff hoverrides).1 ho
    have hfalse : (Node.boolean false).IsTreeOf (utf8 "false".toList) := ⟨.boolean false, by decide⟩
    have hfast : (textNode "fast_first").IsTreeOf (utf8 "\"fast_first\"".toList) :=
      ⟨.text _, by decide⟩
    obtain ⟨n', o', hn', hread', hlayer, hnull, -⟩ := exists_replaced (.tail _ (.head _)) hfalse nofun
      rfl (fun y => by simp only [Overrides.layerOn_default]; rfl) hn hread hflac
    obtain ⟨n'', o'', hn'', hread'', hlayer', hnull', hother⟩ :=
      exists_replaced (.tail _ (.tail _ (.head _))) hfast nofun rfl
        (fun y => by simp only [Overrides.layerOn_default]; rfl) hn' hread' hmode
    refine (readWhole_eq_ok_iff hcontext).2 ⟨n'', hn'', ?_⟩
    rw [← hlayer, ← hlayer']
    -- the second step puts back no `null` that the first took away
    refine readContext_of_overrides hread'' fun name hname hgives => ?_
    rcases List.mem_pair.1 hname with rfl | rfl
    · exact hnull (hother _ (by decide) hgives)
    · exact hnull' hgives

end TrackResolver
