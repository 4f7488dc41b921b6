import Mathlib.Data.List.Forall2
import TrackResolver.Context
import TrackResolver.Proofs.Dict

/-!
# Layers of settings

A request lays its overrides on the context of the service. Two contexts are the same when their
fields are, the names that have a table, and the single settings; what a layer makes of each of these
says what it makes of the whole. A table that is there but empty counts as a table.

Results:
* `Merges.eq`, `merges_merge`: tables laid on tables, setting by setting.
* `layAlong_of_walks`: in whatever order the layer is gone through.
* `layerOn_eq_iff`: overrides laid on a base, field by field and setting by setting.
* `layerOn_layerOn`: two layers are one layer, in which the upper one wins.
* `layering_lawful`: the laws of layers together, and what no layer can do.
-/
namespace TrackResolver

/-- The setting `key` of `engine`. -/
def setting? (tables : Dict Settings) (engine key : String) : Option String :=
  (tables.get? engine).bind (·.get? key)

/-- Tables are determined by the names that have one and by the settings. -/
theorem tables_ext {d e : Dict Settings} (ht : ∀ engine, d.contains engine = e.contains engine)
    (hs : ∀ engine key, setting? d engine key = setting? e engine key) : d = e := by
  refine Dict.ext_get? fun engine => ?_
  have ht : (d.get? engine).isSome = (e.get? engine).isSome := ht engine
  have hs : ∀ key, (d.get? engine).bind (·.get? key) = (e.get? engine).bind (·.get? key) := hs engine
  generalize d.get? engine = table at ht hs ⊢
  generalize e.get? engine = other at ht hs ⊢
  cases table with
  | none => exact (Option.isNone_iff_eq_none.1 (by simpa using ht.symm)).symm
  | some s =>
    obtain ⟨u, rfl⟩ := Option.isSome_iff_exists.1 ht.symm
    exact congrArg some (Dict.ext_get? hs)

namespace Context

theorem get?_settingsOf (c : Context) (engine key : String) :
    (c.settingsOf engine).get? key = setting? c.settings engine key := by
  rw [settingsOf, setting?]
  cases c.settings.get? engine <;> rfl

end Context

/-! ## Tables laid on tables -/

/-- `d` is `lower` with `upper` laid on it: a setting is that of `upper` or else that of `lower`, and
a name has a table if it has one in either. -/
structure Merges (lower upper d : Dict Settings) : Prop where
  setting : ∀ engine key, setting? d engine key =
    (setting? upper engine key).or (setting? lower engine key)
  table : ∀ engine, d.contains engine = (upper.contains engine || lower.contains engine)

namespace Merges

variable {lower upper d e : Dict Settings}

theorem eq (hd : Merges lower upper d) (he : Merges lower upper e) : d = e :=
  tables_ext (fun engine => by rw [hd.table, he.table])
    fun engine key => by rw [hd.setting, he.setting]

/-- What is laid on a layer that is laid on `base` can be laid on the layer first. -/
theorem assoc {base once both twice : Dict Settings} (h : Merges base lower once)
    (h' : Merges once upper twice) (hboth : Merges lower upper both) : Merges base both twice where
  setting engine key := by rw [h'.setting, h.setting, hboth.setting, Option.or_assoc]
  table engine := by rw [h'.table, h.table, hboth.table, Bool.or_assoc]

theorem empty (base : Dict Settings) : Merges base .empty base where
  setting _ _ := Option.none_or.symm
  table _ := (Bool.false_or _).symm

theorem again (h : Merges lower upper d) : Merges d upper d where
  setting engine key := by rw [h.setting, ← Option.or_assoc, Option.or_self]
  table engine := by rw [h.table, ← Bool.or_assoc, Bool.or_self]

end Merges

namespace Context

theorem get?_merge (c : Context) (layer : Dict Settings) (engine : String) :
    (c.merge layer).settings.get? engine =
      ((layer.get? engine).map (c.settingsOf engine).union).or (c.settings.get? engine) :=
  Dict.get?_foldl_upsert layer.nodup_names
    (fun table upper => (table.getD Dict.empty).union upper) c.settings engine

theorem merges_merge (c : Context) (layer : Dict Settings) :
    Merges c.settings layer (c.merge layer).settings where
  setting engine key := by
    rw [setting?, get?_merge, setting?]
    cases layer.get? engine with
    | none => rfl
    | some upper =>
      rw [Option.map_some, Option.some_or, Option.bind_some, Option.bind_some, Dict.get?_union,
        get?_settingsOf]
  table engine := by
    rw [Dict.contains, get?_merge, Option.isSome_or, Option.isSome_map, Dict.contains, Dict.contains]

end Context

/-! ## The order in which a layer is gone through -/

/-- The tables with those of the walk laid on them, one after another and each key by key. -/
def layAlong (tables : Dict Settings) (walk : List (String × List (String × String))) :
    Dict Settings :=
  walk.foldl (fun d table => d.insert table.1
    (table.2.foldl (fun s e => s.insert e.1 e.2) ((d.get? table.1).getD .empty))) tables

/-- The walk comes to every table once, in some order, and in it to every key once, in some order. -/
def Walks (walk : List (String × List (String × String))) (layer : Dict Settings) : Prop :=
  ∃ order, order.Perm layer.entries ∧
    List.Forall₂ (fun table e => table.1 = e.1 ∧ table.2.Perm e.2.entries) walk order

theorem Dict.foldl_insert_perm {α : Type} {l : List (String × α)} {e : Dict α}
    (h : l.Perm e.entries) (d : Dict α) : l.foldl (fun d e => d.insert e.1 e.2) d = d.union e := by
  have hnames : (l.map (·.1)).Nodup := (h.map _).nodup_iff.2 e.nodup_names
  refine ext_get? fun k => ?_
  rw [get?_foldl_insert hnames, get?_union, find_perm h e.nodup_names, ← get?]

namespace Walks

variable {walk : List (String × List (String × String))} {layer : Dict Settings}

theorem nodup_names (h : Walks walk layer) : (walk.map (·.1)).Nodup := by
  obtain ⟨order, hperm, hwalk⟩ := h
  have hnames : walk.map (·.1) = order.map (·.1) := by
    rw [← List.forall₂_eq_eq_eq, List.forall₂_map_left_iff, List.forall₂_map_right_iff]
    exact hwalk.imp fun _ _ ht => ht.1
  rw [hnames]
  exact (hperm.map _).nodup_iff.2 layer.nodup_names

/-- The order in which the layer has its tables and keys is one. -/
theorem own (layer : Dict Settings) :
    Walks (layer.entries.map fun e => (e.1, e.2.entries)) layer := by
  refine ⟨layer.entries, .refl _, List.forall₂_map_left_iff.2 (List.forall₂_same.2 ?_)⟩
  exact fun e _ => ⟨rfl, .refl _⟩

/-- The walk comes to a table under its name. -/
theorem find (h : Walks walk layer) (engine : String) :
    Option.Rel (fun keys upper => keys.Perm (Dict.entries upper)) (Dict.find engine walk)
      (layer.get? engine) := by
  obtain ⟨order, hperm, hwalk⟩ := h
  rw [Dict.get?, ← Dict.find_perm hperm layer.nodup_names]
  clear hperm
  induction hwalk with
  | nil => exact .none
  | @cons table e _ _ ht _ ih =>
    rw [Dict.find, Dict.find, ht.1]
    by_cases hk : engine = e.1
    · rw [if_pos hk, if_pos hk]
      exact .some ht.2
    · rw [if_neg hk, if_neg hk]
      exact ih

end Walks

/-- Any walk through the layer comes to what `Context.merge` does. -/
theorem layAlong_of_walks {walk : List (String × List (String × String))} {layer : Dict Settings}
    (h : Walks walk layer) (c : Context) : layAlong c.settings walk = (c.merge layer).settings := by
  refine Dict.ext_get? fun engine => ?_
  rw [layAlong, Dict.get?_foldl_upsert h.nodup_names
    fun (table : Option Settings) (keys : List (String × String)) =>
      keys.foldl (fun s e => s.insert e.1 e.2) (table.getD .empty), Context.get?_merge]
  have hfind := h.find engine
  generalize Dict.find engine walk = keys? at hfind ⊢
  generalize layer.get? engine = upper? at hfind ⊢
  cases hfind with
  | none => rfl
  | some hp =>
    rw [Option.map_some, Option.map_some, Dict.foldl_insert_perm hp]
    rfl

/-! ## Overrides -/

/-- `c` is `b` with `o` laid on it. -/
structure Overlays (b : Context) (o : Overrides) (c : Context) : Prop where
  proxy : c.proxy = o.proxy.or b.proxy
  flac : c.flac = o.flac.getD b.flac
  mode : c.mode = o.mode.getD b.mode
  settings : Merges b.settings o.settings c.settings

/-- `o` is one layer for two: `upper` wins, field by field and setting by setting. -/
structure Combines (lower upper o : Overrides) : Prop where
  proxy : o.proxy = upper.proxy.or lower.proxy
  flac : o.flac = upper.flac.or lower.flac
  mode : o.mode = upper.mode.or lower.mode
  settings : Merges lower.settings upper.settings o.settings

namespace Overlays

variable {b c c' : Context} {o : Overrides}

theorem eq (h : Overlays b o c) (h' : Overlays b o c') : c = c' := by
  cases c
  cases c'
  rw [Context.mk.injEq]
  exact ⟨h.proxy.trans h'.proxy.symm, h.flac.trans h'.flac.symm, h.mode.trans h'.mode.symm,
    h.settings.eq h'.settings⟩

theorem none (b : Context) : Overlays b {} b :=
  ⟨Option.none_or.symm, rfl, rfl, .empty b.settings⟩

/-- A layer changes nothing when it is laid on a second time. -/
theorem again (h : Overlays b o c) : Overlays c o c where
  proxy := by rw [h.proxy, ← Option.or_assoc, Option.or_self]
  flac := by rw [h.flac]; cases o.flac <;> rfl
  mode := by rw [h.mode]; cases o.mode <;> rfl
  settings := h.settings.again

theorem assoc {upper both : Overrides} (h : Overlays b o c) (h' : Overlays c upper c')
    (hboth : Combines o upper both) : Overlays b both c' where
  proxy := by rw [h'.proxy, h.proxy, hboth.proxy, Option.or_assoc]
  flac := by rw [h'.flac, h.flac, hboth.flac]; cases upper.flac <;> rfl
  mode := by rw [h'.mode, h.mode, hboth.mode]; cases upper.mode <;> rfl
  settings := h.settings.assoc h'.settings hboth.settings

end Overlays

namespace Overrides

theorem overlays_layerOn (o : Overrides) (b : Context) : Overlays b o (o.layerOn b) :=
  ⟨Option.orElse_eq_or .., rfl, rfl, Context.merges_merge ..⟩

theorem layerOn_eq_iff {o : Overrides} {b c : Context} : o.layerOn b = c ↔ Overlays b o c :=
  ⟨fun h => h ▸ o.overlays_layerOn b, fun h => (o.overlays_layerOn b).eq h⟩

/-- One layer for two. -/
def combine (lower upper : Overrides) : Overrides where
  proxy := upper.proxy.or lower.proxy
  flac := upper.flac.or lower.flac
  mode := upper.mode.or lower.mode
  settings := (Context.merge { settings := lower.settings } upper.settings).settings

theorem combines_iff {lower upper o : Overrides} :
    Combines lower upper o ↔ o = lower.combine upper := by
  constructor
  · intro h
    cases o
    rw [combine, Overrides.mk.injEq]
    exact ⟨h.proxy, h.flac, h.mode,
      h.settings.eq (Context.merges_merge { settings := lower.settings } _)⟩
  · rintro rfl
    exact ⟨rfl, rfl, rfl, Context.merges_merge { settings := lower.settings } _⟩

theorem layerOn_layerOn (lower upper : Overrides) (b : Context) :
    upper.layerOn (lower.layerOn b) = (lower.combine upper).layerOn b :=
  (layerOn_eq_iff.2 ((lower.overlays_layerOn b).assoc (upper.overlays_layerOn _)
    (combines_iff.2 rfl))).symm

/-- **Layering is a lawful override.** Laying `o` on `b` gives the one context whose fields and
settings are those of `o` or else those of `b`, in whatever order `o` is gone through. Nothing laid on
`b` leaves it as it is, `o` a second time changes nothing, and a further layer can as well be laid on
`o` first. So a layer takes no setting away, keeps a proxy set, and leaves alone the table of an
engine that it does not mention. -/
theorem layering_lawful (b : Context) (o : Overrides) :
    (∀ c, o.layerOn b = c ↔ Overlays b o c) ∧
    ((∃ walk, Walks walk o.settings) ∧
      ∀ walk, Walks walk o.settings → layAlong b.settings walk = (o.layerOn b).settings) ∧
    (({} : Overrides).layerOn b = b ∧ o.layerOn (o.layerOn b) = o.layerOn b ∧
      ∀ upper, (∀ both, Combines o upper both ↔ both = o.combine upper) ∧
        upper.layerOn (o.layerOn b) = (o.combine upper).layerOn b) ∧
    (∀ engine key, (setting? b.settings engine key).isSome →
      (setting? (o.layerOn b).settings engine key).isSome) ∧
    (b.proxy.isSome → (o.layerOn b).proxy.isSome) ∧
    (∀ engine, o.settings.contains engine = false →
      (o.layerOn b).settings.get? engine = b.settings.get? engine) := by
  have hover := o.overlays_layerOn b
  refine ⟨fun c => layerOn_eq_iff, ⟨⟨_, .own _⟩, fun walk hwalk => layAlong_of_walks hwalk _⟩,
    ⟨layerOn_eq_iff.2 (.none b), layerOn_eq_iff.2 hover.again,
      fun upper => ⟨fun both => combines_iff, layerOn_layerOn o upper b⟩⟩, ?_, ?_, ?_⟩
  · intro engine key hset
    rw [hover.settings.setting, Option.isSome_or, hset, Bool.or_true]
  · intro hset
    rw [hover.proxy, Option.isSome_or, hset, Bool.or_true]
  · intro engine hnone
    have hnone : o.settings.get? engine = none := by simpa [Dict.contains] using hnone
    rw [layerOn, Context.get?_merge, hnone]
    rfl

end Overrides

end TrackResolver
