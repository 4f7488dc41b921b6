import TrackResolver.Engine.Passthrough
import TrackResolver.Proofs.Executor.Search
import TrackResolver.Proofs.Registry.Standing

/-!
# Discreet engines

A view holds the whole context, and tells no more of it than the common fields and the settings of its
own engine. An engine that goes by what the view tells is `Discreet`. One that takes the view apart, as
a diagnostic does, need not be.

Results:
* `Alike.require`, `Alike.getD`, `Alike.demand`, `Alike.describe`, `Alike.proxyServer`: each operation
  on a view, on two that tell the same.
* `Script.discreet`, `Passthrough.discreet`: the engines at hand.
* `Registry.discreet_after`, `Executor.discreet_ofScripts`: registries in which nothing else was ever
  registered.
-/
namespace TrackResolver

/-- The views tell the same, whatever contexts they hold. -/
structure View.Alike (v w : View) : Prop where
  engine : v.engine = w.engine
  settings : v.settings = w.settings
  proxy : v.proxy = w.proxy
  flac : v.flac = w.flac
  mode : v.mode = w.mode
  cancelled : v.cancelled = w.cancelled

/-- The engine goes by what its view tells. -/
structure Engine.Discreet (e : Engine) : Prop where
  search : ∀ song v w, v.Alike w → e.search song v = e.search song w
  retrieve : ∀ f v w, v.Alike w → e.retrieve f v = e.retrieve f w

/-- Whatever is registered under these names is discreet. -/
def Registry.Discreet (r : Registry) (names : List String) : Prop :=
  ∀ name ∈ names, ∀ e, r.get? name = some e → e.Discreet

/-! ## What can be asked of a view -/

namespace View.Alike

variable {v w : View}

theorem require (h : v.Alike w) (key purpose : String) :
    v.require key purpose = w.require key purpose := by
  rw [View.require, View.require, h.settings, h.engine]

theorem getD (h : v.Alike w) (key default : String) : v.getD key default = w.getD key default := by
  rw [View.getD, View.getD, h.settings]

theorem demand (h : v.Alike w) (key : String) (purpose : Option String) :
    v.demand key purpose = w.demand key purpose := by
  cases purpose with
  | some purpose => rw [View.demand, View.demand, h.require]
  | none => rw [View.demand, View.demand, h.settings]

theorem describe (h : v.Alike w) : v.describe = w.describe := by
  unfold View.describe
  dsimp only
  rw [h.engine, h.proxy, h.flac, h.mode, h.settings, h.cancelled]

theorem proxyServer (h : v.Alike w) : v.proxyServer = w.proxyServer := by
  rw [View.proxyServer, View.proxyServer, h.proxy]

end View.Alike

/-! ## Engines -/

namespace Script

variable (s : Script) {v w : View}

theorem conclude_eq (h : v.Alike w) (song : Song) (act : SearchAct) :
    s.conclude song v act = s.conclude song w act := by
  cases act with
  | setting key purpose => rw [conclude, conclude, h.demand]
  | describe => rw [conclude, conclude, h.describe]
  | proxy => rw [conclude, conclude, h.proxyServer]
  | _ => rfl

theorem work_eq (h : v.Alike w) (song : Song) : s.work song v = s.work song w := by
  unfold work
  split
  · rfl
  · rw [conclude_eq s h]

theorem answer_eq (h : v.Alike w) (f : Found) : s.answer f v = s.answer f w := by
  unfold answer
  split
  · rfl
  · rw [h.demand]
  · rw [h.describe]
  · rfl

theorem discreet : s.engine.Discreet where
  search song v w h := by
    simp only [engine, work_eq s h]
  retrieve f v w h := answer_eq s h f

end Script

namespace Passthrough

theorem discreet : engine.Discreet where
  search song v w h := by
    have hlink : link? song v = link? song w := by
      rw [link?, link?, linkKey, linkKey, h.getD]
    simp only [engine, search, hlink]
  retrieve _ _ _ _ := rfl

end Passthrough

/-! ## Registries -/

theorem Registry.discreet_after {history : List Change}
    (h : ∀ e, .register e ∈ history → e.Discreet) (names : List String) :
    (after history).Discreet names := by
  intro name _ e he
  obtain ⟨before, rest, rfl, -⟩ := (get?_after history name e).1 he
  exact h e (List.mem_append_right _ List.mem_cons_self)

theorem Executor.discreet_ofScripts (scripts : List Script) (names : List String) :
    (ofScripts scripts).registry.Discreet names := by
  have hafter : (ofScripts scripts).registry =
      .after ((scripts.map Script.engine).map .register) := by
    rw [Registry.after, List.foldl_map]
    rfl
  rw [hafter]
  refine Registry.discreet_after ?_ names
  intro e he
  obtain ⟨engine, hengine, heq⟩ := List.mem_map.1 he
  obtain ⟨s, -, rfl⟩ := List.mem_map.1 hengine
  cases heq
  exact s.discreet

end TrackResolver
