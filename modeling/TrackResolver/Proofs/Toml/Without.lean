import TrackResolver.Toml.Decode

/-!
# Tables with keys left out

Some keys of a tree are left out, each with all that stands under it. A record is read entry by
entry, and a field that is left out keeps its default, so the reader of the smaller tree comes to
what it came to before, but for the fields that are gone. Keys that the record does not have make no
difference at all.

Results:
* `Value.without`: a tree with keys left out; `Value.without_of_isEmpty`.
* `Resets`: the readers that notice nothing but the default of what is gone; `resets_record`.
* `Ignores`: the readers that notice nothing; `ignores_record`.
-/
namespace TrackResolver.Toml

open Reading

/-! ## Keys -/

/-- Some keys of a tree, by their paths from its top. -/
abbrev Keys := List String → Bool

namespace Keys

/-- Those of the keys that stand below the table at `front`, by their paths from there. -/
def below (keys : Keys) (front : List String) : Keys := fun path => keys (front ++ path)

/-- There are none of these keys. -/
def IsEmpty (keys : Keys) : Prop := ∀ k path, keys (k :: path) = false

theorem IsEmpty.below {keys : Keys} (h : keys.IsEmpty) (k : String) : (keys.below [k]).IsEmpty :=
  fun k' path => h k (k' :: path)

theorem isEmpty_or_exists (keys : Keys) : keys.IsEmpty ∨ ∃ k path, keys (k :: path) = true := by
  by_cases h : ∃ k path, keys (k :: path) = true
  · exact .inr h
  · exact .inl fun k path => Bool.eq_false_iff.2 fun hkey => h ⟨k, path, hkey⟩

end Keys

variable {keys : Keys}

mutual
/-- The value without these keys and what stands under them. Only tables have keys. -/
def Value.without (keys : Keys) : Value → Value
  | .table entries => .table (entriesWithout keys entries)
  | v => v

def entriesWithout (keys : Keys) : List (String × Value) → List (String × Value)
  | [] => []
  | (k, v) :: rest =>
    if keys [k] then entriesWithout keys rest
    else (k, v.without (keys.below [k])) :: entriesWithout keys rest
end

/-- The tables on the way to a key are not written as arrays, whose items have no keys. -/
def Value.Keyed : List String → Value → Prop
  | [], _ => True
  | k :: path, v => v.items? = none ∧ ∀ entries w, v = .table entries → (k, w) ∈ entries → w.Keyed path

@[simp] theorem Value.keyed_nil (v : Value) : v.Keyed [] := by
  rw [Keyed]
  trivial

@[simp] theorem Value.keyed_table {entries : List (String × Value)} {k : String} {path : List String} :
    (Value.table entries).Keyed (k :: path) ↔ ∀ w, (k, w) ∈ entries → w.Keyed path := by
  rw [Keyed]
  constructor
  · rintro ⟨-, h⟩ w hw
    exact h entries w rfl hw
  · refine fun h => ⟨rfl, ?_⟩
    rintro _ w ⟨⟩ hw
    exact h w hw

mutual
theorem Value.without_of_isEmpty {keys : Keys} (h : keys.IsEmpty) : ∀ v : Value, v.without keys = v
  | .table entries => by rw [Value.without, entriesWithout_of_isEmpty h entries]
  | .text _ | .integer _ | .float _ | .boolean _ | .moment _ | .array _ | .tables _ => rfl

theorem entriesWithout_of_isEmpty {keys : Keys} (h : keys.IsEmpty) :
    ∀ entries : List (String × Value), entriesWithout keys entries = entries
  | [] => rfl
  | (k, v) :: rest => by
    rw [entriesWithout, h k [], v.without_of_isEmpty (h.below k), entriesWithout_of_isEmpty h rest]
    rfl
end

section
variable {α τ : Type} {read : Reader α} {r : Record Value τ} {f : Field Value τ} {name : String}
variable {put : α → τ → τ}

theorem field_read_eq_ok_iff {v : Value} {t t' : τ} :
    (field name read put).read v t = .ok t' ↔ ∃ a, read v = .ok a ∧ put a t = t' := by
  simp only [field]
  cases read v <;> simp [bind, Except.bind, pure, Except.pure]

theorem readEntry_of_field (h : r.field? name = some f) (v : Value) (t : τ) :
    readEntry r t (name, v) = f.read v t := by
  simp only [readEntry, h]

theorem readEntry_of_stray (h : r.field? name = none) (v : Value) (t : τ) :
    readEntry r t (name, v) = .ok t := by
  simp only [readEntry, h]

theorem mem_of_field? (h : r.field? name = some f) : f ∈ r.fields ∧ f.name = name :=
  ⟨List.mem_of_find?_eq_some h, by simpa using List.find?_some h⟩

/-! ## Keys of the record -/

/-- With these keys left out, the reader comes to what it came to before, changed by `reset`. -/
def Resets (read : Reader α) (keys : Keys) (reset : α → α) : Prop :=
  ∀ ⦃v : Value⦄ ⦃a : α⦄, (∀ path, keys path = true → v.Keyed path) → read v = .ok a →
    read (v.without keys) = .ok (reset a)

theorem resets_of_isEmpty (read : Reader α) (h : keys.IsEmpty) : Resets read keys id := by
  intro v a _ hread
  rw [v.without_of_isEmpty h]
  exact hread

/-- What a field has put into the record is lost if it goes, and put there by what is left of it if
it stays. -/
def FieldResets (keys : Keys) (reset : τ → τ) (f : Field Value τ) : Prop :=
  ∀ ⦃w : Value⦄ ⦃t t' : τ⦄, (∀ path, keys (f.name :: path) = true → w.Keyed path) →
    f.read w t = .ok t' →
    if keys [f.name] then reset t' = reset t
    else f.read (w.without (keys.below [f.name])) (reset t) = .ok (reset t')

theorem fieldResets_field {reset : τ → τ} {sub : α → α} (hsub : Resets read (keys.below [name]) sub)
    (hput : ∀ a t, reset (put a t) = if keys [name] then reset t else put (sub a) (reset t)) :
    FieldResets keys reset (field name read put) := by
  intro w t t' hkeyed hread
  obtain ⟨a, ha, rfl⟩ := field_read_eq_ok_iff.1 hread
  have hname : (field name read put).name = name := rfl
  rw [hname, hput]
  split
  · rfl
  · exact field_read_eq_ok_iff.2 ⟨sub a, hsub hkeyed ha, rfl⟩

/-- One entry: it makes no difference if it goes, and the same difference if it stays. -/
theorem readEntry_resets {reset : τ → τ} (hfields : ∀ f ∈ r.fields, FieldResets keys reset f)
    {k : String} {w : Value} {t t' : τ} (hkeyed : ∀ path, keys (k :: path) = true → w.Keyed path)
    (h : readEntry r t (k, w) = .ok t') :
    if keys [k] then reset t' = reset t
    else readEntry r (reset t) (k, w.without (keys.below [k])) = .ok (reset t') := by
  cases hfield : r.field? k with
  | none =>
    rw [readEntry_of_stray hfield, Except.ok.injEq] at h
    subst h
    split
    · rfl
    · exact readEntry_of_stray hfield _ _
  | some f =>
    obtain ⟨hmem, rfl⟩ := mem_of_field? hfield
    rw [readEntry_of_field hfield] at h ⊢
    exact hfields f hmem hkeyed h

/-- The reader of the smaller table keeps step with the other one, and is always at what its record
is reset to. -/
theorem foldlM_resets {reset : τ → τ} (hfields : ∀ f ∈ r.fields, FieldResets keys reset f)
    {entries : List (String × Value)} {t t' : τ}
    (hkeyed : ∀ k path w, keys (k :: path) = true → (k, w) ∈ entries → w.Keyed path)
    (h : entries.foldlM (readEntry r) t = .ok t') :
    (entriesWithout keys entries).foldlM (readEntry r) (reset t) = .ok (reset t') := by
  induction entries generalizing t with
  | nil =>
    obtain rfl : t = t' := by simpa [pure, Except.pure] using h
    rfl
  | cons entry rest ih =>
    obtain ⟨k, w⟩ := entry
    have hrest := fun k path w hkey hmem => hkeyed k path w hkey (List.mem_cons_of_mem _ hmem)
    rw [List.foldlM_cons] at h
    cases hread : readEntry r t (k, w) with
    | error e =>
      rw [hread] at h
      cases h
    | ok next =>
      rw [hread] at h
      have hgoes := ih hrest h
      have hstep := readEntry_resets hfields
        (fun path hkey => hkeyed k path w hkey List.mem_cons_self) hread
      rw [entriesWithout]
      split at hstep
      · next hgone =>
        rw [if_pos hgone, ← hstep]
        exact hgoes
      · next hstays =>
        rw [if_neg hstays, List.foldlM_cons, hstep]
        exact hgoes

/-- A record, by its fields. A date is looked at as a table of one entry, which must be no field. -/
theorem resets_record {reset : τ → τ} (hmoment : r.field? Value.momentKey = none)
    (hblank : reset r.blank = r.blank) (hempty : keys.IsEmpty → ∀ t, reset t = t)
    (hfields : ∀ f ∈ r.fields, FieldResets keys reset f) : Resets (readRecord r) keys reset := by
  intro v t hkeyed hread
  obtain hnone | ⟨k, path, hkey⟩ := keys.isEmpty_or_exists
  · rw [v.without_of_isEmpty hnone, hempty hnone]
    exact hread
  · have hitems := (hkeyed _ hkey).1
    cases v with
    | table entries =>
      have hrun := foldlM_resets hfields (fun k path w hkey => Value.keyed_table.1 (hkeyed _ hkey) w) hread
      rw [hblank] at hrun
      exact hrun
    | moment shown =>
      have hread' : readEntry r r.blank (Value.momentKey, .text shown) = .ok t := by
        simpa [readRecord, Value.items?, Value.entries?] using hread
      rw [readEntry_of_stray hmoment, Except.ok.injEq] at hread'
      subst hread'
      rw [hblank]
      exact hread
    | array items => cases hitems
    | tables items => cases hitems
    | _ => cases hread

/-! ## Keys that no record has -/

/-- The reader does not notice that these keys are left out. -/
def Ignores (read : Reader α) (keys : Keys) : Prop := ∀ v : Value, read (v.without keys) = read v

theorem ignores_of_isEmpty (read : Reader α) (h : keys.IsEmpty) : Ignores read keys := fun v => by
  rw [v.without_of_isEmpty h]

/-- The field is none of these keys, and its reader does not notice those that stand under it. -/
def FieldIgnores (keys : Keys) (f : Field Value τ) : Prop :=
  keys [f.name] = false ∧ ∀ w t, f.read (w.without (keys.below [f.name])) t = f.read w t

theorem fieldIgnores_field (hname : keys [name] = false) (h : Ignores read (keys.below [name])) :
    FieldIgnores keys (field name read put) := by
  refine ⟨hname, fun w t => ?_⟩
  have hw : read (w.without (keys.below [name])) = read w := h w
  simp only [field, hw]

theorem readEntry_ignores (hfields : ∀ f ∈ r.fields, FieldIgnores keys f) (k : String) (w : Value)
    (t : τ) :
    if keys [k] then readEntry r t (k, w) = .ok t
    else readEntry r t (k, w.without (keys.below [k])) = readEntry r t (k, w) := by
  cases hfield : r.field? k with
  | none =>
    split
    · exact readEntry_of_stray hfield w t
    · rw [readEntry_of_stray hfield, readEntry_of_stray hfield]
  | some f =>
    obtain ⟨hmem, rfl⟩ := mem_of_field? hfield
    obtain ⟨hname, hread⟩ := hfields f hmem
    rw [hname, if_neg Bool.false_ne_true, readEntry_of_field hfield, readEntry_of_field hfield]
    exact hread w t

theorem foldlM_ignores (hfields : ∀ f ∈ r.fields, FieldIgnores keys f)
    (entries : List (String × Value)) (t : τ) :
    (entriesWithout keys entries).foldlM (readEntry r) t = entries.foldlM (readEntry r) t := by
  induction entries generalizing t with
  | nil => rfl
  | cons entry rest ih =>
    obtain ⟨k, w⟩ := entry
    have hstep := readEntry_ignores hfields k w t
    rw [entriesWithout, List.foldlM_cons]
    split at hstep
    · next hgone =>
      rw [if_pos hgone, hstep]
      exact ih t
    · next hstays =>
      rw [if_neg hstays, List.foldlM_cons, hstep]
      exact congrArg _ (funext ih)

theorem ignores_record (hfields : ∀ f ∈ r.fields, FieldIgnores keys f) :
    Ignores (readRecord r) keys := by
  intro v
  cases v with
  | table entries => exact foldlM_ignores hfields entries r.blank
  | _ => rfl

end

end TrackResolver.Toml
