import Mathlib
import TrackResolver.Proofs.Json.RoundTrip
import TrackResolver.Proofs.Text.Trim

/-!
# The names of the search modes

A mode goes by two words, with nothing, a dash or an underscore between them. Blanks around the name
and the case of its letters do not count; only the letters of ASCII have a case here. A document has
to use one of a few spellings, and each of them is such a name.

Results:
* `toLower_eq_iff`: which characters count as a given letter.
* `ofText?_eq_ok_iff`, `ofText?_eq_error_iff`: which texts name a mode, and what is said of the others.
* `ofText?_of_pick`: a spelling that a document may use means the same elsewhere.
* `mode_names`: all of these, for every text.
-/
namespace TrackResolver

open Json (readText readChoice readWhole)

namespace SearchMode

/-! ## The names -/

/-- `c` is the letter `l` or its capital. -/
def IsLetter (l c : Char) : Prop := c = l ∨ c = l.toUpper

/-- The letters are those of the word, each small or capital. -/
def Spells (word : String) (letters : List Char) : Prop := List.Forall₂ IsLetter word.toList letters

/-- The first word of the name of a mode; the second is the same for both. -/
def firstWord : SearchMode → String
  | fastFirst => "fast"
  | orderFirst => "order"

/-- What may stand between the words. -/
def IsJoint (joint : List Char) : Prop := joint = [] ∨ joint = ['-'] ∨ joint = ['_']

/-- `t` is a name of the mode. -/
def Names (m : SearchMode) (t : String) : Prop :=
  ∃ front joint back, t.toList = front ++ (joint ++ back) ∧ Spells m.firstWord front ∧
    IsJoint joint ∧ Spells "first" back

/-! ## The letters of a name as it is compared -/

/-- A character as it is compared. -/
def compared (c : Char) : Char := if c = '-' then '_' else c.toLower

theorem toLower_eq_iff {l c : Char} (hl : l.isLower = true) : c.toLower = l ↔ IsLetter l c := by
  have hsmall : l.toLower = l := Char.toLower_eq_of_not_isUpper (Char.not_isUpper_of_isLower hl)
  constructor
  · intro h
    by_cases hc : c.isUpper = true
    · have hcapital : c.toUpper = c := Char.toUpper_eq_of_not_isLower (Char.not_isLower_of_isUpper hc)
      right
      rw [← h, Char.toUpper_toLower_eq_toUpper, hcapital]
    · left
      rw [← h, Char.toLower_eq_of_not_isUpper hc]
  · rintro (h | h) <;> subst h
    · exact hsmall
    · rw [Char.toLower_toUpper_eq_toLower, hsmall]

/-- A letter is compared to the letter itself and to its capital. -/
theorem compared_eq_letter_iff {l c : Char} (hl : l.isLower = true) :
    compared c = l ↔ IsLetter l c := by
  rw [← toLower_eq_iff hl, compared]
  split
  · next h =>
    subst h
    constructor <;> (intro h; subst h; cases hl)
  · exact Iff.rfl

/-- What is no letter has no other case. -/
theorem toLower_eq_iff_of_not_isAlpha {x c : Char} (hx : x.isAlpha = false) :
    c.toLower = x ↔ c = x := by
  rw [Char.isAlpha, Bool.or_eq_false_iff] at hx
  constructor
  · intro h
    have hc : ¬ c.isUpper = true := by
      intro hc
      have hletter : c.toLower.isLower = true := by
        rw [Char.isLower_toLower_eq_isAlpha, Char.isAlpha, hc, Bool.true_or]
      rw [h, hx.2] at hletter
      cases hletter
    rwa [Char.toLower_eq_of_not_isUpper hc] at h
  · rintro rfl
    exact Char.toLower_eq_of_not_isUpper (by rw [hx.1]; exact Bool.false_ne_true)

theorem compared_eq_underscore_iff {c : Char} : compared c = '_' ↔ c = '-' ∨ c = '_' := by
  rw [compared]
  split
  · next h => simp [h]
  · next h => rw [or_iff_right h, toLower_eq_iff_of_not_isAlpha rfl]

theorem map_compared_eq_word_iff {word : String} (hw : ∀ l ∈ word.toList, l.isLower = true)
    {letters : List Char} : letters.map compared = word.toList ↔ Spells word letters := by
  rw [Spells]
  generalize word.toList = ls at hw
  induction ls generalizing letters with
  | nil => simp
  | cons l ls ih =>
    obtain ⟨hl, hls⟩ := List.forall_mem_cons.1 hw
    cases letters with
    | nil => simp
    | cons c cs => rw [List.map_cons, List.cons.injEq, List.forall₂_cons, compared_eq_letter_iff hl, ih hls]

theorem firstWord_small (m : SearchMode) : ∀ l ∈ m.firstWord.toList, l.isLower = true := by
  cases m <;> simp [firstWord]

theorem second_small : ∀ l ∈ "first".toList, l.isLower = true := by simp

/-- A name, as it is compared, is one of two. -/
theorem names_iff {m : SearchMode} {t : String} :
    m.Names t ↔ t.toList.map compared = (m.firstWord ++ "first").toList ∨
      t.toList.map compared = (m.firstWord ++ "_first").toList := by
  have hfirst : ∀ letters, letters.map compared = m.firstWord.toList ↔ Spells m.firstWord letters :=
    fun _ => map_compared_eq_word_iff m.firstWord_small
  have hsecond : ∀ letters, letters.map compared = "first".toList ↔ Spells "first" letters :=
    fun _ => map_compared_eq_word_iff second_small
  have hjoined : "_first".toList = '_' :: "first".toList := rfl
  rw [String.toList_append, String.toList_append, hjoined]
  constructor
  · rintro ⟨front, joint, back, ht, hfront, hjoint, hback⟩
    rw [ht, List.map_append, List.map_append, (hfirst front).2 hfront, (hsecond back).2 hback]
    rcases hjoint with rfl | rfl | rfl
    · exact Or.inl rfl
    · exact Or.inr rfl
    · exact Or.inr rfl
  · rintro (h | h)
    · obtain ⟨front, back, ht, hfront, hback⟩ := List.map_eq_append_iff.1 h
      exact ⟨front, [], back, ht, (hfirst front).1 hfront, Or.inl rfl, (hsecond back).1 hback⟩
    · obtain ⟨front, joined, ht, hfront, hjoined⟩ := List.map_eq_append_iff.1 h
      obtain ⟨c, back, rfl, hc, hback⟩ := List.map_eq_cons_iff.1 hjoined
      refine ⟨front, [c], back, ht, (hfirst front).1 hfront, Or.inr ?_, (hsecond back).1 hback⟩
      rcases compared_eq_underscore_iff.1 hc with rfl | rfl
      · exact Or.inl rfl
      · exact Or.inr rfl

theorem toList_normalized (s : String) :
    (normalized s).toList = (Text.trim s).toList.map compared := by
  rw [normalized, String.toList_ofList, Text.trim, String.toList_ofList]
  rfl

theorem names_fastFirst_iff {s : String} : fastFirst.Names (Text.trim s) ↔
    normalized s = "fast_first" ∨ normalized s = "fastfirst" := by
  have hjoined : fastFirst.firstWord ++ "_first" = "fast_first" := by decide
  have hplain : fastFirst.firstWord ++ "first" = "fastfirst" := by decide
  rw [names_iff, ← toList_normalized, String.toList_inj, String.toList_inj, hjoined, hplain, or_comm]

theorem names_orderFirst_iff {s : String} : orderFirst.Names (Text.trim s) ↔
    normalized s = "order_first" ∨ normalized s = "orderfirst" := by
  have hjoined : orderFirst.firstWord ++ "_first" = "order_first" := by decide
  have hplain : orderFirst.firstWord ++ "first" = "orderfirst" := by decide
  rw [names_iff, ← toList_normalized, String.toList_inj, String.toList_inj, hjoined, hplain, or_comm]

theorem normalized_eq (s : String) :
    normalized s = (Text.trim s).toLower.map fun c => if c = '-' then '_' else c := by
  rw [← String.toList_inj, toList_normalized, String.toList_map, String.toLower, String.toList_map,
    List.map_map]
  refine List.map_congr_left fun c _ => ?_
  simp only [compared, Function.comp_apply, toLower_eq_iff_of_not_isAlpha (x := '-') rfl]

/-! ## Reading a name -/

section
variable {s : String}

theorem ofText?_of_fastFirst (h : fastFirst.Names (Text.trim s)) : ofText? s = .ok fastFirst :=
  if_pos (names_fastFirst_iff.1 h)

/-- No text names both modes. -/
theorem ofText?_of_orderFirst (h : orderFirst.Names (Text.trim s)) : ofText? s = .ok orderFirst := by
  have hname := names_orderFirst_iff.1 h
  have hother : ¬ (normalized s = "fast_first" ∨ normalized s = "fastfirst") := by
    rcases hname with h | h <;> rw [h] <;> decide
  rw [ofText?, if_neg hother, if_pos hname]

theorem ofText?_of_nameless (h : ∀ m : SearchMode, ¬ m.Names (Text.trim s)) :
    ofText? s = .error (.config ("Unknown search mode: " ++ normalized s)) := by
  rw [ofText?, if_neg (mt names_fastFirst_iff.2 (h fastFirst)),
    if_neg (mt names_orderFirst_iff.2 (h orderFirst))]

theorem ofText?_of_names {m : SearchMode} (h : m.Names (Text.trim s)) : ofText? s = .ok m := by
  cases m with
  | fastFirst => exact ofText?_of_fastFirst h
  | orderFirst => exact ofText?_of_orderFirst h

theorem ofText?_eq_ok_iff {m : SearchMode} : ofText? s = .ok m ↔ m.Names (Text.trim s) := by
  refine ⟨fun h => ?_, ofText?_of_names⟩
  by_cases hnamed : ∃ n : SearchMode, n.Names (Text.trim s)
  · obtain ⟨n, hn⟩ := hnamed
    rw [ofText?_of_names hn, Except.ok.injEq] at h
    exact h ▸ hn
  · rw [ofText?_of_nameless (not_exists.1 hnamed)] at h
    cases h

theorem ofText?_eq_error_iff {e : SetupError} : ofText? s = .error e ↔
    (∀ m : SearchMode, ¬ m.Names (Text.trim s)) ∧
      e = .config ("Unknown search mode: " ++ normalized s) := by
  constructor
  · intro h
    have hnone : ∀ m : SearchMode, ¬ m.Names (Text.trim s) := by
      intro m hm
      rw [ofText?_of_names hm] at h
      cases h
    rw [ofText?_of_nameless hnone, Except.error.injEq] at h
    exact ⟨hnone, h.symm⟩
  · rintro ⟨hnone, rfl⟩
    exact ofText?_of_nameless hnone

end

/-! ## Spellings in documents -/

theorem exists_text {document : List UInt8} {s : String}
    (h : readWhole readText document = .ok s) : ∃ pieces ending,
      Json.parse document = (.text pieces ending, false) ∧ Json.decodeText pieces ending = .ok s := by
  rw [readWhole] at h
  cases hparse : Json.parse document with
  | mk node more =>
    rw [hparse] at h
    cases node with
    | text pieces ending =>
      simp only [readText] at h
      cases hs : Json.decodeText pieces ending with
      | error why => rw [hs] at h; cases h
      | ok t =>
        rw [hs] at h
        cases more <;> cases h
        exact ⟨pieces, ending, rfl, hs⟩
    | _ => cases h

/-- A document that holds a text is read as the choice of that name. -/
theorem readWhole_choice {α : Type} (choices : List (String × α)) {document : List UInt8} {s : String}
    (h : readWhole readText document = .ok s) :
    readWhole (readChoice choices) document = readChoice.pick choices s := by
  obtain ⟨pieces, ending, hparse, hs⟩ := exists_text h
  have hchoice : readChoice choices (.text pieces ending) = readChoice.pick choices s := by
    rw [readChoice, hs]
    rfl
  rw [readWhole, hparse]
  simp only [hchoice]
  cases readChoice.pick choices s <;> rfl

theorem mem_of_pick {α : Type} {choices : List (String × α)} {s : String} {a : α}
    (h : readChoice.pick choices s = .ok a) : (s, a) ∈ choices := by
  unfold readChoice.pick at h
  split at h
  · next name b hfind =>
    cases h
    have hname : name = s := by simpa using List.find?_some hfind
    exact hname ▸ List.mem_of_find?_eq_some hfind
  · cases h

theorem ofText?_of_spelling : ∀ e ∈ spellings, ofText? e.1 = .ok e.2 := by
  decide +kernel

theorem pick_text (m : SearchMode) : readChoice.pick spellings m.text = .ok m := by
  cases m <;> rfl

/-- **Names of modes are read exactly.** A text is read as a mode exactly if it is a name of the mode
with blanks around it, and else the complaint shows it without those, its letters small and its dashes
as underscores. A text that a JSON document may use for a mode means the same mode here, and the text
that a mode is shown by means that mode in either. -/
theorem mode_names (s : String) :
    (∀ m, ofText? s = .ok m ↔ ∃ t, Text.Trims s t ∧ m.Names t) ∧
    (∀ e, ofText? s = .error e ↔ ∃ t, Text.Trims s t ∧ (∀ m : SearchMode, ¬ m.Names t) ∧
      e = .config ("Unknown search mode: " ++ t.toLower.map fun c => if c = '-' then '_' else c)) ∧
    (∀ document m, readWhole readText document = .ok s → readWhole SearchMode.read document = .ok m →
      ofText? s = .ok m) ∧
    (∀ m : SearchMode, ofText? m.text = .ok m ∧
      readWhole SearchMode.read (Json.Value.text m.text).render.toUTF8.data.toList = .ok m ∧
      ∀ document, readWhole readText document = .ok m.text →
        readWhole SearchMode.read document = .ok m) := by
  have htrims : ∀ P : String → Prop, (∃ t, Text.Trims s t ∧ P t) ↔ P (Text.trim s) := by
    intro P
    constructor
    · rintro ⟨t, ht, hP⟩
      rwa [ht.eq_trim]
    · exact fun hP => ⟨_, Text.trims_trim s, hP⟩
  refine ⟨fun m => ?_, fun e => ?_, fun document m htext hmode => ?_, fun m => ⟨?_, ?_, ?_⟩⟩
  · rw [htrims m.Names, ofText?_eq_ok_iff]
  · rw [htrims, ofText?_eq_error_iff, normalized_eq]
  · rw [SearchMode.read, readWhole_choice spellings htext] at hmode
    exact ofText?_of_spelling (s, m) (mem_of_pick hmode)
  · exact ofText?_text m
  · rw [← SearchMode.toJson]
    exact (reads_mode m).readWhole (.same _)
  · intro document htext
    rw [SearchMode.read, readWhole_choice spellings htext, pick_text]

/-- A wide blank does not count, but a second underscore does. -/
example : ofText? "\u3000ORDER-first\n" = .ok orderFirst ∧
    ofText? " Fast-_First" = .error (.config "Unknown search mode: fast__first") := by
  decide

end SearchMode

end TrackResolver
