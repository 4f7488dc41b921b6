import TrackResolver.Proofs.Json.Inside

/-!
# Where a document can be cut

Brackets, commas and colons are tokens of one byte each, so a document can be cut behind any of them,
and between two tokens anywhere. What stands between the tokens is blank and can be put in or left out.

Results:
* `begins`: what a byte does where a token may begin.
* `lex_cut`: the bytes up to a bracket, a comma or a colon, whatever comes behind them.
* `tokens_spaced`: blanks between two tokens.
* `exists_null`: the bytes of a `null`, found by its token.
-/
namespace TrackResolver.Json

open Reading (Stop)

/-! ## One byte -/

/-- The token is a bracket, a comma or a colon. -/
def Token.isMark : Token → Bool
  | openArray | closeArray | openObject | closeObject | comma | colon => true
  | _ => false

/-- The bytes of brackets, commas and colons. -/
def marks : List UInt8 := ['[', ']', '\x7b', '\x7d', ',', ':'].map code

/-- The lexer is inside a token. -/
def Lexing.Inside : Lexing → Prop
  | between | ended => False
  | _ => True

/-- The lexer is inside a token that will turn out to be this one. -/
def Lexing.Promises : Lexing → Token → Prop
  | word _ token, t => t = token ∨ ∃ null stop, t = .brokenWord null stop
  | number _ _, t => (∃ n, t = .number n) ∨ ∃ stop, t = .brokenNumber stop
  | text _, t | escape _, t | unit _ _, t =>
    (∃ pieces, t = .text pieces) ∨ ∃ pieces stop, t = .brokenText pieces stop
  | between, _ | ended, _ => False

/-- No token that the lexer is inside of is a mark. -/
def Lexing.IsProper (s : Lexing) : Prop := ∀ t, s.Promises t → t.isMark = false

/-- What a byte does where a token may begin. -/
inductive Begins (b : UInt8) : List Token × Lexing → Prop
  | blank (h : isSpace b = true) : Begins b ([], .between)
  | mark {t : Token} (ht : t.isMark = true) (h : b ∈ marks) : Begins b ([t], .between)
  | inside {s : Lexing} (hs : s.Inside) (hproper : s.IsProper)
    (hnull : s.Promises .null → b = code 'n' ∧ s = .word ("ull".toList.map code) .null) :
    Begins b ([], s)
  | stray : Begins b ([.stray], .ended)

theorem begins (b : UInt8) : Begins b (begin b) := by
  have htext : Begins b ([], .text []) :=
    .inside trivial (by rintro t (⟨_, rfl⟩ | ⟨_, _, rfl⟩) <;> rfl)
      (by rintro (⟨_, h⟩ | ⟨_, _, h⟩) <;> cases h)
  have hnumber : ∀ part n, Begins b ([], .number part n) := fun part n =>
    .inside trivial (by rintro t (⟨_, rfl⟩ | ⟨_, rfl⟩) <;> rfl)
      (by rintro (⟨_, h⟩ | ⟨_, h⟩) <;> cases h)
  have hboolean : ∀ left x, Begins b ([], .word left (.boolean x)) := fun left x =>
    .inside trivial (by rintro t (rfl | ⟨_, _, rfl⟩) <;> rfl) (by rintro (h | ⟨_, _, h⟩) <;> cases h)
  unfold begin
  repeat' refine iteInduction (fun h => ?_) (fun _ => ?_)
  all_goals
    first
    | exact .blank h
    | exact .mark rfl (by rw [h]; decide)
    | exact htext
    | exact hnumber _ _
    | exact hboolean _ _
    | exact .inside trivial (by rintro t (rfl | ⟨_, _, rfl⟩) <;> rfl) fun _ => ⟨h, rfl⟩
    | exact .stray

/-- What one byte more does to the lexer. -/
inductive Steps (b : UInt8) (s : Lexing) : List Token × Lexing → Prop
  | begins (h : s = .between) : Steps b s (begin b)
  /-- The token was over before the byte. -/
  | wasOver {t : Token} (h : s.Promises t) : Steps b s (t :: (begin b).1, (begin b).2)
  | completes {t : Token} (h : s.Promises t) : Steps b s ([t], .between)
  | breaks {t : Token} (h : s.Promises t) : Steps b s ([t], .ended)
  | goesOn {s' : Lexing} (hs : s'.Inside) (h : s'.Promises = s.Promises) : Steps b s ([], s')
  | behind (h : s = .ended) : Steps b s ([], .ended)

theorem steps (s : Lexing) (b : UInt8) : Steps b s (s.step b) := by
  cases s with
  | between => exact .begins rfl
  | ended => exact .behind rfl
  | word left token =>
    cases left with
    | nil => exact .wasOver (.inl rfl)
    | cons w left =>
      simp only [Lexing.step]
      split
      · exact .breaks (.inr ⟨_, _, rfl⟩)
      · split
        · exact .completes (.inl rfl)
        · exact .goesOn trivial rfl
  | number part n =>
    simp only [Lexing.step]
    split
    · exact .goesOn trivial rfl
    · split
      · exact .breaks (.inr ⟨_, rfl⟩)
      · exact .wasOver (.inl ⟨_, rfl⟩)
  | text | escape =>
    simp only [Lexing.step]
    repeat' split
    all_goals
      first
      | exact .goesOn trivial rfl
      | exact .completes (.inl ⟨_, rfl⟩)
      | exact .breaks (.inr ⟨_, _, rfl⟩)
  | unit pieces digits =>
    by_cases hfull : digits.length = 3
    · obtain ⟨d₃, d₂, d₁, rfl⟩ := List.length_eq_three.1 hfull
      simp only [Lexing.step]
      split
      · exact .goesOn trivial rfl
      · exact .breaks (.inr ⟨_, _, rfl⟩)
    · rw [Lexing.step]
      · exact .goesOn trivial rfl
      · rintro d₃ d₂ d₁ rfl
        exact hfull rfl

theorem finish_of_inside {s : Lexing} (hs : s.Inside) : ∃ t, s.finish = [t] ∧ s.Promises t := by
  cases s with
  | between | ended => cases hs
  | word left token =>
    cases left with
    | nil => exact ⟨_, rfl, .inl rfl⟩
    | cons => exact ⟨_, rfl, .inr ⟨_, _, rfl⟩⟩
  | number part n =>
    refine ⟨_, rfl, ?_⟩
    split
    · exact .inl ⟨_, rfl⟩
    · exact .inr ⟨_, rfl⟩
  | text | escape | unit => exact ⟨_, rfl, .inr ⟨_, _, rfl⟩⟩

/-- The token that the lexer is inside of comes first. -/
theorem lex_of_inside {s : Lexing} (hs : s.Inside) (bytes : List UInt8) :
    ∃ t ts, lex s bytes = t :: ts ∧ s.Promises t := by
  induction bytes generalizing s with
  | nil =>
    obtain ⟨t, hfinish, ht⟩ := finish_of_inside hs
    exact ⟨t, [], hfinish, ht⟩
  | cons b bytes ih =>
    have h := steps s b
    rw [lex]
    generalize s.step b = r at h ⊢
    cases h with
    | begins h | behind h => subst h; cases hs
    | wasOver h | completes h | breaks h => exact ⟨_, _, rfl, h⟩
    | goesOn hs' h =>
      rw [← h]
      exact ih hs'

/-! ## Behind a mark -/

theorem isProper_between : Lexing.between.IsProper := nofun

theorem isProper_begin (b : UInt8) : (begin b).2.IsProper := by
  have h := begins b
  generalize begin b = r at h ⊢
  cases h with
  | blank | mark | stray => exact nofun
  | inside _ hproper => exact hproper

theorem isProper_step {s : Lexing} (hs : s.IsProper) (b : UInt8) : (s.step b).2.IsProper := by
  have h := steps s b
  generalize s.step b = r at h ⊢
  cases h with
  | begins | wasOver => exact isProper_begin b
  | completes | breaks | behind => exact nofun
  | goesOn _ h => rw [Lexing.IsProper, h]; exact hs

/-- Nothing comes behind a mark that a byte completes, and the lexer is between two tokens then. -/
theorem begin_of_mark {b : UInt8} {before after : List Token} {t : Token} (ht : t.isMark = true)
    (h : (begin b).1 = before ++ t :: after) : before = [] ∧ begin b = ([t], .between) := by
  have hone : ∀ u : Token, [u] = before ++ t :: after → before = [] ∧ u = t := by
    intro u heq
    rcases List.append_eq_singleton_iff.1 heq.symm with ⟨hnil, hcons⟩ | ⟨-, hnil⟩
    · exact ⟨hnil, (List.cons.inj hcons).1.symm⟩
    · cases hnil
  have hb := begins b
  generalize begin b = r at hb h ⊢
  cases hb with
  | mark =>
    obtain ⟨rfl, rfl⟩ := hone _ h
    exact ⟨rfl, rfl⟩
  | stray =>
    obtain ⟨-, rfl⟩ := hone _ h
    cases ht
  | _ => simp at h

theorem step_of_mark {s : Lexing} (hs : s.IsProper) {b : UInt8} {before after : List Token}
    {t : Token} (ht : t.isMark = true) (h : (s.step b).1 = before ++ t :: after) :
    s.step b = (before ++ [t], .between) := by
  have hstep := steps s b
  generalize s.step b = r at hstep h ⊢
  have hfirst : ∀ {u : Token} {us : List Token}, s.Promises u → u :: us = before ++ t :: after →
      ∃ more, before = u :: more ∧ us = more ++ t :: after := by
    intro u us hu heq
    cases before with
    | nil => cases heq; rw [hs t hu] at ht; cases ht
    | cons v before => cases heq; exact ⟨before, rfl, rfl⟩
  cases hstep with
  | begins =>
    obtain ⟨rfl, hb⟩ := begin_of_mark ht h
    exact hb
  | wasOver hu =>
    obtain ⟨more, rfl, hmore⟩ := hfirst hu h
    obtain ⟨rfl, hb⟩ := begin_of_mark ht hmore
    rw [hb]
    rfl
  | completes hu | breaks hu =>
    obtain ⟨more, rfl, hmore⟩ := hfirst hu h
    simp at hmore
  | goesOn | behind => simp at h

/-- Up to a mark the bytes are cut alike whatever comes behind it. -/
theorem lex_cut {s : Lexing} (hs : s.IsProper) {bytes : List UInt8} {before after : List Token}
    {t : Token} (ht : t.isMark = true) (h : lex s bytes = before ++ t :: after) :
    ∃ front back, bytes = front ++ back ∧ lex .between back = after ∧
      ∀ rest, lex s (front ++ rest) = before ++ t :: lex .between rest := by
  induction bytes generalizing s before with
  | nil =>
    have hin : s.Inside := by cases s <;> first | trivial | (cases before <;> cases h)
    obtain ⟨u, hfinish, hu⟩ := finish_of_inside hin
    rw [lex, hfinish] at h
    cases before with
    | nil => cases h; rw [hs t hu] at ht; cases ht
    | cons _ before => cases before <;> cases h
  | cons b bytes ih =>
    rw [lex] at h
    have hgoesOn : ∀ later, before = (s.step b).1 ++ later →
        lex (s.step b).2 bytes = later ++ t :: after →
        ∃ front back, b :: bytes = front ++ back ∧ lex .between back = after ∧
          ∀ rest, lex s (front ++ rest) = before ++ t :: lex .between rest := by
      rintro later rfl hlater
      obtain ⟨front, back, rfl, hback, hfront⟩ := ih (isProper_step hs b) hlater
      refine ⟨b :: front, back, rfl, hback, fun rest => ?_⟩
      rw [List.cons_append, lex, hfront, List.append_assoc]
    -- the mark comes later, or is among the tokens that the byte completes
    rcases List.append_eq_append_iff.1 h with ⟨later, hnow, hlater⟩ | ⟨now, hnow, hlater⟩
    · exact hgoesOn later hnow hlater
    · cases now with
      | nil => exact hgoesOn [] (by simpa using hnow.symm) hlater.symm
      | cons u now =>
        cases hlater
        have hstep := step_of_mark hs ht hnow
        obtain rfl : now = [] := by simpa [hstep] using hnow
        refine ⟨[b], bytes, rfl, ?_, fun rest => ?_⟩
        · rw [hstep]
          rfl
        · rw [List.singleton_append, lex, hstep]
          simp

/-! ## Blanks -/

theorem lex_blanks {blanks : List UInt8} (h : ∀ b ∈ blanks, isSpace b = true) (rest : List UInt8) :
    lex .between (blanks ++ rest) = lex .between rest := by
  induction blanks with
  | nil => rfl
  | cons b blanks ih =>
    have hstep : Lexing.between.step b = ([], .between) := by
      have hb := h b List.mem_cons_self
      rw [Lexing.step, begin, if_pos hb]
    rw [List.cons_append, lex, hstep]
    exact ih fun b hb => h b (List.mem_cons_of_mem _ hb)

/-- What comes before the first token is blank. -/
theorem exists_of_lex {bytes : List UInt8} {t : Token} {ts : List Token}
    (h : lex .between bytes = t :: ts) :
    ∃ blanks b rest, bytes = blanks ++ b :: rest ∧ (∀ b ∈ blanks, isSpace b = true) ∧
      isSpace b = false ∧ (begin b).1 ++ lex (begin b).2 rest = t :: ts := by
  induction bytes with
  | nil => cases h
  | cons b bytes ih =>
    cases hb : isSpace b with
    | false => exact ⟨[], b, bytes, rfl, nofun, hb, h⟩
    | true =>
      have hblank : ∀ x ∈ [b], isSpace x = true := by simpa using hb
      obtain ⟨blanks, x, rest, rfl, hblanks, hx, hlex⟩ := ih (lex_blanks hblank bytes ▸ h)
      exact ⟨b :: blanks, x, rest, rfl, List.forall_mem_cons.2 ⟨hb, hblanks⟩, hx, hlex⟩

/-- No number goes on behind a blank. -/
theorem breaks_of_blank {b : UInt8} (hb : isSpace b = true) (rest : List UInt8) :
    Breaks (b :: rest) := by
  rintro _ ⟨⟩
  simp only [isSpace, Bool.or_eq_true, decide_eq_true_eq] at hb
  rcases hb with ((rfl | rfl) | rfl) | rfl <;> decide

/-- No number goes on where a mark comes next. -/
theorem breaks_of_mark {bytes : List UInt8} {t : Token} {ts : List Token} (ht : t.isMark = true)
    (h : lex .between bytes = t :: ts) : Breaks bytes := by
  intro b hb
  obtain ⟨rest, rfl⟩ := List.head?_eq_some_iff.1 hb
  rw [lex, Lexing.step] at h
  have hbegins := begins b
  generalize begin b = r at hbegins h
  cases hbegins with
  | blank hblank => exact breaks_of_blank hblank rest b rfl
  | mark _ hmark =>
    have hall : marks.all fun b =>
        decide (isDigit b = false ∧ b ≠ code '.' ∧ b ≠ code 'e' ∧ b ≠ code 'E') := by decide
    exact of_decide_eq_true (List.all_eq_true.1 hall b hmark)
  | inside hs hproper =>
    obtain ⟨u, us, hfirst, hu⟩ := lex_of_inside hs rest
    rw [List.nil_append, hfirst] at h
    cases h
    rw [hproper t hu] at ht
    cases ht
  | stray => cases h; cases ht

/-- Blanks between two tokens are not there for the lexer. -/
theorem tokens_spaced {before after blanks : List UInt8}
    (hsound : ∀ t ∈ tokens before, t.isSound = true)
    (hcut : tokens (before ++ after) = tokens before ++ tokens after)
    (hblanks : ∀ b ∈ blanks, isSpace b = true) :
    tokens (before ++ (blanks ++ after)) = tokens (before ++ after) := by
  cases blanks with
  | nil => rfl
  | cons b blanks =>
    have hbreaks : Breaks (b :: blanks ++ after) :=
      breaks_of_blank (hblanks b List.mem_cons_self) (blanks ++ after)
    rw [hcut]
    simp only [tokens_eq_lex] at hsound ⊢
    rw [lex_append Lexing.noConfusion hsound hbreaks, lex_blanks hblanks]

/-- The letters that are left of a word. -/
theorem exists_of_lex_word {left : List UInt8} (hleft : left ≠ []) {token : Token}
    (ht : token.isSound = true) {bytes : List UInt8} {ts : List Token}
    (h : lex (.word left token) bytes = token :: ts) :
    ∃ rest, bytes = left ++ rest ∧ lex .between rest = ts := by
  have hbroken : ∀ null stop, Token.brokenWord null stop ≠ token := by
    rintro null stop rfl
    cases ht
  induction left generalizing bytes with
  | nil => exact absurd rfl hleft
  | cons w left ih =>
    cases bytes with
    | nil => exact (hbroken _ _ (List.cons.inj h).1).elim
    | cons b bytes =>
      rw [lex, Lexing.step] at h
      by_cases hb : b ≠ w
      · rw [if_pos hb] at h
        exact (hbroken _ _ (List.cons.inj h).1).elim
      · rw [if_neg hb] at h
        obtain rfl : b = w := not_not.1 hb
        by_cases hlast : left.isEmpty = true
        · rw [if_pos hlast] at h
          cases h
          obtain rfl := List.isEmpty_iff.1 hlast
          exact ⟨bytes, rfl, rfl⟩
        · rw [if_neg hlast] at h
          obtain ⟨rest, rfl, hrest⟩ := ih (fun hnil => hlast (List.isEmpty_iff.2 hnil)) h
          exact ⟨rest, rfl, hrest⟩

/-- The bytes of a word, found by its token. -/
theorem exists_null {bytes : List UInt8} {ts : List Token} (h : lex .between bytes = .null :: ts) :
    ∃ blanks rest, bytes = blanks ++ (utf8 "null".toList ++ rest) ∧
      (∀ b ∈ blanks, isSpace b = true) ∧ lex .between rest = ts := by
  obtain ⟨blanks, b, rest, rfl, hblanks, hb, hlex⟩ := exists_of_lex h
  have hbegins := begins b
  generalize begin b = r at hbegins hlex
  cases hbegins with
  | blank hblank => rw [hblank] at hb; cases hb
  | mark ht => cases hlex; cases ht
  | stray => cases hlex
  | inside hs hproper hnull =>
    obtain ⟨u, us, hfirst, hu⟩ := lex_of_inside hs rest
    rw [List.nil_append] at hlex
    rw [hlex] at hfirst
    cases hfirst
    obtain ⟨rfl, rfl⟩ := hnull hu
    obtain ⟨rest, rfl, hrest⟩ := exists_of_lex_word (by decide) rfl hlex
    exact ⟨blanks, rest, rfl, hblanks, hrest⟩

end TrackResolver.Json
