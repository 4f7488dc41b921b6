import TrackResolver.Proofs.Json.Reading

/-!
# A document inside another

The text of a whole document can stand as a value inside a longer one. The lexer cuts it into the same
tokens there, as a value is over where a comma or a bracket follows, and the parser builds the same
tree, in whatever containers it stands.

Results:
* `lex_append`: the tokens of sound bytes, whatever is behind them.
* `lifts_run`: the parser inside other containers.
* `holds_of_parse`: a document that holds one value and nothing else.
* `Spells`: the text of a value in any layout.
* `holds_of_readWhole`: a document that is read as a whole.
-/
namespace TrackResolver.Json

open Reading

/-! ## Tokens -/

/-- The token can be finished. -/
def Token.isSound : Token → Bool
  | brokenWord .. | brokenNumber _ | brokenText .. | stray => false
  | _ => true

/-- The lexer goes on, or a token is not sound. -/
def GoesOn (r : List Token × Lexing) : Prop := r.2 ≠ .ended ∨ ∃ t ∈ r.1, t.isSound = false

theorem goesOn_of_broken {t : Token} (h : t.isSound = false) (s : Lexing) : GoesOn ([t], s) :=
  .inr ⟨t, List.mem_singleton.2 rfl, h⟩

theorem GoesOn.cons {r : List Token × Lexing} (h : GoesOn r) (t : Token) : GoesOn (t :: r.1, r.2) :=
  h.imp_right fun ⟨u, hu, hbad⟩ => ⟨u, List.mem_cons_of_mem _ hu, hbad⟩

theorem begin_goesOn (b : UInt8) : GoesOn (begin b) := by
  unfold begin
  repeat' refine iteInduction (fun _ => ?_) (fun _ => ?_)
  all_goals first | exact .inl Lexing.noConfusion | exact goesOn_of_broken rfl _

theorem step_goesOn {s : Lexing} (hs : s ≠ .ended) (b : UInt8) : GoesOn (s.step b) := by
  cases s with
  | between => exact begin_goesOn b
  | ended => exact absurd rfl hs
  | word left token =>
    cases left with
    | nil => exact (begin_goesOn b).cons token
    | cons w left =>
      simp only [Lexing.step]
      split
      · exact goesOn_of_broken rfl _
      · split <;> exact .inl Lexing.noConfusion
  | number part n =>
    simp only [Lexing.step]
    split
    · exact .inl Lexing.noConfusion
    · split
      · exact goesOn_of_broken rfl _
      · exact (begin_goesOn b).cons _
  | text | escape =>
    simp only [Lexing.step]
    repeat' split
    all_goals first | exact .inl Lexing.noConfusion | exact goesOn_of_broken rfl _
  | unit pieces digits =>
    by_cases hfull : digits.length = 3
    · obtain ⟨d₃, d₂, d₁, rfl⟩ := List.length_eq_three.1 hfull
      simp only [Lexing.step]
      split
      · exact .inl Lexing.noConfusion
      · exact goesOn_of_broken rfl _
    · rw [Lexing.step]
      · exact .inl Lexing.noConfusion
      · rintro d₃ d₂ d₁ rfl
        exact hfull rfl

/-- Sound bytes are cut alike whatever is behind them, and what is behind them is cut on its own. -/
theorem lex_append {s : Lexing} {bytes rest : List UInt8} (hs : s ≠ .ended)
    (h : ∀ t ∈ lex s bytes, t.isSound = true) (hrest : Breaks rest) :
    lex s (bytes ++ rest) = lex s bytes ++ lex .between rest := by
  induction bytes generalizing s with
  | nil =>
    rw [lex] at h ⊢
    cases s with
    | between => rfl
    | word left token =>
      cases left with
      | nil => cases rest <;> rfl
      | cons w left => cases h _ (List.mem_singleton.2 rfl)
    | number part n =>
      cases hpart : part.final with
      | true => rw [Lexing.finish, if_pos hpart]; exact lex_number_end part hpart n hrest
      | false =>
        rw [Lexing.finish, hpart] at h
        cases h _ (List.mem_singleton.2 rfl)
    | text | escape | unit => cases h _ (List.mem_singleton.2 rfl)
    | ended => exact absurd rfl hs
  | cons b bytes ih =>
    rw [lex] at h
    have hstep : (s.step b).2 ≠ .ended := by
      refine (step_goesOn hs b).resolve_right ?_
      rintro ⟨t, ht, hbad⟩
      rw [h t (List.mem_append_left _ ht)] at hbad
      cases hbad
    rw [List.cons_append, lex, lex, ih hstep fun t ht => h t (List.mem_append_right _ ht),
      List.append_assoc]

/-! ## Trees -/

/-- What grows inside the containers `outer` instead of alone. A value that is finished is put where
it was expected; where the text is spoiled, anything may become of it. -/
inductive Lifts (outer : List Level) : Growth → Growth → Prop
  | growing (inner : List Level) : Lifts outer (.growing inner) (.growing (inner ++ outer))
  | grown (n : Node) : Lifts outer (.grown n false) (plug n outer)
  | spoiled (n : Node) (g : Growth) : Lifts outer (.grown n true) g

section
variable {outer : List Level}

theorem lifts_plug (n : Node) (inner : List Level) :
    Lifts outer (plug n inner) (plug n (inner ++ outer)) := by
  cases inner with
  | nil => exact .grown n
  | cons level inner =>
    cases level with
    | item | value => exact .growing (_ :: inner)
    | _ => exact .spoiled ..

theorem lifts_atValue (t : Token) (inner : List Level) :
    Lifts outer (atValue t inner) (atValue t (inner ++ outer)) := by
  cases t with
  | null | boolean | number | text => exact lifts_plug _ inner
  | openArray | openObject => exact .growing (_ :: inner)
  | _ => exact .spoiled ..

theorem lifts_step (ho : Awaits outer) {g g' : Growth} (h : Lifts outer g g') (t : Token) :
    Lifts outer (g.step t) (g'.step t) := by
  cases h with
  | grown n | spoiled n => exact .spoiled ..
  | growing inner =>
    cases inner with
    | nil =>
      by_cases ht : t = .closeArray
      · subst ht
        exact .spoiled ..
      · rw [List.nil_append, step_of_awaits ho ht]
        exact lifts_atValue t []
    | cons level inner =>
      rw [List.cons_append]
      simp only [Growth.step]
      split
      all_goals
        first
        | exact .growing (_ :: inner)
        | exact .spoiled ..
        | exact lifts_plug _ inner
        | exact lifts_atValue _ (_ :: inner)

theorem lifts_run (ho : Awaits outer) {g g' : Growth} (h : Lifts outer g g') (ts : List Token) :
    Lifts outer (g.run ts) (g'.run ts) := by
  induction ts generalizing g g' with
  | nil => exact h
  | cons t ts ih => exact ih (lifts_step ho h t)

end

/-- A token that is not sound spoils the tree. -/
theorem step_of_not_sound (g : Growth) {t : Token} (h : t.isSound = false) :
    ∃ n, g.step t = .grown n true := by
  cases g with
  | grown n more => exact ⟨n, rfl⟩
  | growing levels =>
    cases levels with
    | nil => cases t <;> first | exact ⟨_, rfl⟩ | cases h
    | cons level levels =>
      simp only [Growth.step]
      split <;> first | exact ⟨_, rfl⟩ | cases h | (cases t <;> first | exact ⟨_, rfl⟩ | cases h)

theorem run_spoiled (n : Node) (ts : List Token) : (Growth.grown n true).run ts = .grown n true := by
  induction ts with
  | nil => rfl
  | cons t ts ih => exact ih

theorem sound_of_run {g : Growth} {ts : List Token} {n : Node} (h : g.run ts = .grown n false) :
    ∀ t ∈ ts, t.isSound = true := by
  induction ts generalizing g with
  | nil => exact nofun
  | cons t ts ih =>
    refine List.forall_mem_cons.2 ⟨?_, ih h⟩
    cases hsound : t.isSound with
    | true => rfl
    | false =>
      obtain ⟨n', hstep⟩ := step_of_not_sound g hsound
      rw [Growth.run_cons, hstep, run_spoiled] at h
      cases h

/-! ## Trees that stop -/

theorem skip_cutAt (s : Stop) (n : Node) (level : Level) :
    (level.cutAt s n).skip = .error (.stopped s) := by
  cases level <;> rfl

theorem skip_foldl_cutAt {s : Stop} {n : Node} (h : n.skip = .error (.stopped s))
    (levels : List Level) :
    (levels.foldl (fun n level => level.cutAt s n) n).skip = .error (.stopped s) := by
  induction levels generalizing n with
  | nil => exact h
  | cons level levels ih => exact ih (skip_cutAt s n level)

/-- A tree that is still growing when the document ends stops there. -/
theorem skip_finish (levels : List Level) :
    (Growth.growing levels).finish.1.skip = .error (.stopped .unfinished) := by
  unfold Growth.finish
  dsimp only
  split
  · next h =>
    split at h <;> cases h <;> exact skip_foldl_cutAt rfl _
  · rfl

/-! ## Documents -/

/-- A document that holds a value and nothing else is the text of that value. -/
theorem holds_of_parse {bytes : List UInt8} {n : Node} (h : Json.parse bytes = (n, false))
    (hn : n.skip = .ok ()) : Holds bytes n := by
  rw [Json.parse, tokens_eq_lex] at h
  have hgrown : (Growth.growing []).run (lex .between bytes) = .grown n false := by
    cases hrun : (Growth.growing []).run (lex .between bytes) with
    | grown n' more =>
      rw [hrun] at h
      cases h
      rfl
    | growing levels =>
      have hstop := skip_finish levels
      rw [hrun] at h
      rw [h, hn] at hstop
      cases hstop
  intro levels rest hlevels hrest
  rw [lex_append Lexing.noConfusion (sound_of_run hgrown) hrest.breaks, Growth.run_append]
  have hlift : Lifts levels ((Growth.growing []).run (lex .between bytes))
      ((Growth.growing levels).run (lex .between bytes)) :=
    lifts_run hlevels (.growing []) _
  rw [hgrown] at hlift
  generalize (Growth.growing levels).run (lex .between bytes) = g at hlift ⊢
  cases hlift with
  | grown => rfl

/-- The tree of a value does not stop anywhere. -/
theorem skip_node (v : Value) : v.node.skip = .ok () := by
  cases v <;> rfl

/-- The text is that of `v`, with the members of its objects in any order and with blanks wherever
there may be some. -/
def Spells (text : List UInt8) (v : Value) : Prop :=
  ∃ w, v.Rearranges w ∧ Json.parse text = (w.node, false)

theorem spells_render (v : Value) : Spells (utf8 v.renderList) v :=
  ⟨v, .same v, (holds_render v).parse⟩

theorem Spells.holds {text : List UInt8} {v : Value} (h : Spells text v) :
    ∃ w, v.Rearranges w ∧ Holds text w.node := by
  obtain ⟨w, hw, hp⟩ := h
  exact ⟨w, hw, holds_of_parse hp (skip_node w)⟩

/-! ## Readers -/

/-- A value that is read is all there. -/
def Reader.Minds {α : Type} (read : Reader α) : Prop := ∀ n a, read n = .ok a → n.skip = .ok ()

theorem exists_of_bind {ε α β : Type} {x : Except ε α} {f : α → Except ε β} {b : β}
    (h : x >>= f = .ok b) : ∃ a, x = .ok a ∧ f a = .ok b := by
  cases x with
  | error why => cases h
  | ok a => exact ⟨a, rfl, h⟩

theorem map_eq_ok_iff {ε α β : Type} {x : Except ε α} {g : α → β} {b : β} :
    x.map g = .ok b ↔ ∃ a, x = .ok a ∧ g a = b := by
  cases x with
  | error why => exact iff_of_false nofun nofun
  | ok a =>
    exact ⟨fun h => ⟨a, rfl, Except.ok.inj h⟩, fun ⟨_, ha, hb⟩ => by cases ha; exact congrArg _ hb⟩

section
variable {τ : Type} (r : Record Node τ)

theorem check_of_readItems {ending : Ending} {left : List (Field Node τ)} {items : List Node}
    {x a : τ} (h : readItems r ending left items x = .ok a) : ending.check = .ok () := by
  induction left generalizing items x with
  | nil =>
    cases items with
    | nil => obtain ⟨_, hcheck, -⟩ := exists_of_bind h; exact hcheck
    | cons => cases h
  | cons f left ih =>
    cases items with
    | nil => obtain ⟨_, hcheck, -⟩ := exists_of_bind h; exact hcheck
    | cons item items => obtain ⟨y, -, hrest⟩ := exists_of_bind h; exact ih hrest

/-- An object is read as a record when its members can be gone through and none is missed. -/
theorem readRecord_closed_iff {members : List (Node × Node)} {a : τ} :
    readRecord r (.object members .closed) = .ok a ↔
      ∃ p, members.foldlM (readMember r) ⟨[], r.blank⟩ = .ok p ∧
        Record.missing? r.fields p.seen = none ∧ p.value = a := by
  rw [readRecord, readMembers]
  constructor
  · intro hread
    obtain ⟨p, hp, hrest⟩ := exists_of_bind hread
    obtain ⟨_, -, hrest⟩ := exists_of_bind hrest
    refine ⟨p, hp, ?_⟩
    split at hrest
    · cases hrest
    · next hmissing => exact ⟨hmissing, Except.ok.inj hrest⟩
  · rintro ⟨p, hp, hmissing, rfl⟩
    rw [hp]
    simp [hmissing, Ending.check, bind, Except.bind, pure, Except.pure]

theorem minds_readRecord : Reader.Minds (readRecord r) := by
  intro n a h
  cases n with
  | object members ending =>
    obtain ⟨p, -, hrest⟩ := exists_of_bind h
    obtain ⟨_, hcheck, -⟩ := exists_of_bind hrest
    exact hcheck
  | array items ending => exact check_of_readItems r h
  | _ => cases h

end

theorem Reader.Minds.option {α : Type} {read : Reader α} (h : Reader.Minds read) :
    Reader.Minds (readOption read) := by
  intro n a hn
  unfold readOption at hn
  split at hn
  · rfl
  · cases hn
  · obtain ⟨b, hb, -⟩ := map_eq_ok_iff.1 hn
    exact h _ b hb

/-- A document that is read as a whole is the text of a value that is read as the same. -/
theorem holds_of_readWhole {α : Type} {read : Reader α} (hread : Reader.Minds read)
    {bytes : List UInt8} {a : α} (h : readWhole read bytes = .ok a) :
    ∃ n, Holds bytes n ∧ read n = .ok a := by
  cases hp : parse bytes with
  | mk n more =>
    rw [readWhole, hp] at h
    obtain ⟨b, hn, hmore⟩ := exists_of_bind h
    cases more with
    | true => cases hmore
    | false =>
      cases hmore
      exact ⟨n, holds_of_parse hp (hread n a hn), hn⟩

end TrackResolver.Json
