import TrackResolver.Proofs.Json.Cutting

/-!
# The text of a tree

A tree that is whole is written as its tokens, one after another, with blanks between them as one
likes. The parser finds the tree of every text that is written so, and each tree that it finds whole is
written so in the text.

Results:
* `IsTreeOf`: a text is that of a whole tree.
* `isTreeOf_iff`: it is if the parser finds the tree and nothing behind it.
* `exists_document`: a text that begins with a tree.
* `readWhole_eq_ok_iff`, `readFirst_eq_ok_iff`: which documents are read.
-/
namespace TrackResolver.Json

open Reading

/-! ## What is written -/

/-- All of the value is there, with a text before each colon. -/
inductive Node.IsWhole : Node → Prop
  | null : IsWhole .null
  | boolean (b : Bool) : IsWhole (.boolean b)
  | number (n : Numeral) : IsWhole (.number n)
  | text (pieces : List Piece) : IsWhole (.text pieces .closed)
  | array {items : List Node} (h : ∀ n ∈ items, n.IsWhole) : IsWhole (.array items .closed)
  | object {members : List (Node × Node)} (hnames : ∀ m ∈ members, ∃ pieces, m.1 = .text pieces .closed)
    (h : ∀ m ∈ members, m.2.IsWhole) : IsWhole (.object members .closed)

/-- With commas between them. -/
def separated : List (List Token) → List Token
  | [] => []
  | [ts] => ts
  | ts :: us :: rest => ts ++ .comma :: separated (us :: rest)

mutual
/-- The tokens of a value that is whole. -/
def Node.written : Node → List Token
  | .null => [.null]
  | .boolean b => [.boolean b]
  | .number n => [.number n]
  | .text pieces _ => [.text pieces]
  | .array items _ => .openArray :: (separated (itemsWritten items) ++ [.closeArray])
  | .object members _ => .openObject :: (separated (membersWritten members) ++ [.closeObject])
  | .brokenWord .. | .brokenNumber _ | .nothing _ => []

def itemsWritten : List Node → List (List Token)
  | [] => []
  | n :: rest => n.written :: itemsWritten rest

def membersWritten : List (Node × Node) → List (List Token)
  | [] => []
  | (k, n) :: rest => (k.written ++ .colon :: n.written) :: membersWritten rest
end

/-- The tokens of a member. -/
def memberWritten (m : Node × Node) : List Token := m.1.written ++ .colon :: m.2.written

theorem itemsWritten_eq_map (items : List Node) : itemsWritten items = items.map Node.written := by
  induction items with
  | nil => rfl
  | cons n rest ih => rw [itemsWritten, ih, List.map_cons]

theorem membersWritten_eq_map (members : List (Node × Node)) :
    membersWritten members = members.map memberWritten := by
  induction members with
  | nil => rfl
  | cons m rest ih =>
    obtain ⟨k, n⟩ := m
    rw [membersWritten, ih, List.map_cons]
    rfl

/-- The text is that of the tree. -/
def Node.IsTreeOf (n : Node) (text : List UInt8) : Prop := n.IsWhole ∧ tokens text = n.written

/-- With a comma behind each. -/
def commaed (written : List (List Token)) : List Token := written.flatMap (· ++ [.comma])

theorem separated_append (front : List (List Token)) {back : List (List Token)} (h : back ≠ []) :
    separated (front ++ back) = commaed front ++ separated back := by
  induction front with
  | nil => rfl
  | cons ts front ih =>
    have hcons : separated ((ts :: front) ++ back) = ts ++ .comma :: separated (front ++ back) := by
      cases hrest : front ++ back with
      | nil => exact absurd (List.append_eq_nil_iff.1 hrest).2 h
      | cons => rw [List.cons_append, hrest]; rfl
    rw [hcons, ih, commaed, commaed, List.flatMap_cons]
    simp

theorem separated_concat (written : List (List Token)) (ts : List Token) :
    separated (written ++ [ts]) = commaed written ++ ts :=
  separated_append written (List.cons_ne_nil ts [])

theorem separated_comma {written : List (List Token)} (h : written ≠ []) :
    separated written ++ [.comma] = commaed written := by
  rcases List.eq_nil_or_concat' written with rfl | ⟨front, ts, rfl⟩
  · exact absurd rfl h
  · simp [separated_concat, commaed]

/-! ## Reading what is written -/

section
variable {levels : List Level}

theorem run_items {items : List Node}
    (h : ∀ n ∈ items, ∀ {levels : List Level}, Awaits levels → ∀ rest,
      (Growth.growing levels).run (n.written ++ rest) = (plug n levels).run rest)
    (acc : List Node) (first : Bool) (rest : List Token)
    (hempty : items = [] → acc = [] ∧ first = true) :
    (Growth.growing (.item acc first :: levels)).run
        (separated (items.map Node.written) ++ .closeArray :: rest) =
      (plug (.array (acc.reverse ++ items) .closed) levels).run rest := by
  induction items generalizing acc first with
  | nil =>
    obtain ⟨rfl, rfl⟩ := hempty rfl
    rfl
  | cons n items ih =>
    obtain ⟨hn, hitems⟩ := List.forall_mem_cons.1 h
    have hawaits : Awaits (.item acc first :: levels) := trivial
    cases items with
    | nil =>
      have hone : separated ([n].map Node.written) = n.written := rfl
      rw [hone, hn hawaits, plug, Growth.run_cons]
      simp [Growth.step]
    | cons m items =>
      have hmore : separated ((n :: m :: items).map Node.written) ++ .closeArray :: rest =
          n.written ++ .comma :: (separated ((m :: items).map Node.written) ++ .closeArray :: rest) := by
        simp [separated]
      rw [hmore, hn hawaits, plug, Growth.run_cons]
      have hnext := ih hitems (n :: acc) false (by simp)
      simpa [Growth.step] using hnext

theorem run_members {members : List (Node × Node)}
    (hnames : ∀ m ∈ members, ∃ pieces, m.1 = .text pieces .closed)
    (h : ∀ m ∈ members, ∀ {levels : List Level}, Awaits levels → ∀ rest,
      (Growth.growing levels).run (m.2.written ++ rest) = (plug m.2 levels).run rest)
    (acc : List (Node × Node)) (first : Bool) (rest : List Token)
    (hempty : members = [] → acc = [] ∧ first = true) :
    (Growth.growing (.name acc first :: levels)).run
        (separated (members.map memberWritten) ++ .closeObject :: rest) =
      (plug (.object (acc.reverse ++ members) .closed) levels).run rest := by
  induction members generalizing acc first with
  | nil =>
    obtain ⟨rfl, rfl⟩ := hempty rfl
    rfl
  | cons m members ih =>
    obtain ⟨⟨pieces, hname⟩, htexts⟩ := List.forall_mem_cons.1 hnames
    obtain ⟨hm, hmembers⟩ := List.forall_mem_cons.1 h
    obtain ⟨k, n⟩ := m
    subst hname
    -- up to where the value is expected, then the value
    have hawaits : Awaits (.value acc (.text pieces .closed) :: levels) := trivial
    have hfront : ∀ more, (Growth.growing (.name acc first :: levels)).run
        (memberWritten (.text pieces .closed, n) ++ more) =
          (Growth.growing (.afterMember ((.text pieces .closed, n) :: acc) :: levels)).run more :=
      fun more => hm hawaits more
    cases members with
    | nil =>
      have hone : separated ([(Node.text pieces .closed, n)].map memberWritten) =
          memberWritten (.text pieces .closed, n) := rfl
      rw [hone, hfront, Growth.run_cons]
      simp [Growth.step]
    | cons m members =>
      have hmore : separated (((Node.text pieces .closed, n) :: m :: members).map memberWritten) ++
          .closeObject :: rest = memberWritten (.text pieces .closed, n) ++
            .comma :: (separated ((m :: members).map memberWritten) ++ .closeObject :: rest) := by
        simp [separated]
      rw [hmore, hfront, Growth.run_cons]
      have hnext := ih htexts hmembers ((.text pieces .closed, n) :: acc) false (by simp)
      simpa [Growth.step] using hnext

/-- The tokens of a tree are read as the tree, wherever a value is expected. -/
theorem run_written {n : Node} (hn : n.IsWhole) (hlevels : Awaits levels) (rest : List Token) :
    (Growth.growing levels).run (n.written ++ rest) = (plug n levels).run rest := by
  induction hn generalizing levels rest with
  | null | boolean | number | text =>
    rw [Node.written, List.singleton_append, Growth.run_cons, step_of_awaits hlevels (by simp)]
    rfl
  | @array items _ ih =>
    rw [Node.written, itemsWritten_eq_map, List.cons_append, Growth.run_cons,
      step_of_awaits hlevels (by simp), List.append_assoc]
    exact run_items (fun n hn _ h rest => ih n hn h rest) [] true rest fun _ => ⟨rfl, rfl⟩
  | @object members hnames _ ih =>
    rw [Node.written, membersWritten_eq_map, List.cons_append, Growth.run_cons,
      step_of_awaits hlevels (by simp), List.append_assoc]
    exact run_members hnames (fun m hm _ h rest => ih m hm h rest) [] true rest fun _ => ⟨rfl, rfl⟩

end

theorem Node.IsWhole.run {n : Node} (h : n.IsWhole) :
    (Growth.growing []).run n.written = .grown n false := by
  have hawaits : Awaits [] := trivial
  have hrun := run_written h hawaits []
  rwa [List.append_nil] at hrun

theorem Node.IsWhole.sound {n : Node} (h : n.IsWhole) : ∀ t ∈ n.written, t.isSound = true :=
  sound_of_run h.run

theorem Node.IsTreeOf.parse {n : Node} {text : List UInt8} (h : n.IsTreeOf text) :
    Json.parse text = (n, false) := by
  rw [Json.parse, h.2, h.1.run]
  rfl

/-! ## What has been read is written -/

/-- The tokens of an open container up to where it stands. -/
def Level.before : Level → List Token
  | item items _ => .openArray :: commaed (items.reverse.map Node.written)
  | afterItem items => .openArray :: separated (items.reverse.map Node.written)
  | name members _ => .openObject :: commaed (members.reverse.map memberWritten)
  | colon members k => .openObject :: (commaed (members.reverse.map memberWritten) ++ k.written)
  | value members k =>
    .openObject :: (commaed (members.reverse.map memberWritten) ++ (k.written ++ [.colon]))
  | afterMember members => .openObject :: separated (members.reverse.map memberWritten)

/-- The members are there in full. -/
def AreWhole (members : List (Node × Node)) : Prop :=
  ∀ m ∈ members, (∃ pieces, m.1 = .text pieces .closed) ∧ m.2.IsWhole

/-- What the container holds is there in full, and something is there where it has to be. -/
def Level.IsSound : Level → Prop
  | item items first => (∀ n ∈ items, n.IsWhole) ∧ (first = true → items = [])
  | afterItem items => (∀ n ∈ items, n.IsWhole) ∧ items ≠ []
  | name members first => AreWhole members ∧ (first = true → members = [])
  | colon members k | value members k => AreWhole members ∧ ∃ pieces, k = .text pieces .closed
  | afterMember members => AreWhole members ∧ members ≠ []

/-- The tokens of the open containers, outermost first. -/
def opened : List Level → List Token
  | [] => []
  | level :: levels => opened levels ++ level.before

/-- These tokens have been read when the tree is on its way. A tree that stops somewhere may be
anything. -/
inductive Reached (ts : List Token) : Growth → Prop
  | growing {levels : List Level} (h : ∀ level ∈ levels, level.IsSound) (hts : ts = opened levels) :
    Reached ts (.growing levels)
  | grown {n : Node} {more : Bool} (h : n.skip = .ok () →
      n.IsWhole ∧ ∃ rest, ts = n.written ++ rest ∧ (more = false → rest = [])) :
    Reached ts (.grown n more)

section
variable {ts : List Token} {levels : List Level}

theorem reached_cut {s : Stop} {n : Node} (h : n.skip = .error (.stopped s)) (levels : List Level) :
    Reached ts (cut s n levels) :=
  .grown fun hskip => by rw [skip_foldl_cutAt h levels] at hskip; cases hskip

theorem reached_cut_inside (s : Stop) (n : Node) (level : Level) (levels : List Level) :
    Reached ts (cut s n (level :: levels)) :=
  .grown fun hskip => by
    rw [List.foldl_cons, skip_foldl_cutAt (skip_cutAt s n level) levels] at hskip
    cases hskip

theorem reached_plug {n : Node} (hn : n.IsWhole) (h : ∀ level ∈ levels, level.IsSound)
    (hts : ts = opened levels ++ n.written) : Reached ts (plug n levels) := by
  cases levels with
  | nil => exact .grown fun _ => ⟨hn, [], by simpa [opened] using hts, fun _ => rfl⟩
  | cons level levels =>
    obtain ⟨hlevel, hlevels⟩ := List.forall_mem_cons.1 h
    cases level with
    | item items first =>
      refine .growing (List.forall_mem_cons.2 ⟨⟨?_, List.cons_ne_nil _ _⟩, hlevels⟩) ?_
      · exact List.forall_mem_cons.2 ⟨hn, hlevel.1⟩
      · rw [hts, opened, opened, Level.before, Level.before, List.reverse_cons, List.map_append,
          List.map_singleton, separated_concat]
        simp
    | value members k =>
      refine .growing (List.forall_mem_cons.2 ⟨⟨?_, List.cons_ne_nil _ _⟩, hlevels⟩) ?_
      · exact List.forall_mem_cons.2 ⟨⟨hlevel.2, hn⟩, hlevel.1⟩
      · rw [hts, opened, opened, Level.before, Level.before, List.reverse_cons, List.map_append,
          List.map_singleton, separated_concat]
        simp [memberWritten]
    | _ => exact reached_cut rfl _

theorem reached_atValue (t : Token) (h : ∀ level ∈ levels, level.IsSound) :
    Reached (opened levels ++ [t]) (atValue t levels) := by
  cases t with
  | null => exact reached_plug .null h rfl
  | boolean b => exact reached_plug (.boolean b) h rfl
  | number n => exact reached_plug (.number n) h rfl
  | text pieces => exact reached_plug (.text pieces) h rfl
  | openArray => exact .growing (List.forall_mem_cons.2 ⟨⟨nofun, fun _ => rfl⟩, h⟩) rfl
  | openObject => exact .growing (List.forall_mem_cons.2 ⟨⟨nofun, fun _ => rfl⟩, h⟩) rfl
  | _ => exact reached_cut rfl _

theorem AreWhole.object {members : List (Node × Node)} (h : AreWhole members) :
    (Node.object members.reverse .closed).IsWhole :=
  .object (fun m hm => (h m (List.mem_reverse.1 hm)).1) fun m hm => (h m (List.mem_reverse.1 hm)).2

theorem reached_step_inside {level : Level} (h : ∀ l ∈ level :: levels, l.IsSound) (t : Token) :
    Reached (opened (level :: levels) ++ [t]) ((Growth.growing (level :: levels)).step t) := by
  obtain ⟨hlevel, hlevels⟩ := List.forall_mem_cons.1 h
  have hgoesOn : ∀ next : Level, next.IsSound → level.before ++ [t] = next.before →
      Reached (opened (level :: levels) ++ [t]) (.growing (next :: levels)) := by
    intro next hnext hbefore
    refine .growing (List.forall_mem_cons.2 ⟨hnext, hlevels⟩) ?_
    rw [opened, opened, List.append_assoc, hbefore]
  have hends : ∀ {n : Node}, n.IsWhole → level.before ++ [t] = n.written →
      Reached (opened (level :: levels) ++ [t]) (plug n levels) := by
    intro n hn hbefore
    refine reached_plug hn hlevels ?_
    rw [opened, List.append_assoc, hbefore]
  cases level with
  | item items first =>
    by_cases ht : t = .closeArray
    · subst ht
      cases items with
      | cons => exact reached_atValue _ h
      | nil =>
        cases first with
        | true => exact hends (.array nofun) rfl
        | false => exact reached_atValue _ h
    · have hawaits : Awaits (.item items first :: levels) := trivial
      rw [step_of_awaits hawaits ht]
      exact reached_atValue t h
  | afterItem items =>
    have hne : items.reverse.map Node.written ≠ [] := by simpa using hlevel.2
    cases t with
    | comma =>
      refine hgoesOn (.item items false) ⟨hlevel.1, nofun⟩ ?_
      rw [Level.before, Level.before, List.cons_append, separated_comma hne]
    | closeArray =>
      refine hends (.array fun n hn => hlevel.1 n (List.mem_reverse.1 hn)) ?_
      rw [Level.before, Node.written, itemsWritten_eq_map, List.cons_append]
    | _ => exact reached_cut rfl _
  | name members first =>
    cases t with
    | text pieces =>
      refine hgoesOn (.colon members (.text pieces .closed)) ⟨hlevel.1, pieces, rfl⟩ ?_
      rw [Level.before, Level.before, List.cons_append, Node.written]
    | closeObject =>
      cases members with
      | cons => exact reached_cut_inside _ _ _ _
      | nil =>
        cases first with
        | true => exact hends (.object nofun nofun) rfl
        | false => exact reached_cut_inside _ _ _ _
    | _ => exact reached_cut_inside _ _ _ _
  | colon members k =>
    cases t with
    | colon =>
      refine hgoesOn (.value members k) hlevel ?_
      rw [Level.before, Level.before, List.cons_append, List.append_assoc]
    | _ => exact reached_cut_inside _ _ _ _
  | value members k => exact reached_atValue t h
  | afterMember members =>
    have hne : members.reverse.map memberWritten ≠ [] := by simpa using hlevel.2
    cases t with
    | comma =>
      refine hgoesOn (.name members false) ⟨hlevel.1, nofun⟩ ?_
      rw [Level.before, Level.before, List.cons_append, separated_comma hne]
    | closeObject =>
      refine hends hlevel.1.object ?_
      rw [Level.before, Node.written, membersWritten_eq_map, List.cons_append]
    | _ => exact reached_cut rfl _

theorem reached_step {g : Growth} (h : Reached ts g) (t : Token) : Reached (ts ++ [t]) (g.step t) := by
  cases h with
  | @grown n more h =>
    refine .grown fun hskip => ?_
    obtain ⟨hn, rest, rfl, -⟩ := h hskip
    exact ⟨hn, rest ++ [t], by rw [List.append_assoc], nofun⟩
  | @growing levels h hts =>
    subst hts
    cases levels with
    | nil => exact reached_atValue t h
    | cons level levels => exact reached_step_inside h t

theorem reached_run {g : Growth} (h : Reached ts g) (more : List Token) :
    Reached (ts ++ more) (g.run more) := by
  induction more generalizing ts g with
  | nil => rwa [List.append_nil]
  | cons t more ih =>
    have hmore := ih (reached_step h t)
    rwa [List.append_assoc] at hmore

end

/-- A tree that is found whole is written where the text begins. -/
theorem written_of_parse {text : List UInt8} {n : Node} {more : Bool}
    (h : Json.parse text = (n, more)) (hn : n.skip = .ok ()) :
    n.IsWhole ∧ ∃ rest, tokens text = n.written ++ rest ∧ (more = false → rest = []) := by
  have hstart : Reached [] (.growing []) := .growing nofun rfl
  have hreached : Reached (tokens text) ((Growth.growing []).run (tokens text)) :=
    reached_run hstart (tokens text)
  rw [Json.parse] at h
  generalize (Growth.growing []).run (tokens text) = g at h hreached
  cases hreached with
  | @growing levels =>
    have hstop := skip_finish levels
    rw [h, hn] at hstop
    cases hstop
  | grown hgrown =>
    cases h
    exact hgrown hn

theorem Node.IsWhole.skip {n : Node} (h : n.IsWhole) : n.skip = .ok () := by
  cases h <;> rfl

/-- A text is that of a tree if the parser finds the tree and nothing behind it. -/
theorem isTreeOf_iff {n : Node} {text : List UInt8} :
    n.IsTreeOf text ↔ Json.parse text = (n, false) ∧ n.skip = .ok () := by
  constructor
  · exact fun h => ⟨h.parse, h.1.skip⟩
  · rintro ⟨h, hn⟩
    obtain ⟨hwhole, rest, htokens, hrest⟩ := written_of_parse h hn
    rw [hrest rfl, List.append_nil] at htokens
    exact ⟨hwhole, htokens⟩

/-! ## Documents with something behind them -/

/-- The value is an array or an object. -/
def Node.IsContainer : Node → Prop
  | .array .. | .object .. => True
  | _ => False

/-- A container ends with its bracket. -/
theorem exists_closing {n : Node} (h : n.IsContainer) :
    ∃ front t, n.written = front ++ [t] ∧ t.isMark = true := by
  cases n with
  | array items _ => exact ⟨.openArray :: separated (itemsWritten items), _, rfl, rfl⟩
  | object members _ => exact ⟨.openObject :: separated (membersWritten members), _, rfl, rfl⟩
  | _ => cases h

theorem run_grown (n : Node) (more : Bool) (ts : List Token) :
    ∃ more', (Growth.grown n more).run ts = .grown n more' := by
  induction ts generalizing more with
  | nil => exact ⟨more, rfl⟩
  | cons t ts ih => exact ih true

/-- A text that begins with a container is one document and what is behind it. -/
theorem exists_document {text : List UInt8} {n : Node} (hcontainer : n.IsContainer) :
    (∃ more, Json.parse text = (n, more)) ∧ n.skip = .ok () ↔
      ∃ document rest, text = document ++ rest ∧ n.IsTreeOf document := by
  obtain ⟨front, t, hwritten, ht⟩ := exists_closing hcontainer
  constructor
  · rintro ⟨⟨more, h⟩, hn⟩
    obtain ⟨hwhole, rest, htokens, -⟩ := written_of_parse h hn
    rw [tokens_eq_lex, hwritten, List.append_assoc, List.singleton_append] at htokens
    obtain ⟨document, behind, rfl, -, hdocument⟩ := lex_cut isProper_between ht htokens
    refine ⟨document, behind, rfl, hwhole, ?_⟩
    have hlex := hdocument []
    rwa [List.append_nil, ← tokens_eq_lex, lex, Lexing.finish, ← hwritten] at hlex
  · rintro ⟨document, rest, rfl, hwhole, htokens⟩
    refine ⟨?_, hwhole.skip⟩
    rw [tokens_eq_lex, hwritten] at htokens
    obtain ⟨document, blanks, rfl, -, hdocument⟩ := lex_cut isProper_between ht htokens
    have hawaits : Awaits [] := trivial
    have hrun := run_written hwhole hawaits (lex .between (blanks ++ rest))
    obtain ⟨more, hgrown⟩ := run_grown n false (lex .between (blanks ++ rest))
    refine ⟨more, ?_⟩
    rw [Json.parse, tokens_eq_lex, List.append_assoc, hdocument, ← List.singleton_append,
      ← List.append_assoc, ← hwritten, hrun, plug, hgrown]
    rfl

/-! ## Documents that are read -/

section
variable {α : Type} {read : Reader α}

/-- Only containers are read. -/
def Reader.NeedsContainer (read : Reader α) : Prop := ∀ n a, read n = .ok a → n.IsContainer

theorem needsContainer_readRecord {τ : Type} (r : Record Node τ) :
    Reader.NeedsContainer (readRecord r) := by
  intro n a h
  cases n with
  | array | object => trivial
  | _ => cases h

theorem readWhole_eq_ok_iff (hread : Reader.Minds read) {text : List UInt8} {a : α} :
    readWhole read text = .ok a ↔ ∃ n, n.IsTreeOf text ∧ read n = .ok a := by
  constructor
  · intro h
    cases hp : parse text with
    | mk n more =>
      rw [readWhole, hp] at h
      obtain ⟨b, hn, hmore⟩ := exists_of_bind h
      cases more with
      | true => cases hmore
      | false =>
        cases hmore
        exact ⟨n, isTreeOf_iff.2 ⟨hp, hread n a hn⟩, hn⟩
  · rintro ⟨n, hn, ha⟩
    rw [readWhole, hn.parse]
    dsimp only
    rw [ha]
    rfl

/-- The first value of a text is read if the text begins with a document that is read as a whole. -/
theorem readFirst_eq_ok_iff (hread : Reader.Minds read) (hcontainer : Reader.NeedsContainer read)
    {text : List UInt8} {a : α} :
    readFirst read text = .ok a ↔
      ∃ document rest, text = document ++ rest ∧ readWhole read document = .ok a := by
  simp only [readWhole_eq_ok_iff hread]
  constructor
  · intro h
    obtain ⟨document, rest, htext, hn⟩ := (exists_document (hcontainer _ a h)).1
      ⟨⟨(parse text).2, rfl⟩, hread _ a h⟩
    exact ⟨document, rest, htext, _, hn, h⟩
  · rintro ⟨document, rest, rfl, n, hn, ha⟩
    obtain ⟨⟨more, hp⟩, -⟩ := (exists_document (hcontainer n a ha)).2 ⟨document, rest, rfl, hn⟩
    rw [readFirst, hp]
    exact ha

theorem exists_readFirst_iff (hread : Reader.Minds read) (hcontainer : Reader.NeedsContainer read)
    {text : List UInt8} :
    (∃ a, readFirst read text = .ok a) ↔
      ∃ document rest, text = document ++ rest ∧ ∃ a, readWhole read document = .ok a := by
  constructor
  · rintro ⟨a, h⟩
    obtain ⟨document, rest, htext, ha⟩ := (readFirst_eq_ok_iff hread hcontainer).1 h
    exact ⟨document, rest, htext, a, ha⟩
  · rintro ⟨document, rest, htext, a, ha⟩
    exact ⟨a, (readFirst_eq_ok_iff hread hcontainer).2 ⟨document, rest, htext, ha⟩⟩

/-- Blanks at the end of a document make no difference. -/
theorem readWhole_blanks (hread : Reader.Minds read) {text blanks : List UInt8} {a : α}
    (h : readWhole read text = .ok a) (hblanks : ∀ b ∈ blanks, isSpace b = true) :
    readWhole read (text ++ blanks) = .ok a := by
  obtain ⟨n, ⟨hwhole, htokens⟩, hn⟩ := (readWhole_eq_ok_iff hread).1 h
  have hcut : tokens (text ++ []) = tokens text ++ tokens [] := by
    simp [tokens_eq_lex, lex, Lexing.finish]
  have hspaced := tokens_spaced (by rw [htokens]; exact hwhole.sound) hcut hblanks
  rw [List.append_nil, List.append_nil, htokens] at hspaced
  exact (readWhole_eq_ok_iff hread).2 ⟨n, ⟨hwhole, hspaced⟩, hn⟩

end

end TrackResolver.Json
