import Mathlib.Data.List.Forall2
import TrackResolver.Json.Node
import TrackResolver.Proofs.Json.Lexing

/-!
# The tree of what is written

`Value.node` is the tree that a value has in a document. The parser builds it out of the rendered
bytes, wherever the value stands, and goes on behind it.

Results:
* `Holds`: the bytes of a value, wherever they stand in a document.
* `holds_frame`: an object, out of the texts of its values.
* `holds_render`: a rendered value.
* `parse_render`: a document that holds the value and nothing else.
-/
namespace TrackResolver.Json

/-- The tree of a text. -/
def textNode (s : String) : Node := .text (s.toList.flatMap charPieces) .closed

mutual
/-- The tree of a value. -/
def Value.node : Value → Node
  | .null => .null
  | .boolean b => .boolean b
  | .integer n => .number (numeral n)
  | .text s => textNode s
  | .list items => .array (itemNodes items) .closed
  | .object members => .object (memberNodes members) .closed

def itemNodes : List Value → List Node
  | [] => []
  | v :: rest => v.node :: itemNodes rest

def memberNodes : List (String × Value) → List (Node × Node)
  | [] => []
  | (k, v) :: rest => (textNode k, v.node) :: memberNodes rest
end

/-- Whether a value is expected here. -/
def Awaits : List Level → Prop
  | [] | .item _ _ :: _ | .value _ _ :: _ => True
  | _ => False

section
variable {levels : List Level}

theorem Growth.run_cons (g : Growth) (t : Token) (ts : List Token) :
    g.run (t :: ts) = (g.step t).run ts := rfl

/-- Where a value is expected, any token but the end of an array begins one. -/
theorem step_of_awaits (h : Awaits levels) {t : Token} (ht : t ≠ .closeArray) :
    (Growth.growing levels).step t = atValue t levels := by
  match levels, h with
  | [], _ => rfl
  | .item acc first :: outer, _ => simp [Growth.step, ht]
  | .value members name :: outer, _ => rfl

theorem grow_name (k : String) (acc : List (Node × Node)) (first : Bool) (levels : List Level)
    (rest : List UInt8) :
    (Growth.growing (.name acc first :: levels)).run
        (lex .between (utf8 (quoteList k.toList) ++ code ':' :: rest)) =
      (Growth.growing (.value acc (textNode k) :: levels)).run (lex .between rest) := by
  have hname : ∀ pieces, (Growth.growing (.name acc first :: levels)).step (.text pieces) =
      .growing (.colon acc (.text pieces .closed) :: levels) := fun _ => rfl
  rw [lex_quoteList, Growth.run_cons, hname, lex_mark _ rfl, Growth.run_cons]
  rfl

end

/-! ## Values inside a document -/

/-- The bytes are those of a value with the tree `n`: wherever a value is expected they are read as
one, and what is behind them comes next. -/
def Holds (bytes : List UInt8) (n : Node) : Prop :=
  ∀ levels rest, Awaits levels → Ends rest →
    (Growth.growing levels).run (lex .between (bytes ++ rest)) =
      (plug n levels).run (lex .between rest)

theorem Holds.parse {bytes : List UInt8} {n : Node} (h : Holds bytes n) :
    parse bytes = (n, false) := by
  have hgrow := h [] [] trivial (by simp [Ends])
  rw [List.append_nil] at hgrow
  rw [Json.parse, tokens_eq_lex, hgrow]
  rfl

/-! ## Objects -/

/-- The text of the members of an object and its closing brace, each value as it is given. -/
def frameMembers : List (String × List UInt8) → List UInt8
  | [] => [code '\x7d']
  | [(k, text)] => utf8 (quoteList k.toList) ++ code ':' :: (text ++ [code '\x7d'])
  | (k, text) :: m :: rest =>
    utf8 (quoteList k.toList) ++ code ':' :: (text ++ code ',' :: frameMembers (m :: rest))

/-- The text of an object, out of those of its values. -/
def frame (members : List (String × List UInt8)) : List UInt8 :=
  code '\x7b' :: frameMembers members

/-- The text of a value under this name. -/
def HoldsMember (m : String × List UInt8) (named : Node × Node) : Prop :=
  named.1 = textNode m.1 ∧ Holds m.2 named.2

theorem Holds.named {text : List UInt8} {n : Node} (h : Holds text n) (name : String) :
    HoldsMember (name, text) (textNode name, n) := ⟨rfl, h⟩

theorem grow_frame {members : List (String × List UInt8)} {nodes : List (Node × Node)}
    (h : List.Forall₂ HoldsMember members nodes) (acc : List (Node × Node)) (first : Bool)
    (levels : List Level) (rest : List UInt8) (hempty : members = [] → acc = [] ∧ first = true) :
    (Growth.growing (.name acc first :: levels)).run (lex .between (frameMembers members ++ rest)) =
      (plug (.object (acc.reverse ++ nodes) .closed) levels).run (lex .between rest) := by
  induction h generalizing acc first with
  | nil =>
    obtain ⟨rfl, rfl⟩ := hempty rfl
    rw [frameMembers, List.singleton_append, lex_mark _ rfl, Growth.run_cons]
    rfl
  | @cons m named members nodes hm hmore ih =>
    obtain ⟨k, text⟩ := m
    obtain ⟨name, n⟩ := named
    obtain ⟨rfl, hn⟩ := hm
    cases hmore with
    | nil =>
      have hbytes : frameMembers [(k, text)] ++ rest =
          utf8 (quoteList k.toList) ++ code ':' :: (text ++ code '\x7d' :: rest) := by
        simp [frameMembers]
      have hends : Ends (code '\x7d' :: rest) := by simp [Ends]
      rw [hbytes, grow_name, hn (.value acc (textNode k) :: levels) _ trivial hends, lex_mark _ rfl,
        Growth.run_cons]
      simp [plug, Growth.step]
    | @cons m' named' members' nodes' hm' hmore' =>
      have hbytes : frameMembers ((k, text) :: m' :: members') ++ rest =
          utf8 (quoteList k.toList) ++ code ':' ::
            (text ++ code ',' :: (frameMembers (m' :: members') ++ rest)) := by
        simp [frameMembers]
      have hends : Ends (code ',' :: (frameMembers (m' :: members') ++ rest)) := by simp [Ends]
      rw [hbytes, grow_name, hn (.value acc (textNode k) :: levels) _ trivial hends, lex_mark _ rfl,
        Growth.run_cons]
      have hnext := ih ((textNode k, n) :: acc) false (by simp)
      simpa [plug, Growth.step] using hnext

/-- An object out of the texts of its values. -/
theorem holds_frame {members : List (String × List UInt8)} {nodes : List (Node × Node)}
    (h : List.Forall₂ HoldsMember members nodes) : Holds (frame members) (.object nodes .closed) := by
  intro levels rest hlevels _
  rw [frame, List.cons_append, lex_mark _ rfl, Growth.run_cons, step_of_awaits hlevels (by simp)]
  exact grow_frame h [] true levels rest fun _ => ⟨rfl, rfl⟩

/-! ## Rendered values -/

/-- The texts of the members of an object. -/
def memberTexts : List (String × Value) → List (String × List UInt8)
  | [] => []
  | (k, v) :: rest => (k, utf8 v.renderList) :: memberTexts rest

theorem utf8_renderMembers : ∀ members,
    utf8 (renderMembers members) = frameMembers (memberTexts members)
  | [] => by simp [renderMembers, memberTexts, frameMembers, utf8_cons]
  | [(k, v)] => by simp [renderMembers, memberTexts, frameMembers, utf8_cons]
  | (k, v) :: (k', v') :: rest => by
    have hrest := utf8_renderMembers ((k', v') :: rest)
    rw [memberTexts] at hrest
    simp [renderMembers, memberTexts, frameMembers, utf8_cons, hrest]

-- The recursion is that of the rendering.
mutual
/-- A value is read where one is expected, and what is behind it comes next. -/
theorem holds_render (v : Value) : Holds (utf8 v.renderList) v.node := by
  intro levels rest h hrest
  match v with
  | .null =>
    rw [Value.renderList, lex_null, Growth.run_cons, step_of_awaits h (by simp)]
    rfl
  | .boolean true =>
    rw [Value.renderList, lex_true, Growth.run_cons, step_of_awaits h (by simp)]
    rfl
  | .boolean false =>
    rw [Value.renderList, lex_false, Growth.run_cons, step_of_awaits h (by simp)]
    rfl
  | .integer n =>
    rw [Value.renderList, lex_integerList n hrest, Growth.run_cons, step_of_awaits h (by simp)]
    rfl
  | .text s =>
    rw [Value.renderList, lex_quoteList, Growth.run_cons, step_of_awaits h (by simp)]
    rfl
  | .list items =>
    rw [Value.renderList, utf8_cons (by decide), List.cons_append, lex_mark _ rfl, Growth.run_cons,
      step_of_awaits h (by simp)]
    exact grow_items items [] true levels rest fun _ => ⟨rfl, rfl⟩
  | .object members =>
    have hbytes : utf8 (Value.object members).renderList = frame (memberTexts members) := by
      rw [Value.renderList, utf8_cons (by decide), utf8_renderMembers, frame]
    rw [hbytes, Value.node]
    exact holds_frame (holds_members members) levels rest h hrest

/-- The items that are left of an array, and its end. -/
theorem grow_items (items : List Value) (acc : List Node) (first : Bool) (levels : List Level)
    (rest : List UInt8) (h : items = [] → acc = [] ∧ first = true) :
    (Growth.growing (.item acc first :: levels)).run (lex .between (utf8 (renderItems items) ++ rest)) =
      (plug (.array (acc.reverse ++ itemNodes items) .closed) levels).run (lex .between rest) := by
  match items with
  | [] =>
    obtain ⟨rfl, rfl⟩ := h rfl
    rw [renderItems, utf8_cons (by decide), List.cons_append, lex_mark _ rfl, Growth.run_cons]
    rfl
  | [v] =>
    have hbytes : utf8 (renderItems [v]) ++ rest = utf8 v.renderList ++ code ']' :: rest := by
      simp [renderItems, utf8_cons]
    have hrest : Ends (code ']' :: rest) := by simp [Ends]
    rw [hbytes, holds_render v (.item acc first :: levels) _ trivial hrest, lex_mark _ rfl,
      Growth.run_cons]
    simp [plug, Growth.step, itemNodes]
  | v :: w :: more =>
    have hbytes : utf8 (renderItems (v :: w :: more)) ++ rest =
        utf8 v.renderList ++ code ',' :: (utf8 (renderItems (w :: more)) ++ rest) := by
      simp [renderItems, utf8_cons]
    have hrest : Ends (code ',' :: (utf8 (renderItems (w :: more)) ++ rest)) := by simp [Ends]
    rw [hbytes, holds_render v (.item acc first :: levels) _ trivial hrest, lex_mark _ rfl,
      Growth.run_cons]
    have hnext := grow_items (w :: more) (v.node :: acc) false levels rest (by simp)
    simpa [plug, Growth.step, itemNodes] using hnext

/-- The members of an object, as they stand in its frame. -/
theorem holds_members (members : List (String × Value)) :
    List.Forall₂ HoldsMember (memberTexts members) (memberNodes members) := by
  match members with
  | [] => exact .nil
  | (k, v) :: rest => exact .cons ((holds_render v).named k) (holds_members rest)
end

/-- A rendered value alone in a document is parsed into its tree. -/
theorem parse_render (v : Value) : parse v.render.toUTF8.data.toList = (v.node, false) := by
  rw [Value.render, toList_toUTF8]
  exact (holds_render v).parse

end TrackResolver.Json
