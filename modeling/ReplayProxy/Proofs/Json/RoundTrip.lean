import ReplayProxy.Proofs.Json.Lexing

/-!
# Written values are read back

`Document.read_bytes`: the compact text of a value whose numbers are integers is one whole
document, and its tree is `Value.tree`. So a typed reader may be run on the tree of a value
instead of on its text (`decode_bytes`), and no reader has to know about bytes.

The reader is a machine over tokens, so the statement that carries the induction is about
any stack and any text behind: from a place where a value is due, the machine goes over the
value's text and delivers its tree to the stack (`readFrom_value`). What follows the text
must not go on with a number; inside arrays and objects it is a comma or a closing bracket.
-/

namespace ReplayProxy.Json

open Bytes (ofChars)

namespace Value

mutual

/-- All numbers in the value are integers. -/
def Whole : Value → Prop
  | .number (.real _) => False
  | .array items => WholeItems items
  | .object members => WholeMembers members
  | _ => True

/-- All numbers in the elements are integers. -/
def WholeItems : List Value → Prop
  | [] => True
  | v :: rest => v.Whole ∧ WholeItems rest

/-- All numbers in the values of the members are integers. -/
def WholeMembers : List (String × Value) → Prop
  | [] => True
  | (_, v) :: rest => v.Whole ∧ WholeMembers rest

end

mutual

/-- The tree of the text of a value whose numbers are integers. -/
def tree : Value → Tree
  | .null => .null
  | .boolean b => .boolean b
  | .number (.int i) => .number (.ofInt i)
  | .number (.real _) => .cut
  | .string s => .string (some s)
  | .array items => .array (itemTrees items) true
  | .object members => .object (memberTrees members) true

/-- The trees of elements. -/
def itemTrees : List Value → List Tree
  | [] => []
  | v :: rest => v.tree :: itemTrees rest

/-- The trees of members. -/
def memberTrees : List (String × Value) → List (Option String × Tree)
  | [] => []
  | (name, v) :: rest => (some name, v.tree) :: memberTrees rest

end

theorem itemTrees_eq_map (vs : List Value) : itemTrees vs = vs.map tree := by
  induction vs with
  | nil => rfl
  | cons v vs ih => rw [itemTrees, ih, List.map_cons]

theorem memberTrees_eq_map (ms : List (String × Value)) :
    memberTrees ms = ms.map fun m => (some m.1, m.2.tree) := by
  induction ms with
  | nil => rfl
  | cons m ms ih => rw [memberTrees, ih, List.map_cons]

theorem wholeItems_iff {vs : List Value} : WholeItems vs ↔ ∀ v ∈ vs, v.Whole := by
  induction vs with
  | nil => simp [WholeItems]
  | cons v vs ih => simp [WholeItems, ih]

theorem wholeMembers_iff {ms : List (String × Value)} :
    WholeMembers ms ↔ ∀ m ∈ ms, m.2.Whole := by
  induction ms with
  | nil => simp [WholeMembers]
  | cons m ms ih => simp [WholeMembers, ih]

end Value

/-! ### Tokens at the front of a text -/

namespace Token

theorem next?_cons {b : UInt8} (h : isSpace b = false) (s : Bytes) :
    next? (b :: s) = some (lex (b :: s)) := by
  rw [next?, List.dropWhile_cons_of_neg (by simp [h])]

theorem next?_quote (text : String) (s : Bytes) :
    next? (ofChars (Value.quote text) ++ s) = some (.string (some text), s) := by
  have hfront : ofChars (Value.quote text) ++ s =
      0x22 :: (ofChars (text.toList.flatMap Value.escapeChar ++ ['"']) ++ s) := rfl
  rw [← lex_quote text s, hfront, next?_cons rfl]

theorem next?_int (i : Int) {s : Bytes} (hs : Stops s) :
    next? (ofChars (Number.renderInt i) ++ s) = some (.number (.ofInt i), s) := by
  have hfront : ∃ b r, ofChars (Number.renderInt i) = b :: r ∧ isSpace b = false := by
    unfold Number.renderInt Number.digits
    -- a negative number begins with a minus sign, any other with a digit
    split
    · exact ⟨0x2D, ofChars (Nat.toDigits 10 i.natAbs), rfl, rfl⟩
    · obtain ⟨b, r, hbytes, hlow, -⟩ := exists_ofChars_toDigits i.natAbs
      refine ⟨b, r, hbytes, ?_⟩
      have hb : ∀ x : UInt8, x.toNat < 0x30 → (b == x) = false := by
        intro x hx
        simp only [beq_eq_false_iff_ne, ne_eq]
        rintro rfl
        omega
      simp [isSpace, hb]
  obtain ⟨b, r, hbytes, hspace⟩ := hfront
  rw [← lex_int i hs, hbytes, List.cons_append, next?_cons hspace]

end Token

/-! ### The reader over a value's text -/

namespace Document

open ReplayProxy.Json.Tree (Frame Want Reader Progress deliver)

/-- Goes on from what one token led to. -/
def resume : Progress → Bytes → Document
  | .more r, s => readFrom r s
  | .done v, s => ⟨v, (Token.next? s).isNone⟩
  | .broken v, _ => ⟨v, false⟩

/-- One step of the reader. -/
theorem readFrom_token {r : Reader} {s u : Bytes} {t : Token}
    (h : Token.next? s = some (t, u)) : readFrom r s = resume (r.feed t) u := by
  rw [readFrom]
  split
  · next h' => rw [h] at h'; cases h'
  · next t' u' h' =>
    rw [h] at h'
    cases h'
    cases r.feed t <;> rfl

/-- A value is due: anywhere, or as the first element of an array. -/
def Due (w : Want) : Prop := w = .value ∨ w = .element

/-- Where a value is due, every token but a closing bracket is read as the start of one. -/
theorem feed_of_due {w : Want} (hw : Due w) (stack : List Frame) {t : Token}
    (ht : t ≠ .closeArray) :
    (Reader.mk stack w).feed t = (Reader.mk stack .value).value t := by
  rcases hw with rfl | rfl
  · cases t <;> rfl
  · -- only a closing bracket is told apart where the first element is due
    cases t <;> first | rfl | exact absurd rfl ht

/-- After an element or a member comes a comma or the end. -/
theorem stops_itemChars (vs : List Value) (s : Bytes) :
    Stops (ofChars (Value.itemChars vs) ++ 0x5D :: s) := by
  cases vs with
  | nil => exact stops_cons (by decide)
  | cons v vs =>
    rw [Value.itemChars]
    exact stops_cons (by decide)

theorem stops_memberChars (ms : List (String × Value)) (s : Bytes) :
    Stops (ofChars (Value.memberChars ms) ++ 0x7D :: s) := by
  cases ms with
  | nil => exact stops_cons (by decide)
  | cons m ms =>
    rw [Value.memberChars]
    exact stops_cons (by decide)

/-- Reads the name of a member and the colon behind it. -/
theorem readFrom_name {w : Want} (hw : w = .member ∨ w = .name)
    (done : List (Option String × Tree)) (stack : List Frame) (name : String) (s : Bytes) :
    readFrom ⟨.object done none :: stack, w⟩ (ofChars (Value.quote name) ++ 0x3A :: s) =
      readFrom ⟨.object done (some (some name)) :: stack, .value⟩ s := by
  have hfeed : (Reader.mk (.object done none :: stack) w).feed (.string (some name)) =
      .more ⟨.object done (some (some name)) :: stack, .colon⟩ := by
    rcases hw with rfl | rfl <;> rfl
  rw [readFrom_token (Token.next?_quote name (0x3A :: s)), hfeed, resume,
    readFrom_token (t := .colon) (u := s) (Token.next?_cons rfl s)]
  rfl

-- The three lemmas follow the recursion of the writer: a value calls on its first element or
-- member and then on the others, which call on values again.
mutual

/-- Where a value is due, the reader goes over its text and delivers its tree. -/
theorem readFrom_value (v : Value) (h : v.Whole) {w : Want} (hw : Due w) (stack : List Frame)
    {s : Bytes} (hs : Stops s) :
    readFrom ⟨stack, w⟩ (ofChars v.chars ++ s) = resume (deliver stack v.tree) s := by
  match v with
  | .null =>
    rw [readFrom_token (t := .null) (u := s) rfl, feed_of_due hw stack (by decide)]
    rfl
  | .boolean true =>
    rw [readFrom_token (t := .boolean true) (u := s) rfl, feed_of_due hw stack (by decide)]
    rfl
  | .boolean false =>
    rw [readFrom_token (t := .boolean false) (u := s) rfl, feed_of_due hw stack (by decide)]
    rfl
  | .number (.int i) =>
    rw [Value.chars, Number.render, readFrom_token (Token.next?_int i hs),
      feed_of_due hw stack (by simp)]
    rfl
  | .number (.real x) => exact h.elim
  | .string text =>
    rw [Value.chars, readFrom_token (Token.next?_quote text s), feed_of_due hw stack (by simp)]
    rfl
  -- an array or an object without contents is two tokens
  | .array [] =>
    rw [readFrom_token (t := .openArray) (u := 0x5D :: s) rfl,
      feed_of_due hw stack (by decide)]
    exact readFrom_token (t := .closeArray) (u := s) rfl
  | .array (v :: vs) =>
    have hbytes : ofChars (Value.array (v :: vs)).chars ++ s =
        0x5B :: (ofChars v.chars ++ (ofChars (Value.itemChars vs) ++ 0x5D :: s)) := by
      rw [Value.chars, Bytes.ofChars_cons, Bytes.ofChars_append, Bytes.ofChars_append]
      simp only [List.append_assoc]
      rfl
    rw [hbytes, readFrom_token (t := .openArray) (Token.next?_cons rfl _),
      feed_of_due hw stack (by decide)]
    -- the bracket opened a frame without elements, in which the first one is due
    change readFrom ⟨.array [] :: stack, .element⟩ _ = _
    rw [readFrom_value v h.1 (.inr rfl) _ (stops_itemChars vs s)]
    exact readFrom_items vs h.2 [v.tree] stack s
  | .object [] =>
    rw [readFrom_token (t := .openObject) (u := 0x7D :: s) rfl,
      feed_of_due hw stack (by decide)]
    exact readFrom_token (t := .closeObject) (u := s) rfl
  | .object ((name, v) :: ms) =>
    have hbytes : ofChars (Value.object ((name, v) :: ms)).chars ++ s =
        0x7B :: (ofChars (Value.quote name) ++ 0x3A ::
          (ofChars v.chars ++ (ofChars (Value.memberChars ms) ++ 0x7D :: s))) := by
      rw [Value.chars, Bytes.ofChars_cons, Bytes.ofChars_append, Bytes.ofChars_cons,
        Bytes.ofChars_append, Bytes.ofChars_append]
      simp only [List.append_assoc]
      rfl
    rw [hbytes, readFrom_token (t := .openObject) (Token.next?_cons rfl _),
      feed_of_due hw stack (by decide)]
    -- the brace opened a frame without members, in which the first name is due
    change readFrom ⟨.object [] none :: stack, .member⟩ _ = _
    rw [readFrom_name (.inl rfl), readFrom_value v h.1 (.inl rfl) _ (stops_memberChars ms s)]
    exact readFrom_members ms h.2 [(some name, v.tree)] stack s

/-- After an element, the reader goes over the others and closes the array. -/
theorem readFrom_items (vs : List Value) (h : Value.WholeItems vs) (done : List Tree)
    (stack : List Frame) (s : Bytes) :
    readFrom ⟨.array done :: stack, .separator⟩ (ofChars (Value.itemChars vs) ++ 0x5D :: s) =
      resume (deliver stack (.array (done.reverse ++ Value.itemTrees vs) true)) s := by
  match vs with
  | [] =>
    rw [readFrom_token (t := .closeArray) (u := s) rfl]
    simp only [Value.itemTrees, List.append_nil]
    rfl
  | v :: vs =>
    have hbytes : ofChars (Value.itemChars (v :: vs)) ++ 0x5D :: s =
        0x2C :: (ofChars v.chars ++ (ofChars (Value.itemChars vs) ++ 0x5D :: s)) := by
      rw [Value.itemChars, Bytes.ofChars_cons, Bytes.ofChars_append]
      simp only [List.append_assoc]
      rfl
    rw [hbytes, readFrom_token (t := .comma) (Token.next?_cons rfl _)]
    change readFrom ⟨.array done :: stack, .value⟩ _ = _
    rw [readFrom_value v h.1 (.inl rfl) _ (stops_itemChars vs s)]
    -- the tree went into the frame; the elements of a frame stand in reverse
    change readFrom ⟨.array (v.tree :: done) :: stack, .separator⟩ _ = _
    rw [readFrom_items vs h.2, List.reverse_cons, List.append_assoc]
    rfl

/-- After a member, the reader goes over the others and closes the object. -/
theorem readFrom_members (ms : List (String × Value)) (h : Value.WholeMembers ms)
    (done : List (Option String × Tree)) (stack : List Frame) (s : Bytes) :
    readFrom ⟨.object done none :: stack, .separator⟩
        (ofChars (Value.memberChars ms) ++ 0x7D :: s) =
      resume (deliver stack (.object (done.reverse ++ Value.memberTrees ms) true)) s := by
  match ms with
  | [] =>
    rw [readFrom_token (t := .closeObject) (u := s) rfl]
    simp only [Value.memberTrees, List.append_nil]
    rfl
  | (name, v) :: ms =>
    -- the text goes on with the comma in front of the next member
    have hbytes : ofChars (Value.memberChars ((name, v) :: ms)) ++ 0x7D :: s =
        0x2C :: (ofChars (Value.quote name) ++ 0x3A ::
          (ofChars v.chars ++ (ofChars (Value.memberChars ms) ++ 0x7D :: s))) := by
      rw [Value.memberChars, Bytes.ofChars_cons, Bytes.ofChars_append, Bytes.ofChars_cons,
        Bytes.ofChars_append]
      simp only [List.append_assoc]
      rfl
    rw [hbytes, readFrom_token (t := .comma) (Token.next?_cons rfl _)]
    change readFrom ⟨.object done none :: stack, .name⟩ _ = _
    rw [readFrom_name (.inr rfl), readFrom_value v h.1 (.inl rfl) _ (stops_memberChars ms s)]
    change readFrom ⟨.object ((some name, v.tree) :: done) none :: stack, .separator⟩ _ = _
    rw [readFrom_members ms h.2, List.reverse_cons, List.append_assoc]
    rfl

end

/-- **The text of a value is one whole document.** -/
theorem read_bytes {v : Value} (h : v.Whole) : read v.bytes = ⟨v.tree, true⟩ := by
  -- nothing is open around the value, and nothing follows it
  have hread := readFrom_value v h (.inl rfl) [] stops_nil
  rw [List.append_nil] at hread
  rw [read, Value.bytes, Value.render, Bytes.ofText_ofList, Reader.start, hread]
  rfl

end Document

/-- A typed reader reads the text of a value as it reads its tree. -/
theorem decode_bytes (f : Tree → Except Fault α) {v : Value} (h : v.Whole) :
    decode f v.bytes = f v.tree := by
  rw [decode, Document.read_bytes h]
  cases f v.tree <;> rfl

end ReplayProxy.Json
