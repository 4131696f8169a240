import JobNotice.Json.Node
import JobNotice.Json.Printer

/-!
# Compact text is read back

The text of a value is read as the tree of that value, whatever stands behind it. Numbers are left
out: records have none, and reading back a double is a matter of decimals and not of JSON.

## Main definitions

* `Json.Value.node` — the tree of a value
* `Json.Value.numberFree` — values without numbers

## Main results

* `Json.readString_quoted`, `Json.skipString_quoted` — strings are read back, and skipped
* `Json.readNode_compactChars` — values are read back
* `Json.Node.ofText_compact` — a whole text is read as the tree of its value
-/

namespace JobNotice.Json

/-! ### Characters -/

theorem hexDigit_value : ∀ n < 16, Text.digitValue? (hexDigit n) = some n := by decide

/-- The four digits of a character below the blank. -/
theorem readHex4_control {n : Nat} (h : n < 0x20) (rest : List Char) :
    readHex4 ('0' :: '0' :: hexDigit (n / 16) :: hexDigit (n % 16) :: rest) = .ok (n, rest) := by
  have hhigh := hexDigit_value (n / 16) (by omega)
  have hlow := hexDigit_value (n % 16) (by omega)
  have hzero : Text.digitValue? '0' = some 0 := rfl
  have hsize : ¬ Text.utf8Length
      (List.take 4 ('0' :: '0' :: hexDigit (n / 16) :: hexDigit (n % 16) :: rest)) < 4 := by
    have h0 := Char.utf8Size_pos '0'
    have h1 := Char.utf8Size_pos (hexDigit (n / 16))
    have h2 := Char.utf8Size_pos (hexDigit (n % 16))
    simp only [List.take_succ_cons, List.take_zero, Text.utf8Length]
    omega
  have hback : ((0 * 16 + 0) * 16 + n / 16) * 16 + n % 16 = n := by omega
  rw [readHex4, if_neg hsize]
  simp only [hzero, hhigh, hlow, hback]

theorem eq_of_toNat_eq {c : Char} {n : Nat} (h : c.toNat = n) : c = Char.ofNat n := by
  rw [← h, Char.ofNat_toNat]

/-- A character is written as an escape of one letter, as an escape of its code point, or as it
is. -/
theorem escapeChar_cases (c : Char) :
    (∃ d, d ≠ 'u' ∧ simpleEscape? d = some c ∧ escapeChar c = ['\\', d]) ∨
      (c.toNat < 0x20 ∧ escapeChar c
        = ['\\', 'u', '0', '0', hexDigit (c.toNat / 16), hexDigit (c.toNat % 16)]) ∨
      (¬ c.toNat < 0x20 ∧ c ≠ '"' ∧ c ≠ '\\' ∧ escapeChar c = [c]) := by
  by_cases hquote : c = '"'
  · exact Or.inl ⟨'"', by decide, by rw [hquote]; rfl, by rw [hquote]; rfl⟩
  by_cases hslash : c = '\\'
  · exact Or.inl ⟨'\\', by decide, by rw [hslash]; rfl, by rw [hslash]; rfl⟩
  by_cases hn : c = '\n'
  · exact Or.inl ⟨'n', by decide, by rw [hn]; rfl, by rw [hn]; rfl⟩
  by_cases hr : c = '\r'
  · exact Or.inl ⟨'r', by decide, by rw [hr]; rfl, by rw [hr]; rfl⟩
  by_cases ht : c = '\t'
  · exact Or.inl ⟨'t', by decide, by rw [ht]; rfl, by rw [ht]; rfl⟩
  by_cases hb : c.toNat = 8
  · obtain rfl := eq_of_toNat_eq hb
    exact Or.inl ⟨'b', by decide, rfl, rfl⟩
  by_cases hf : c.toNat = 12
  · obtain rfl := eq_of_toNat_eq hf
    exact Or.inl ⟨'f', by decide, rfl, rfl⟩
  by_cases hcontrol : c.toNat < 0x20
  · exact Or.inr (Or.inl ⟨hcontrol, by
      simp [escapeChar, hquote, hslash, hn, hr, ht, hb, hf, hcontrol]⟩)
  · exact Or.inr (Or.inr ⟨hcontrol, hquote, hslash, by
      simp [escapeChar, hquote, hslash, hn, hr, ht, hb, hf, hcontrol]⟩)

theorem readEscape_simple {c d : Char} (hu : d ≠ 'u') (hd : simpleEscape? d = some c)
    (rest : List Char) : readEscape (d :: rest) = .ok (c, rest) := by
  simp [readEscape, hd]

/-! ### Strings -/

/-- One character of a string is read back. -/
theorem readString_escapeChar (c : Char) (fuel : Nat) (rest : List Char) :
    readString (fuel + 1) (escapeChar c ++ rest)
      = (readString fuel rest).map fun (cs, r) => (c :: cs, r) := by
  have hmap : ∀ x : Except Fault (List Char × List Char), (do
      let (cs, r) ← x
      .ok (c :: cs, r)) = x.map fun (cs, r) => (c :: cs, r) := by
    intro x
    cases x <;> rfl
  rcases escapeChar_cases c with ⟨d, hu, hd, hc⟩ | ⟨hcontrol, hc⟩ | ⟨hplain, hquote, hslash, hc⟩
  · simp only [hc, List.cons_append, List.nil_append, readString, readEscape_simple hu hd, bind,
      Except.bind]
    exact hmap _
  · have hescape : readEscape ('u' :: '0' :: '0' :: hexDigit (c.toNat / 16) ::
        hexDigit (c.toNat % 16) :: rest) = .ok (c, rest) := by
      have hlow : ¬ (0xDC00 ≤ c.toNat ∧ c.toNat ≤ 0xDFFF) := by omega
      have hhigh : c.toNat < 0xD800 ∨ 0xDBFF < c.toNat := by omega
      simp only [readEscape, readHex4_control hcontrol, bind, Except.bind, readSurrogates,
        if_neg hlow, if_pos hhigh, Char.ofNat_toNat]
    simp only [hc, List.cons_append, List.nil_append, readString, hescape, bind, Except.bind]
    exact hmap _
  · simp only [hc, List.cons_append, List.nil_append, readString, hplain, if_false]
    exact hmap _

/-- One character of a string is skipped. -/
theorem skipString_escapeChar (c : Char) (fuel : Nat) (rest : List Char) :
    skipString (fuel + 1) (escapeChar c ++ rest) = skipString fuel rest := by
  rcases escapeChar_cases c with ⟨d, hu, hd, hc⟩ | ⟨hcontrol, hc⟩ | ⟨hplain, hquote, hslash, hc⟩
  · simp [hc, skipString, hd]
  · simp [hc, skipString, readHex4_control hcontrol, bind, Except.bind]
  · simp [hc, skipString, hplain, hslash]

/-- The characters of a string in quotes, from behind the first quote. -/
theorem readString_quoted (s : List Char) {fuel : Nat} (hfuel : s.length < fuel)
    (rest : List Char) :
    readString fuel (s.flatMap escapeChar ++ '"' :: rest) = .ok (s, rest) := by
  induction s generalizing fuel with
  | nil =>
    obtain ⟨fuel, rfl⟩ : ∃ f, fuel = f + 1 := ⟨fuel - 1, by simp at hfuel; omega⟩
    rfl
  | cons c s ih =>
    obtain ⟨fuel, rfl⟩ : ∃ f, fuel = f + 1 := ⟨fuel - 1, by simp at hfuel; omega⟩
    have hless : s.length < fuel := by simp at hfuel; omega
    rw [List.flatMap_cons, List.append_assoc, readString_escapeChar, ih hless]
    rfl

theorem skipString_quoted (s : List Char) {fuel : Nat} (hfuel : s.length < fuel)
    (rest : List Char) : skipString fuel (s.flatMap escapeChar ++ '"' :: rest) = .ok rest := by
  induction s generalizing fuel with
  | nil =>
    obtain ⟨fuel, rfl⟩ : ∃ f, fuel = f + 1 := ⟨fuel - 1, by simp at hfuel; omega⟩
    rfl
  | cons c s ih =>
    obtain ⟨fuel, rfl⟩ : ∃ f, fuel = f + 1 := ⟨fuel - 1, by simp at hfuel; omega⟩
    have hless : s.length < fuel := by simp at hfuel; omega
    rw [List.flatMap_cons, List.append_assoc, skipString_escapeChar, ih hless]

theorem length_le_length_escaped (s : List Char) : s.length ≤ (s.flatMap escapeChar).length := by
  induction s with
  | nil => simp
  | cons c s ih =>
    have hpos : 1 ≤ (escapeChar c).length := by
      rcases escapeChar_cases c with ⟨d, -, -, hc⟩ | ⟨-, hc⟩ | ⟨-, -, -, hc⟩ <;> simp [hc]
    simp only [List.length_cons, List.flatMap_cons, List.length_append]
    omega

/-- **A string in quotes is read back.** -/
theorem readStringNode_quoted (s : String) (rest : List Char) :
    readStringNode (s.toList.flatMap escapeChar ++ '"' :: rest)
      = (.string (.ok s) none, some rest) := by
  have hfuel : s.toList.length < (s.toList.flatMap escapeChar ++ '"' :: rest).length + 1 := by
    have := length_le_length_escaped s.toList
    simp only [List.length_append, List.length_cons]
    omega
  rw [readStringNode, readString_quoted _ hfuel, skipString_quoted _ hfuel]
  simp [Except.map]

/-! ### Trees of values -/

mutual

/-- The tree of a value. -/
def Value.node : Value → Node
  | .null => .null
  | .bool b => .bool b
  | .number n => .number (.ok n) none
  | .string s => .string (.ok s) none
  | .array items => .array (itemNodes items) .closed
  | .object members => .object (memberNodes members) .closed

def itemNodes : List Value → List Node
  | [] => []
  | v :: rest => v.node :: itemNodes rest

def memberNodes : List (String × Value) → List (Node × Node)
  | [] => []
  | (k, v) :: rest => (.string (.ok k) none, v.node) :: memberNodes rest

end

mutual

/-- Whether a value holds no number. -/
def Value.numberFree : Value → Bool
  | .number _ => false
  | .array items => itemsNumberFree items
  | .object members => membersNumberFree members
  | _ => true

def itemsNumberFree : List Value → Bool
  | [] => true
  | v :: rest => v.numberFree && itemsNumberFree rest

def membersNumberFree : List (String × Value) → Bool
  | [] => true
  | (_, v) :: rest => v.numberFree && membersNumberFree rest

end

theorem itemNodes_eq (items : List Value) : itemNodes items = items.map Value.node := by
  induction items with
  | nil => rfl
  | cons v rest ih => rw [itemNodes, ih, List.map_cons]

theorem memberNodes_eq (members : List (String × Value)) :
    memberNodes members = members.map fun m => (.string (.ok m.1) none, m.2.node) := by
  induction members with
  | nil => rfl
  | cons m rest ih => rw [memberNodes, ih, List.map_cons]

/-! ### Items and members

What one item or member and those after it are read as, when their parts are. -/

section Parts

variable {fuel : Nat} {s r rest : List Char} {node : Node} {nodes : List Node}
  {members : List (Node × Node)}

theorem skipSpace_cons {c : Char} (hc : isSpace c = false) (s : List Char) :
    skipSpace (c :: s) = c :: s := by
  simp [skipSpace, hc]

/-- A text that begins with something that is neither blank nor the end of an array. -/
def BeginsItem (s : List Char) : Prop := ∃ c t, s = c :: t ∧ isSpace c = false ∧ c ≠ ']'

theorem BeginsItem.append (h : BeginsItem s) (t : List Char) : BeginsItem (s ++ t) := by
  obtain ⟨c, u, rfl, hc⟩ := h
  exact ⟨c, u ++ t, rfl, hc⟩

theorem readItem_eq (hnode : readNode fuel s = (node, some r))
    (hrest : readItems fuel false r = (nodes, .closed, some rest)) :
    readItem (fuel + 1) s = (node :: nodes, .closed, some rest) := by
  simp only [readItem, hnode, hrest]

theorem readItems_first (fuel : Nat) (h : BeginsItem s) :
    readItems (fuel + 1) true s = readItem fuel s := by
  obtain ⟨c, t, rfl, hc, hclose⟩ := h
  simp [readItems, skipSpace_cons hc]

theorem readItems_next (fuel : Nat) (h : BeginsItem s) :
    readItems (fuel + 1) false (',' :: s) = readItem fuel s := by
  obtain ⟨c, t, rfl, hc, hclose⟩ := h
  have hcomma := skipSpace_cons (show isSpace ',' = false by decide)
  simp only [readItems, hcomma, skipSpace_cons hc, Bool.false_eq_true, if_false, Char.reduceEq,
    imp_self, if_true]
  split
  · next h => simp at h
  · next h => exact absurd (List.cons.inj h).1 hclose
  · rfl

theorem readMember_eq {k : String} (hnode : readNode fuel s = (node, some r))
    (hrest : readMembers fuel false r = (members, .closed, some rest)) :
    readMember (fuel + 1) (quoteChars k.toList ++ ':' :: s)
      = ((.string (.ok k) none, node) :: members, .closed, some rest) := by
  have hkey := readStringNode_quoted k (':' :: s)
  have hcolon := skipSpace_cons (show isSpace ':' = false by decide) s
  simp only [quoteChars, List.cons_append, List.append_assoc, List.nil_append, readMember, hkey,
    hcolon, hnode, hrest]

theorem readMembers_first (k s : List Char) :
    readMembers (fuel + 1) true (quoteChars k ++ s) = readMember fuel (quoteChars k ++ s) := by
  simp [readMembers, quoteChars, skipSpace_cons (show isSpace '"' = false by decide)]

theorem readMembers_next (k s : List Char) :
    readMembers (fuel + 1) false (',' :: (quoteChars k ++ s))
      = readMember fuel (quoteChars k ++ s) := by
  simp [readMembers, quoteChars, skipSpace_cons (show isSpace ',' = false by decide),
    skipSpace_cons (show isSpace '"' = false by decide)]

end Parts

/-! ### Values

A reader takes no more than three steps for each character of a value. -/

namespace Value

theorem beginsItem_compactChars {v : Value} (hv : v.numberFree = true) :
    BeginsItem v.compactChars := by
  match v with
  | .null => exact ⟨'n', _, rfl, by decide, by decide⟩
  | .bool true => exact ⟨'t', _, rfl, by decide, by decide⟩
  | .bool false => exact ⟨'f', _, rfl, by decide, by decide⟩
  | .number _ => simp [numberFree] at hv
  | .string _ => exact ⟨'"', _, by rw [compactChars, quoteChars], by decide, by decide⟩
  | .array [] => exact ⟨'[', _, by rw [compactChars], by decide, by decide⟩
  | .array (_ :: _) => exact ⟨'[', _, by rw [compactChars], by decide, by decide⟩
  | .object [] => exact ⟨'{', _, by rw [compactChars], by decide, by decide⟩
  | .object (_ :: _) => exact ⟨'{', _, by rw [compactChars], by decide, by decide⟩

end Value

open Value

mutual

/-- **A value is read back as its tree.** -/
theorem readNode_compactChars : ∀ (v : Value), v.numberFree = true → ∀ (rest : List Char)
    (fuel : Nat), 3 * v.compactChars.length ≤ fuel →
      readNode fuel (v.compactChars ++ rest) = (v.node, some rest)
  | .null, _, rest, fuel + 1, _ => rfl
  | .bool true, _, rest, fuel + 1, _ => rfl
  | .bool false, _, rest, fuel + 1, _ => rfl
  | .string s, _, rest, fuel + 1, _ => by
    have hquote := skipSpace_cons (show isSpace '"' = false by decide)
    simp only [compactChars, quoteChars, List.cons_append, List.append_assoc, List.nil_append,
      readNode, hquote, readStringNode_quoted, Value.node]
  | .array [], _, rest, fuel + 2, _ => rfl
  | .array (v :: items), hv, rest, fuel + 3, hfuel => by
    simp only [numberFree, itemsNumberFree, Bool.and_eq_true] at hv
    simp only [compactChars, List.length_cons, List.length_append] at hfuel
    have hnode := readNode_compactChars v hv.1 (compactItems items ++ ']' :: rest) fuel (by omega)
    have hitems := readItems_compactItems items hv.2 rest fuel (by omega)
    have hfirst := readItems_first (fuel + 1)
      ((beginsItem_compactChars hv.1).append (compactItems items ++ ']' :: rest))
    have hopen := skipSpace_cons (show isSpace '[' = false by decide)
    simp only [compactChars, List.cons_append, List.append_assoc, List.nil_append, readNode, hopen,
      hfirst, readItem_eq hnode hitems, Value.node, itemNodes]
  | .object [], _, rest, fuel + 2, _ => rfl
  | .object ((k, v) :: members), hv, rest, fuel + 3, hfuel => by
    simp only [numberFree, membersNumberFree, Bool.and_eq_true] at hv
    simp only [compactChars, List.length_cons, List.length_append] at hfuel
    have hnode := readNode_compactChars v hv.1 (compactMembers members ++ '}' :: rest) fuel
      (by omega)
    have hmembers := readMembers_compactMembers members hv.2 rest fuel (by omega)
    have hopen := skipSpace_cons (show isSpace '{' = false by decide)
    simp only [compactChars, List.cons_append, List.append_assoc, List.nil_append, readNode, hopen,
      readMembers_first, readMember_eq hnode hmembers, Value.node, memberNodes]

/-- Further items, up to the end of the array. -/
theorem readItems_compactItems : ∀ (items : List Value), itemsNumberFree items = true →
    ∀ (rest : List Char) (fuel : Nat), 3 * (compactItems items).length + 1 ≤ fuel →
      readItems fuel false (compactItems items ++ ']' :: rest)
        = (itemNodes items, .closed, some rest)
  | [], _, rest, fuel + 1, _ => rfl
  | v :: items, hv, rest, fuel + 2, hfuel => by
    simp only [itemsNumberFree, Bool.and_eq_true] at hv
    simp only [compactItems, List.length_cons, List.length_append] at hfuel
    have hnode := readNode_compactChars v hv.1 (compactItems items ++ ']' :: rest) fuel (by omega)
    have hitems := readItems_compactItems items hv.2 rest fuel (by omega)
    have hnext := readItems_next (fuel + 1)
      ((beginsItem_compactChars hv.1).append (compactItems items ++ ']' :: rest))
    simp only [compactItems, List.cons_append, List.append_assoc, hnext, readItem_eq hnode hitems,
      itemNodes]

/-- Further members, up to the end of the object. -/
theorem readMembers_compactMembers : ∀ (members : List (String × Value)),
    membersNumberFree members = true → ∀ (rest : List Char) (fuel : Nat),
      3 * (compactMembers members).length + 1 ≤ fuel →
      readMembers fuel false (compactMembers members ++ '}' :: rest)
        = (memberNodes members, .closed, some rest)
  | [], _, rest, fuel + 1, _ => rfl
  | (k, v) :: members, hv, rest, fuel + 2, hfuel => by
    simp only [membersNumberFree, Bool.and_eq_true] at hv
    simp only [compactMembers, List.length_cons, List.length_append] at hfuel
    have hnode := readNode_compactChars v hv.1 (compactMembers members ++ '}' :: rest) fuel
      (by omega)
    have hmembers := readMembers_compactMembers members hv.2 rest fuel (by omega)
    simp only [compactMembers, List.cons_append, List.append_assoc, readMembers_next,
      readMember_eq hnode hmembers, memberNodes]

end

/-- **A whole text is read as the tree of its value.** -/
theorem Node.ofText_compact {v : Value} (hv : v.numberFree = true) :
    Node.ofText v.compact = (v.node, none) := by
  have hread := readNode_compactChars v hv [] (3 * v.compactChars.length + 3) (by omega)
  rw [List.append_nil] at hread
  simp [Node.ofText, Value.compact, Node.ofChars, hread, skipSpace]

end JobNotice.Json
