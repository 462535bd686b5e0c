import GatewayDesk.Proofs.Json.Reading

/-!
# Texts that tell values apart

No two values whose numbers are integers have one text. The first character of a text tells the kind
of the value; where a string, a number or a container ends can be told without what follows it. So
texts that go on in any way are the same only if the values and what follows them are the same.

* `escaped_append_inj`, `text_append_inj`: characters of a string and strings.
* `digits_append_inj`, `decimal_append_inj`: numbers.
* `value_append_inj`: values.
* `compact_inj`: values with one text.
* `same_iff_compact`: two values are equal exactly if their texts are the same.
* `read_of_same`: what a text is read as.
-/

namespace GatewayDesk

namespace Json

namespace Printer

variable {c d : Char} {u v : List Char}

/-! ## Strings -/

/-- How many characters a character of a string takes, as its first two tell. -/
def codeLength : List Char → Nat
  | '\\' :: 'u' :: _ => 6
  | '\\' :: _ => 2
  | _ => 1

theorem codeLength_of_ne (h : c ≠ '\\') (u : List Char) : codeLength (c :: u) = 1 := by
  unfold codeLength
  split
  case h_1 e => exact absurd (List.cons.inj e).1 h
  case h_2 e => exact absurd (List.cons.inj e).1 h
  case h_3 => rfl

theorem codeLength_escaped (c : Char) (u : List Char) :
    codeLength (escaped c ++ u) = (escaped c).length := by
  unfold escaped
  split
  case h_8 quote slash _ _ _ _ _ =>
    split
    case isTrue control =>
      rw [Digits.hexPadded_four (by omega)]
      rfl
    case isFalse => exact codeLength_of_ne slash u
  all_goals rfl

theorem escaped_ne_quote (c : Char) (u v : List Char) : escaped c ++ u ≠ '"' :: v := by
  unfold escaped
  split
  case h_8 quote slash _ _ _ _ _ =>
    split
    case isTrue control => exact fun e => absurd (List.cons.inj e).1 (by decide)
    case isFalse => exact fun e => quote (List.cons.inj e).1
  all_goals exact fun e => absurd (List.cons.inj e).1 (by decide)

/-- What is read of a character is the character. -/
theorem escaped_inj (h : escaped c = escaped d) : c = d := by
  have hc : Reader.Reads .any ⟨[], .text .value []⟩ (escaped c) ⟨[], .text .value [c]⟩ :=
    Reader.reads_escaped .value [] c
  have hd : Reader.Reads .any ⟨[], .text .value []⟩ (escaped d) ⟨[], .text .value [d]⟩ :=
    Reader.reads_escaped .value [] d
  have same := hc 0
  rw [h, hd 0] at same
  cases same
  rfl

theorem escaped_append_inj (h : escaped c ++ u = escaped d ++ v) : c = d ∧ u = v := by
  have length : (escaped c).length = (escaped d).length := by
    rw [← codeLength_escaped c u, h, codeLength_escaped]
  obtain ⟨codes, rest⟩ := List.append_inj h length
  exact ⟨escaped_inj codes, rest⟩

theorem characters_append_inj {s t : List Char}
    (h : s.flatMap escaped ++ '"' :: u = t.flatMap escaped ++ '"' :: v) : s = t ∧ u = v := by
  induction s generalizing t with
  | nil =>
    cases t with
    | nil => exact ⟨rfl, (List.cons.inj h).2⟩
    | cons d t =>
      rw [List.flatMap_cons, List.append_assoc] at h
      exact absurd h.symm (escaped_ne_quote d _ _)
  | cons c s ih =>
    rw [List.flatMap_cons, List.append_assoc] at h
    cases t with
    | nil => exact absurd h (escaped_ne_quote c _ _)
    | cons d t =>
      rw [List.flatMap_cons, List.append_assoc] at h
      obtain ⟨rfl, later⟩ := escaped_append_inj h
      obtain ⟨rfl, rest⟩ := ih later
      exact ⟨rfl, rest⟩

/-- Strings with their quotes. -/
theorem text_append_inj {s t : String} (h : text s ++ u = text t ++ v) : s = t ∧ u = v := by
  rw [text, text, List.cons_append, List.cons_append, List.append_assoc, List.append_assoc] at h
  obtain ⟨same, rest⟩ := characters_append_inj (List.cons.inj h).2
  exact ⟨String.toList_inj.1 same, rest⟩

/-! ## Integers -/

/-- Whether what follows a number does not go on with a digit. -/
def Stops (u : List Char) : Prop := u.takeWhile Digits.isDigit = []

theorem stops_cons (h : Digits.isDigit c = false) : Stops (c :: u) := by
  rw [Stops, List.takeWhile_cons_of_neg (by simp [h])]

theorem takeWhile_digits (n : Nat) (hu : Stops u) :
    (Digits.digits n ++ u).takeWhile Digits.isDigit = Digits.digits n := by
  rw [List.takeWhile_append_of_pos fun c => Digits.isDigit_of_mem_digits, hu, List.append_nil]

theorem digits_append_inj {n m : Nat} (hu : Stops u) (hv : Stops v)
    (h : Digits.digits n ++ u = Digits.digits m ++ v) : n = m ∧ u = v := by
  have same : Digits.digits n = Digits.digits m := by
    rw [← takeWhile_digits n hu, h, takeWhile_digits m hv]
  rw [same] at h
  refine ⟨?_, List.append_cancel_left h⟩
  rw [← Digits.ofDigits_digits n, same, Digits.ofDigits_digits]

theorem digits_ne_minus (n : Nat) (u v : List Char) : Digits.digits n ++ u ≠ '-' :: v := by
  obtain ⟨c, cs, digits, -⟩ := Digits.digits_eq_cons n
  have digit : Digits.isDigit c = true :=
    Digits.isDigit_of_mem_digits (n := n) (digits ▸ List.mem_cons_self)
  rw [digits]
  rintro ⟨⟩
  cases digit

theorem decimal_append_inj {y z : Int} (hu : Stops u) (hv : Stops v)
    (h : Digits.decimal y ++ u = Digits.decimal z ++ v) : y = z ∧ u = v := by
  unfold Digits.decimal at h
  split at h
  case isTrue negative =>
    split at h
    case isTrue negative' =>
      obtain ⟨same, rest⟩ := digits_append_inj hu hv (List.cons.inj h).2
      exact ⟨by omega, rest⟩
    case isFalse => exact absurd h.symm (digits_ne_minus _ _ _)
  case isFalse negative =>
    split at h
    case isTrue => exact absurd h (digits_ne_minus _ _ _)
    case isFalse negative' =>
      obtain ⟨same, rest⟩ := digits_append_inj hu hv h
      exact ⟨by omega, rest⟩

theorem number_append_inj {n m : Number} (hn : n.IsInteger) (hm : m.IsInteger) (hu : Stops u)
    (hv : Stops v) (h : n.text ++ u = m.text ++ v) : n = m ∧ u = v := by
  cases n with
  | fraction x => exact hn.elim
  | integer y _ =>
    cases m with
    | fraction x => exact hm.elim
    | integer z _ =>
      obtain ⟨rfl, rest⟩ := decimal_append_inj hu hv h
      exact ⟨rfl, rest⟩

/-! ## Kinds -/

/-- The kinds of values that the first character of a text tells apart. -/
inductive Kind where
  | null
  | boolean
  | number
  | string
  | array
  | object

/-- The kind of a value. -/
def kind : Json → Kind
  | .null => .null
  | .boolean _ => .boolean
  | .number _ => .number
  | .string _ => .string
  | .array _ => .array
  | .object _ => .object

/-- The kind of the value that a text starts with. -/
def kindOf : List Char → Option Kind
  | 'n' :: _ => some .null
  | 't' :: _ => some .boolean
  | 'f' :: _ => some .boolean
  | '"' :: _ => some .string
  | '[' :: _ => some .array
  | '\x7b' :: _ => some .object
  | c :: _ => if Digits.isDigit c || c == '-' then some .number else none
  | [] => none

theorem kindOf_digits (n : Nat) (u : List Char) :
    kindOf (Digits.digits n ++ u) = some .number := by
  obtain ⟨c, cs, digits, -⟩ := Digits.digits_eq_cons n
  have digit : Digits.isDigit c = true :=
    Digits.isDigit_of_mem_digits (n := n) (digits ▸ List.mem_cons_self)
  rw [digits, List.cons_append]
  unfold kindOf
  split
  case h_7 e =>
    cases e
    rw [digit]
    rfl
  case h_8 e => cases e
  all_goals
    rename_i e
    cases e
    cases digit

/-- The text of a value tells its kind. -/
theorem kindOf_value {value : Json} (h : value.EachNumber Number.IsInteger) (u : List Char) :
    kindOf (Printer.value value ++ u) = some (kind value) := by
  match value with
  | .null => rfl
  | .boolean true => rfl
  | .boolean false => rfl
  | .number (.fraction _) => exact h.elim
  | .number (.integer z _) =>
    show kindOf (Digits.decimal z ++ u) = _
    unfold Digits.decimal
    split
    · rfl
    · exact kindOf_digits _ u
  | .string s => rfl
  | .array [] => rfl
  | .array (_ :: _) => rfl
  | .object [] => rfl
  | .object (_ :: _) => rfl

theorem kind_eq {x y : Json} (hx : x.EachNumber Number.IsInteger)
    (hy : y.EachNumber Number.IsInteger) (h : value x ++ u = value y ++ v) : kind x = kind y := by
  have same := congrArg kindOf h
  rw [kindOf_value hx, kindOf_value hy] at same
  exact Option.some.inj same

/-- No value starts with the bracket that ends an array. -/
theorem value_ne_bracket {x : Json} (hx : x.EachNumber Number.IsInteger) (u v : List Char) :
    value x ++ u ≠ ']' :: v := by
  intro h
  have same := congrArg kindOf h
  rw [kindOf_value hx] at same
  cases same

/-! ## Values -/

theorem stops_items (items : List Json) (u : List Char) : Stops (Printer.items items ++ u) := by
  cases items with
  | nil => exact stops_cons (by decide)
  | cons item rest => exact stops_cons (by decide)

theorem stops_members (members : Members) (u : List Char) :
    Stops (Printer.members members ++ u) := by
  cases members with
  | nil => exact stops_cons (by decide)
  | cons m rest => exact stops_cons (by decide)

/-- A key and its colon. -/
theorem key_append_inj {j k : String} (h : text j ++ ':' :: u = text k ++ ':' :: v) :
    j = k ∧ u = v := by
  obtain ⟨rfl, rest⟩ := text_append_inj h
  exact ⟨rfl, (List.cons.inj rest).2⟩

mutual

/-- The text of a value tells the value and where it ends. -/
theorem value_append_inj : (x y : Json) → x.EachNumber Number.IsInteger →
    y.EachNumber Number.IsInteger → ∀ {u v : List Char}, Stops u → Stops v →
    value x ++ u = value y ++ v → x = y ∧ u = v
  | .null, y, hx, hy, u, v, _, _, h => by
    have same := kind_eq hx hy h
    cases y with
    | null => exact ⟨rfl, List.append_cancel_left h⟩
    | _ => cases same
  | .boolean a, y, hx, hy, u, v, _, _, h => by
    have same := kind_eq hx hy h
    cases y with
    | boolean b =>
      cases a <;> cases b
      · exact ⟨rfl, List.append_cancel_left h⟩
      · exact absurd (List.cons.inj h).1 (by decide)
      · exact absurd (List.cons.inj h).1 (by decide)
      · exact ⟨rfl, List.append_cancel_left h⟩
    | _ => cases same
  | .number n, y, hx, hy, u, v, hu, hv, h => by
    have same := kind_eq hx hy h
    cases y with
    | number m =>
      obtain ⟨rfl, rest⟩ := number_append_inj hx hy hu hv h
      exact ⟨rfl, rest⟩
    | _ => cases same
  | .string s, y, hx, hy, u, v, _, _, h => by
    have same := kind_eq hx hy h
    cases y with
    | string t =>
      obtain ⟨rfl, rest⟩ := text_append_inj h
      exact ⟨rfl, rest⟩
    | _ => cases same
  | .array xs, y, hx, hy, u, v, _, _, h => by
    have same := kind_eq hx hy h
    cases y with
    | array ys =>
      match xs, ys, hx, hy, h with
      | [], [], _, _, h => exact ⟨rfl, List.append_cancel_left h⟩
      | [], b :: ys, _, hy, h =>
        simp only [value, List.cons_append, List.append_assoc] at h
        exact absurd (List.cons.inj h).2.symm (value_ne_bracket hy.1 _ _)
      | a :: xs, [], hx, _, h =>
        simp only [value, List.cons_append, List.append_assoc] at h
        exact absurd (List.cons.inj h).2 (value_ne_bracket hx.1 _ _)
      | a :: xs, b :: ys, hx, hy, h =>
        simp only [value, List.cons_append, List.append_assoc] at h
        obtain ⟨rfl, later⟩ := value_append_inj a b hx.1 hy.1 (stops_items xs u) (stops_items ys v)
          (List.cons.inj h).2
        obtain ⟨rfl, rest⟩ := items_append_inj xs ys hx.2 hy.2 later
        exact ⟨rfl, rest⟩
    | _ => cases same
  | .object xs, y, hx, hy, u, v, _, _, h => by
    have same := kind_eq hx hy h
    cases y with
    | object ys =>
      match xs, ys, hx, hy, h with
      | [], [], _, _, h => exact ⟨rfl, List.append_cancel_left h⟩
      | [], (k, b) :: ys, _, _, h => exact absurd (List.cons.inj (List.cons.inj h).2).1 (by decide)
      | (j, a) :: xs, [], _, _, h => exact absurd (List.cons.inj (List.cons.inj h).2).1 (by decide)
      | (j, a) :: xs, (k, b) :: ys, hx, hy, h =>
        simp only [value, List.cons_append, List.append_assoc] at h
        obtain ⟨rfl, inner⟩ := key_append_inj (List.cons.inj h).2
        obtain ⟨rfl, later⟩ := value_append_inj a b hx.1 hy.1 (stops_members xs u)
          (stops_members ys v) inner
        obtain ⟨rfl, rest⟩ := members_append_inj xs ys hx.2 hy.2 later
        exact ⟨rfl, rest⟩
    | _ => cases same

/-- The items after the first, and the end of the array. -/
theorem items_append_inj : (xs ys : List Json) → EachNumberOfItems Number.IsInteger xs →
    EachNumberOfItems Number.IsInteger ys → ∀ {u v : List Char},
    items xs ++ u = items ys ++ v → xs = ys ∧ u = v
  | [], [], _, _, u, v, h => ⟨rfl, List.append_cancel_left h⟩
  | [], b :: ys, _, _, u, v, h => absurd (List.cons.inj h).1 (by decide)
  | a :: xs, [], _, _, u, v, h => absurd (List.cons.inj h).1 (by decide)
  | a :: xs, b :: ys, hx, hy, u, v, h => by
    simp only [items, List.cons_append, List.append_assoc] at h
    obtain ⟨rfl, later⟩ := value_append_inj a b hx.1 hy.1 (stops_items xs u) (stops_items ys v)
      (List.cons.inj h).2
    obtain ⟨rfl, rest⟩ := items_append_inj xs ys hx.2 hy.2 later
    exact ⟨rfl, rest⟩

/-- The members after the first, and the end of the object. -/
theorem members_append_inj : (xs ys : Members) → EachNumberOfMembers Number.IsInteger xs →
    EachNumberOfMembers Number.IsInteger ys → ∀ {u v : List Char},
    members xs ++ u = members ys ++ v → xs = ys ∧ u = v
  | [], [], _, _, u, v, h => ⟨rfl, List.append_cancel_left h⟩
  | [], _ :: ys, _, _, u, v, h => absurd (List.cons.inj h).1 (by decide)
  | _ :: xs, [], _, _, u, v, h => absurd (List.cons.inj h).1 (by decide)
  | (j, a) :: xs, (k, b) :: ys, hx, hy, u, v, h => by
    simp only [members, List.cons_append, List.append_assoc] at h
    obtain ⟨rfl, inner⟩ := key_append_inj (List.cons.inj h).2
    obtain ⟨rfl, later⟩ := value_append_inj a b hx.1 hy.1 (stops_members xs u)
      (stops_members ys v) inner
    obtain ⟨rfl, rest⟩ := members_append_inj xs ys hx.2 hy.2 later
    exact ⟨rfl, rest⟩

end

end Printer

theorem compact_inj {x y : Json} (hx : x.EachNumber Number.IsInteger)
    (hy : y.EachNumber Number.IsInteger) : x.compact = y.compact ↔ x = y := by
  refine ⟨fun h => ?_, congrArg compact⟩
  have texts : Printer.value x ++ [] = Printer.value y ++ [] := by
    rw [List.append_nil, List.append_nil]
    exact String.ofList_injective h
  have stops : Printer.Stops [] := rfl
  exact (Printer.value_append_inj x y hx hy stops stops texts).1

/-! ## Equality -/

theorem Number.same_self (n : Number) : n.same n = true := by
  cases n with
  | integer z _ => exact beq_self_eq_true z
  | fraction x => simp [same, Binary64.same]

mutual

/-- A value equals itself. -/
theorem same_self : (x : Json) → x.same x = true
  | .null => rfl
  | .boolean b => beq_self_eq_true b
  | .number n => n.same_self
  | .string s => beq_self_eq_true s
  | .array items => sameItems_self items
  | .object members => sameMembers_self members

theorem sameItems_self : (items : List Json) → sameItems items items = true
  | [] => rfl
  | item :: rest => by rw [sameItems, same_self item, sameItems_self rest]; rfl

theorem sameMembers_self : (members : Members) → sameMembers members members = true
  | [] => rfl
  | (key, value) :: rest => by
    rw [sameMembers, beq_self_eq_true, same_self value, sameMembers_self rest]
    rfl

end

theorem Number.eq_of_same {n m : Number} (hn : n.IsInteger) (h : n.same m = true) : n = m := by
  cases n with
  | fraction x => exact hn.elim
  | integer y _ =>
    cases m with
    | fraction x => cases h
    | integer z _ =>
      obtain rfl : y = z := eq_of_beq h
      rfl

mutual

/-- A value whose numbers are integers equals only itself. -/
theorem eq_of_same : (x y : Json) → x.EachNumber Number.IsInteger → x.same y = true → x = y
  | .null, y, _, h => by cases y with | null => rfl | _ => cases h
  | .boolean a, y, _, h => by
    cases y with
    | boolean b => exact congrArg boolean (eq_of_beq h)
    | _ => cases h
  | .number n, y, hx, h => by
    cases y with
    | number m => exact congrArg number (n.eq_of_same hx h)
    | _ => cases h
  | .string s, y, _, h => by
    cases y with
    | string t => exact congrArg string (eq_of_beq h)
    | _ => cases h
  | .array xs, y, hx, h => by
    cases y with
    | array ys => exact congrArg array (eq_of_sameItems xs ys hx h)
    | _ => cases h
  | .object xs, y, hx, h => by
    cases y with
    | object ys => exact congrArg object (eq_of_sameMembers xs ys hx h)
    | _ => cases h

theorem eq_of_sameItems : (xs ys : List Json) → EachNumberOfItems Number.IsInteger xs →
    sameItems xs ys = true → xs = ys
  | [], [], _, _ => rfl
  | x :: xs, y :: ys, hx, h => by
    obtain ⟨first, rest⟩ := Bool.and_eq_true_iff.1 h
    rw [eq_of_same x y hx.1 first, eq_of_sameItems xs ys hx.2 rest]

theorem eq_of_sameMembers : (xs ys : Members) → EachNumberOfMembers Number.IsInteger xs →
    sameMembers xs ys = true → xs = ys
  | [], [], _, _ => rfl
  | (j, x) :: xs, (k, y) :: ys, hx, h => by
    obtain ⟨first, rest⟩ := Bool.and_eq_true_iff.1 h
    obtain ⟨keys, values⟩ := Bool.and_eq_true_iff.1 first
    rw [eq_of_beq keys, eq_of_same x y hx.1 values, eq_of_sameMembers xs ys hx.2 rest]

end

/-- Values whose numbers are integers are equal exactly if their texts are the same. -/
theorem same_iff_compact {x y : Json} (hx : x.EachNumber Number.IsInteger)
    (hy : y.EachNumber Number.IsInteger) : x.same y = true ↔ x.compact = y.compact := by
  rw [compact_inj hx hy]
  exact ⟨eq_of_same x y hx, fun h => h ▸ same_self x⟩

/-- A text is read as a value whose numbers are integers, if it is read as one equal to it. -/
theorem read_of_same {shape : Shape} {text : String} {value : Json}
    (integers : value.EachNumber Number.IsInteger)
    (h : (read shape text).toOption.any value.same = true) : read shape text = .ok value := by
  obtain ⟨other, found, same⟩ := Except.exists_of_any h
  rw [found, eq_of_same value other integers same]

end Json

end GatewayDesk
