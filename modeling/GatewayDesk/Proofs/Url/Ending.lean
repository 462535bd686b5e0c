import GatewayDesk.Proofs.Text.Utf8
import GatewayDesk.Proofs.Url.AsciiDomain
import GatewayDesk.Proofs.Url.Reading

/-!
# How authorities end

No authority ends with a blank or a control: as a part of its port it is no digit, and no host may
hold it. The steps of reading a host keep such a character at the end, up to the rule that forbids
it.

* `mem_form_append`: the normal form of a text keeps a character of ASCII at its end.
* `decode_append`: percent decoding keeps a character at the end that is no digit.
* `common_edge`: no authority ends with a blank or a control.
-/

namespace GatewayDesk

/-! ## Texts -/

namespace Text.Normal

variable {c : Char}

theorem place_append (h : rank c = 0) (mark : Char) (cs : List Char) :
    place mark (cs ++ [c]) = place mark cs ++ [c] := by
  induction cs with
  | nil => simp [place, h]
  | cons d cs ih =>
    rw [List.cons_append, place, place, ih]
    split <;> rfl

theorem arrange_append (h : rank c = 0) (cs : List Char) :
    arrange (cs ++ [c]) = arrange cs ++ [c] := by
  induction cs with
  | nil => simp [arrange, h]
  | cons d cs ih =>
    rw [List.cons_append, arrange, arrange, ih]
    split
    · rfl
    · exact place_append h d (arrange cs)

theorem mem_compose_append (h : c.toNat < 0x80) (letter : Char) (kept cs : List Char) :
    c ∈ compose letter kept (cs ++ [c]) := by
  induction cs generalizing letter kept with
  | nil => simp [compose, joined?_ascii letter h, rank_ascii h]
  | cons d cs ih =>
    rw [List.cons_append, compose]
    split
    · exact ih _ _
    · split
      · exact List.mem_append_right _ (ih _ _)
      · exact ih _ _

theorem mem_composeAll_append (h : c.toNat < 0x80) (cs : List Char) :
    c ∈ composeAll (cs ++ [c]) := by
  induction cs with
  | nil => simp [composeAll, rank_ascii h, compose]
  | cons d cs ih =>
    rw [List.cons_append, composeAll]
    split
    · exact mem_compose_append h d [] cs
    · exact List.mem_cons_of_mem d ih

/-- The normal form of a text keeps a character of ASCII at its end. -/
theorem mem_form_append (h : c.toNat < 0x80) (cs : List Char) : c ∈ form (cs ++ [c]) := by
  have whole : apart 8 c = [c] := by rw [apart, halves?_ascii h]
  rw [form, List.flatMap_append, List.flatMap_singleton, whole, arrange_append (rank_ascii h)]
  exact mem_composeAll_append h _

end Text.Normal

namespace Percent

/-- Percent decoding keeps a character at the end that is no digit. -/
theorem decode_append {e : Char} (he : Digits.hexValue? e = none) (cs : List Char) :
    decode (cs ++ [e]) = decode cs ++ String.utf8EncodeChar e := by
  induction cs using decode.induct with
  | case1 => simp [decode]
  | case2 a b cs x y hx hy ih => simp [decode, hx, hy, ih]
  | case3 a b cs none ih =>
    have undone (rest : List Char) :
        decode ('%' :: a :: b :: rest) = 0x25 :: decode (a :: b :: rest) := by
      rw [decode]
      split
      · exact absurd ‹_› (none _ _ ‹_›)
      · rfl
    rw [List.cons_append, List.cons_append, List.cons_append, undone, undone]
    exact congrArg _ ih
  | case4 c cs other ih =>
    have here : decode (c :: cs) = String.utf8EncodeChar c ++ decode cs := decode.eq_3 _ _ other
    rw [here, List.append_assoc, ← ih, List.cons_append]
    by_cases hc : ∃ a, c = '%' ∧ cs = [a]
    · obtain ⟨a, rfl, rfl⟩ := hc
      have percent : String.utf8EncodeChar '%' = [0x25] := rfl
      simp [decode, he, percent]
    · refine decode.eq_3 _ _ ?_
      rintro a b rest rfl hr
      cases cs with
      | nil => cases hr
      | cons d cs =>
        cases cs with
        | nil => exact hc ⟨d, rfl, rfl⟩
        | cons d' cs => exact other d d' cs rfl rfl

end Percent

namespace Url.Reader

variable {e : Char}

theorem ne_of_isEdge {d : Char} (h : isEdge e = true) (hd : isEdge d = false) : e ≠ d := by
  rintro rfl
  rw [h] at hd
  cases hd

/-- A blank or a control stands for itself in a domain, and no domain may hold it. -/
theorem toAscii?_edge (h : isEdge e = true) (cs : List Char) :
    Domain.toAscii? (cs ++ [e]) = none := by
  have le : e.toNat ≤ 0x20 := of_decide_eq_true h
  have ascii : e.toNat < 0x80 := by omega
  have small : e.toLower = e := by
    unfold Char.toLower
    rw [dif_neg]
    rintro ⟨ge, -⟩
    have : 65 ≤ e.val.toNat := UInt32.le_iff_toNat_le.1 ge
    have : e.val.toNat = e.toNat := rfl
    omega
  have forbidden : Domain.isForbidden e = true := by simp [Domain.isForbidden, le]
  rw [Domain.toAscii?, List.mapM_append]
  cases cs.mapM Domain.image? with
  | none => rfl
  | some images =>
    simp only [List.mapM_cons, List.mapM_nil, Domain.image?_ascii ascii, small, Option.bind_eq_bind,
      Option.bind_some, Option.pure_def, List.flatten_append, List.flatten_singleton]
    rw [if_pos]
    exact List.any_eq_true.2 ⟨e, Text.Normal.mem_form_append ascii _, forbidden⟩

/-- No host ends with a blank or a control. -/
theorem ofText_edge (h : isEdge e = true) (cs : List Char) (host : Host) :
    Host.ofText (cs ++ [e]) ≠ .ok host := by
  have ascii : e.toNat < 0x80 := Nat.lt_of_le_of_lt (of_decide_eq_true h) (by decide)
  have digit : Digits.hexValue? e = none := by
    have le : e.toNat ≤ 0x20 := of_decide_eq_true h
    simp only [Digits.hexValue?]
    rw [if_neg (by simp; omega), if_neg (by simp; omega), if_neg (by simp; omega)]
  intro ok
  rw [Host.ofText] at ok
  split at ok
  · have last : ¬((cs ++ [e]).getLast? == some ']') = true := by
      simp [ne_of_isEdge (d := ']') h rfl]
    rw [Host.bracketed?, if_neg last] at ok
    cases ok
  · split at ok
    · cases ok
    case h_2 decoded hd =>
      have bytes : Percent.decode (cs ++ [e]) = Utf8.encode decoded.toList :=
        Utf8.decode_toArray_iff.1 hd
      rw [Percent.decode_append digit] at bytes
      obtain ⟨front, hf⟩ := Utf8.eq_append_of_encode ascii bytes.symm
      rw [hf, toAscii?_edge h] at ok
      cases ok

theorem cutUser_append (h : e ≠ '@') (cs : List Char) :
    ∃ before front, cutUser (cs ++ [e]) = (before, front ++ [e]) := by
  rw [cutUser]
  split
  · have some : (e != '@') = true := bne_iff_ne.2 h
    rw [List.reverse_append, List.reverse_singleton, List.singleton_append]
    simp only [List.takeWhile_cons, some, if_true, List.reverse_cons]
    exact ⟨_, _, rfl⟩
  · exact ⟨none, cs, rfl⟩

/-- The host and what stands after it make up the whole; a colon stands between them. -/
theorem cutHost_parts (bracketed : Bool) (cs : List Char) :
    (cutHost bracketed cs).1 ++ (cutHost bracketed cs).2 = cs ∧
      ((cutHost bracketed cs).2 = [] ∨ ∃ digits, (cutHost bracketed cs).2 = ':' :: digits) := by
  induction cs generalizing bracketed with
  | nil => exact ⟨rfl, .inl rfl⟩
  | cons c cs ih =>
    rw [cutHost]
    split
    case isTrue h =>
      obtain ⟨rfl, -⟩ : c = ':' ∧ bracketed = false := by simpa using h
      exact ⟨rfl, .inr ⟨cs, rfl⟩⟩
    case isFalse =>
      obtain ⟨whole, after⟩ := ih (if c == '[' then true else if c == ']' then false else bracketed)
      exact ⟨congrArg (c :: ·) whole, after⟩

/-- No authority ends with a blank or a control. -/
theorem common_edge (h : isEdge e = true) (usual : Nat) (cs : List Char) (a : Authority) :
    common usual (cs ++ [e]) ≠ .ok a := by
  obtain ⟨before, front, user⟩ := cutUser_append (ne_of_isEdge (d := '@') h rfl) cs
  obtain ⟨whole, after⟩ := cutHost_parts false (front ++ [e])
  intro ok
  rw [common_eq, user] at ok
  dsimp only at ok
  split at ok
  · cases ok
  · rcases after with none | ⟨digits, after⟩
    · rw [none, List.append_nil] at whole
      rw [whole] at ok
      cases ht : Host.ofText (front ++ [e]) with
      | ok host => exact ofText_edge h front host ht
      | error e => rw [ht] at ok; cases ok
    · rw [after] at whole ok
      -- The character is the last of the digits, and there is no such digit.
      obtain ⟨some, none⟩ : digits.isEmpty = false ∧ digits.all Digits.isDigit = false := by
        rcases List.eq_nil_or_concat digits with rfl | ⟨ds, d, rfl⟩
        · have same := List.singleton_inj.1 (List.append_inj_right' whole rfl)
          exact absurd same.symm (ne_of_isEdge (d := ':') h rfl)
        · rw [List.concat_eq_append, ← List.cons_append, ← List.append_assoc] at whole
          obtain rfl := List.singleton_inj.1 (List.append_inj_right' whole rfl)
          have le : d.toNat ≤ 0x20 := of_decide_eq_true h
          refine ⟨by simp, List.all_eq_false.2 ⟨d, by simp, ?_⟩⟩
          simp [Digits.isDigit]
          omega
      simp only [port?, some, none, Bool.false_and, Bool.false_eq_true, if_false] at ok
      cases ht : Host.ofText (cutHost false (front ++ [e])).1 with
      | ok host => rw [ht] at ok; cases ok
      | error e => rw [ht] at ok; cases ok

end Url.Reader

end GatewayDesk
