import GatewayDesk.Url.Host

/-!
# Domains of ASCII

The tables of domains and of the normal form list no character of ASCII, so that a domain of ASCII
changes in one way only: large letters become small.

* `get?_eq_none`: a table whose first range starts above a code point does not list it.
* `form_ascii`: a text of ASCII is in its normal form.
* `toAscii?_ascii`: a domain of ASCII without labels in Punycode stands for itself in small letters.
* `Host.ofText_name`: such a domain is a host, unless it ends in a number.
-/

namespace GatewayDesk

namespace RangeTable

variable {α : Type}

theorem lookup?_eq_none {table : Array (Nat × Nat × α)} {n : Nat}
    (h : ∀ (i : Nat) e, table[i]? = some e → n < e.1) (low high fuel : Nat) :
    lookup? table n low high fuel = none := by
  induction fuel generalizing low high with
  | zero => rfl
  | succ fuel ih =>
    rw [lookup?]
    split
    · cases hm : table[(low + high) / 2]? with
      | none => simp [hm]
      | some e =>
        obtain ⟨first, last, value⟩ := e
        have := h _ _ hm
        simp only [hm]
        rw [if_pos this]
        exact ih _ _
    · rfl

/-- A table whose ranges all start above a code point does not list it. -/
theorem get?_eq_none {table : Array (Nat × Nat × α)} {n : Nat}
    (h : ∀ e ∈ table.toList, n < e.1) : get? table n = none :=
  lookup?_eq_none (fun i e he => h e (List.mem_of_getElem? (by simpa using he))) _ _ _

end RangeTable

namespace Text.Normal

/-! ## The normal form -/

theorem classRanges_beyond : ∀ e ∈ classRanges.toList, 0x80 ≤ e.1 := by decide +kernel

theorem composites_beyond : ∀ e ∈ composites.toList, 0x80 ≤ e.1 ∧ 0x80 ≤ e.2.2 := by
  decide +kernel

theorem rank_ascii {c : Char} (h : c.toNat < 0x80) : rank c = 0 := by
  rw [rank, RangeTable.get?_eq_none fun e he => ?_]
  · rfl
  · have := classRanges_beyond e he
    omega

theorem halves?_ascii {c : Char} (h : c.toNat < 0x80) : halves? c = none := by
  have hs : isSyllable c.toNat = false := by simp [isSyllable]; omega
  have hr : RangeTable.get? compositeRanges c.toNat = none := by
    refine RangeTable.get?_eq_none fun e he => ?_
    simp only [compositeRanges, Array.toList_map, List.mem_map] at he
    obtain ⟨d, hd, rfl⟩ := he
    have := (composites_beyond d hd).1
    exact Nat.lt_of_lt_of_le h this
  simp [halves?, hs, hr]

/-- No character joins with one of ASCII after it. -/
theorem joined?_ascii (a : Char) {b : Char} (h : b.toNat < 0x80) : joined? a b = none := by
  have found : composites.find? (fun e => e.2.1 == a.toNat && e.2.2 == b.toNat) = none := by
    rw [Array.find?_eq_none]
    intro e he
    have := (composites_beyond e (by simpa using he)).2
    have hne : e.2.2 ≠ b.toNat := by omega
    simp [hne]
  have h1 : ¬(0x1161 ≤ b.toNat) := by omega
  have h2 : ¬(0x11A7 < b.toNat) := by omega
  simp only [joined?, h1, h2, decide_false, Bool.and_false, Bool.false_and, Bool.false_eq_true,
    if_false]
  show (composites.find? fun e => e.2.1 == a.toNat && e.2.2 == b.toNat).map _ = none
  rw [found]
  rfl

theorem arrange_ascii {cs : List Char} (h : ∀ c ∈ cs, c.toNat < 0x80) : arrange cs = cs := by
  induction cs with
  | nil => rfl
  | cons c cs ih =>
    rw [arrange, if_pos (rank_ascii (h c List.mem_cons_self)),
      ih fun d hd => h d (List.mem_cons_of_mem _ hd)]

theorem compose_ascii (letter : Char) {cs : List Char} (h : ∀ c ∈ cs, c.toNat < 0x80) :
    compose letter [] cs = letter :: cs := by
  induction cs generalizing letter with
  | nil => rfl
  | cons c cs ih =>
    have hc := h c List.mem_cons_self
    rw [compose]
    simp only [List.head?_nil, Option.all_none, if_true, joined?_ascii letter hc, rank_ascii hc]
    rw [ih c fun d hd => h d (List.mem_cons_of_mem _ hd)]
    rfl

/-- A text of ASCII is in its normal form. -/
theorem form_ascii {cs : List Char} (h : ∀ c ∈ cs, c.toNat < 0x80) : form cs = cs := by
  have whole : cs.flatMap (apart 8) = cs := by
    induction cs with
    | nil => rfl
    | cons c cs ih =>
      rw [List.flatMap_cons, ih fun d hd => h d (List.mem_cons_of_mem _ hd), apart,
        halves?_ascii (h c List.mem_cons_self)]
      rfl
  rw [form, whole, arrange_ascii h]
  cases cs with
  | nil => rfl
  | cons c cs =>
    rw [composeAll, if_pos (rank_ascii (h c List.mem_cons_self)),
      compose_ascii c fun d hd => h d (List.mem_cons_of_mem _ hd)]

end Text.Normal

namespace Domain

/-! ## Labels -/

theorem labels_ne_nil (cs : List Char) : labels cs ≠ [] := by
  cases cs with
  | nil => exact List.cons_ne_nil _ _
  | cons c cs =>
    rw [labels]
    split
    · exact List.cons_ne_nil _ _
    · split <;> exact List.cons_ne_nil _ _

/-- Labels with dots between them are the text that they are the labels of. -/
theorem join_labels (cs : List Char) : join (labels cs) = cs := by
  induction cs with
  | nil => rfl
  | cons c cs ih =>
    rw [labels]
    cases hl : labels cs with
    | nil => exact absurd hl (labels_ne_nil cs)
    | cons l ls =>
      rw [hl] at ih
      by_cases hc : c = '.'
      · simp only [hc, if_true]
        rw [join, ih]
        · rfl
        · rintro ⟨⟩
      · simp only [hc, if_false]
        cases ls with
        | nil => rw [join] at ih ⊢; rw [ih]
        | cons m ms =>
          rw [join] at ih ⊢
          · rw [← ih]; rfl
          · rintro ⟨⟩
          · rintro ⟨⟩

theorem mem_of_mem_labels {cs : List Char} :
    ∀ {label : List Char} {c : Char}, label ∈ labels cs → c ∈ label → c ∈ cs := by
  induction cs with
  | nil =>
    intro label c hl hc
    obtain rfl := List.mem_singleton.1 hl
    exact hc
  | cons d cs ih =>
    intro label c hl hc
    rw [labels] at hl
    cases hs : labels cs with
    | nil => exact absurd hs (labels_ne_nil cs)
    | cons l ls =>
      rw [hs] at hl ih
      by_cases hd : d = '.'
      · simp only [hd, if_true, List.mem_cons] at hl
        rcases hl with rfl | hl
        · exact absurd hc List.not_mem_nil
        · exact List.mem_cons_of_mem _ (ih (List.mem_cons.2 hl) hc)
      · simp only [hd, if_false, List.mem_cons] at hl
        rcases hl with rfl | hl
        · rcases List.mem_cons.1 hc with rfl | hc
          · exact List.mem_cons_self
          · exact List.mem_cons_of_mem _ (ih List.mem_cons_self hc)
        · exact List.mem_cons_of_mem _ (ih (List.mem_cons_of_mem _ hl) hc)

/-! ## Domains -/

theorem toLower_ascii {c : Char} (h : c.toNat < 0x80) : c.toLower.toNat < 0x80 := by
  unfold Char.toLower
  split
  case isTrue hc =>
    have h1 : c.val.toNat ≤ 90 := UInt32.le_iff_toNat_le.1 hc.2
    show (c.val + ('a'.val - 'A'.val)).toNat < 0x80
    rw [UInt32.toNat_add]
    have : ('a'.val - 'A'.val).toNat = 32 := rfl
    omega
  case isFalse => exact h

theorem isMarked_ascii {c : Char} (h : c.toNat < 0x80) : (Direction.of c).isMarked = false := by
  unfold Direction.of
  simp only [h, if_true]
  split
  · rfl
  · split <;> rfl

theorem flowTogether_ascii {ls : List (List Char)} (h : ∀ l ∈ ls, ∀ c ∈ l, c.toNat < 0x80) :
    flowTogether ls = true := by
  have none : (ls.map (·.map Direction.of)).any (·.any Direction.isMarked) = false := by
    simp only [List.any_eq_false, List.mem_map, List.any_eq_true, not_exists, not_and]
    rintro _ ⟨l, hl, rfl⟩
    simp only [List.mem_map, Bool.not_eq_true]
    rintro _ ⟨c, hc, rfl⟩
    exact isMarked_ascii (h l hl c hc)
  rw [flowTogether]
  simp only [none, Bool.not_false, Bool.true_or]

theorem mapM_image?_ascii {cs : List Char} (h : ∀ c ∈ cs, c.toNat < 0x80) :
    cs.mapM image? = some (cs.map fun c => [c.toLower]) := by
  induction cs with
  | nil => rfl
  | cons c cs ih =>
    rw [List.mapM_cons, image?_ascii (h c List.mem_cons_self),
      ih fun d hd => h d (List.mem_cons_of_mem _ hd)]
    rfl

theorem mapM_of?_ascii {ls : List (List Char)} (h : ∀ l ∈ ls, ∀ c ∈ l, c.toNat < 0x80)
    (unmarked : ∀ l ∈ ls, isMarked l = false) :
    ls.mapM Label.of? = some (ls.map fun l => ⟨l, l⟩) := by
  induction ls with
  | nil => rfl
  | cons l ls ih =>
    have ascii : isAscii l = true := by
      rw [isAscii, List.all_eq_true]
      exact fun c hc => decide_eq_true (h l List.mem_cons_self c hc)
    rw [List.mapM_cons, ih (fun m hm => h m (List.mem_cons_of_mem _ hm))
      fun m hm => unmarked m (List.mem_cons_of_mem _ hm), Label.of?, if_pos ascii,
      if_neg (by simp [unmarked l List.mem_cons_self])]
    rfl

/-- A domain of ASCII without labels in Punycode stands for itself in small letters. -/
theorem toAscii?_ascii {cs : List Char} (h : ∀ c ∈ cs, c.toNat < 0x80)
    (allowed : ∀ c ∈ cs.map Char.toLower, isForbidden c = false)
    (unmarked : ∀ l ∈ labels (cs.map Char.toLower), isMarked l = false) :
    toAscii? cs = some (cs.map Char.toLower) := by
  have small : ∀ c ∈ cs.map Char.toLower, c.toNat < 0x80 := by
    intro c hc
    obtain ⟨d, hd, rfl⟩ := List.mem_map.1 hc
    exact toLower_ascii (h d hd)
  have flat : (cs.map fun c => [c.toLower]).flatten = cs.map Char.toLower :=
    (List.flatMap_def ..).symm.trans List.map_eq_flatMap.symm
  have open' : (cs.map Char.toLower).any isForbidden = false := by
    rw [List.any_eq_false]
    exact fun c hc => by simp [allowed c hc]
  have within : ∀ l ∈ labels (cs.map Char.toLower), ∀ c ∈ l, c.toNat < 0x80 :=
    fun l hl c hc => small c (mem_of_mem_labels hl hc)
  rw [toAscii?, mapM_image?_ascii h]
  simp only [Option.bind_eq_bind, Option.bind_some, flat, Text.Normal.form_ascii small, open',
    Bool.false_eq_true, if_false, mapM_of?_ascii within unmarked, List.map_map, Function.comp_def,
    List.map_id', flowTogether_ascii within, if_true, join_labels]

end Domain

/-! ## Hosts -/

theorem Percent.decode_eq_encode {cs : List Char} (h : '%' ∉ cs) : decode cs = Utf8.encode cs := by
  induction cs with
  | nil => rfl
  | cons c cs ih =>
    have hc : c ≠ '%' := fun e => h (e ▸ List.mem_cons_self)
    rw [decode, ih fun hm => h (List.mem_cons_of_mem _ hm)]
    · rfl
    · rintro a b rest rfl
      exact absurd rfl hc

theorem Utf8.decode_encode (cs : List Char) :
    decode ⟨(encode cs).toArray⟩ = .ok (String.ofList cs) := by
  have bytes : ByteArray.mk (encode cs).toArray = (String.ofList cs).toUTF8 :=
    ByteArray.ext List.data_toByteArray.symm
  rw [bytes, decode_toUTF8]

/-- Whether a text is a domain of ASCII without labels in Punycode that does not end in a number. -/
structure Host.IsName (cs : List Char) : Prop where
  ascii : ∀ c ∈ cs, c.toNat < 0x80
  allowed : ∀ c ∈ cs.map Char.toLower, Domain.isForbidden c = false
  unmarked : ∀ l ∈ Domain.labels (cs.map Char.toLower), Domain.isMarked l = false
  nonempty : cs ≠ []
  named : endsInNumber (cs.map Char.toLower) = false

instance (cs : List Char) : Decidable (Host.IsName cs) :=
  decidable_of_iff
    (cs.all (fun c => c.toNat < 0x80) = true ∧
      (cs.map Char.toLower).any Domain.isForbidden = false ∧
      (Domain.labels (cs.map Char.toLower)).any Domain.isMarked = false ∧ cs ≠ [] ∧
      Host.endsInNumber (cs.map Char.toLower) = false) <| by
    simp only [List.all_eq_true, decide_eq_true_eq, List.any_eq_false, Bool.not_eq_true]
    exact ⟨fun ⟨h1, h2, h3, h4, h5⟩ => ⟨h1, h2, h3, h4, h5⟩,
      fun ⟨h1, h2, h3, h4, h5⟩ => ⟨h1, h2, h3, h4, h5⟩⟩

/-- The name of a host is that host in small letters. -/
theorem Host.ofText_name {cs : List Char} (h : IsName cs) :
    ofText cs = .ok (.domain (cs.map Char.toLower)) := by
  have notIn : ∀ d : Char, d.toLower = d → Domain.isForbidden d = true → d ∉ cs := by
    intro d hd hf hm
    have := h.allowed d.toLower (List.mem_map_of_mem hm)
    rw [hd, hf] at this
    cases this
  have plain : '%' ∉ cs := notIn '%' (by decide) (by decide)
  have first : ¬((cs.head? == some '[') = true) := by
    intro hb
    exact notIn '[' (by decide) (by decide) (List.mem_of_mem_head? (eq_of_beq hb))
  have some : (cs.map Char.toLower).isEmpty = false := by simpa using h.nonempty
  rw [ofText, if_neg first, Percent.decode_eq_encode plain, Utf8.decode_encode]
  simp only [String.toList_ofList, Domain.toAscii?_ascii h.ascii h.allowed h.unmarked, some,
    h.named, Bool.false_eq_true, if_false]

end GatewayDesk
