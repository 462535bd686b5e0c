import GatewayDesk.Text.Utf8
import Mathlib.Data.Char
import Mathlib.Data.List.Lex

/-!
# The order of texts by their bytes

Texts are ordered by their characters. Their bytes stand in the same order: the first byte of a
character tells how many bytes it has, more for later characters, and among characters of one length
the bits of the character are spelled from the highest on.

* `encodeChar_lt`: the order of two characters, whatever follows their bytes.
* `encode_lt_iff`: the order of two texts.
-/

namespace GatewayDesk

namespace Utf8

variable {u v : List UInt8}

theorem cons_lt_cons {a b : Nat} (ha : a < 256) (hb : b < 256) (h : a < b ∨ a = b ∧ u < v) :
    UInt8.ofNat a :: u < UInt8.ofNat b :: v := by
  rw [List.cons_lt_cons_iff, UInt8.lt_iff_toNat_lt, UInt8.toNat_ofNat', UInt8.toNat_ofNat',
    Nat.mod_eq_of_lt ha, Nat.mod_eq_of_lt hb]
  exact h.imp_right fun ⟨same, later⟩ => ⟨congrArg _ same, later⟩

/-! ## Characters -/

/-- The six lowest bits. -/
theorem last_lt {n m : Nat} (h : n % 64 < m % 64) :
    UInt8.ofNat (n % 64 + 128) :: u < UInt8.ofNat (m % 64 + 128) :: v :=
  cons_lt_cons (by omega) (by omega) (.inl (by omega))

/-- The twelve lowest bits. -/
theorem lastTwo_lt {n m : Nat} (h : n % 4096 < m % 4096) :
    UInt8.ofNat (n / 64 % 64 + 128) :: UInt8.ofNat (n % 64 + 128) :: u <
      UInt8.ofNat (m / 64 % 64 + 128) :: UInt8.ofNat (m % 64 + 128) :: v := by
  have bits : n / 64 % 64 + 128 < m / 64 % 64 + 128 ∨
      n / 64 % 64 + 128 = m / 64 % 64 + 128 ∧ n % 64 < m % 64 := by omega
  exact cons_lt_cons (by omega) (by omega) (bits.imp_right fun ⟨same, h⟩ => ⟨same, last_lt h⟩)

/-- The eighteen lowest bits. -/
theorem lastThree_lt {n m : Nat} (h : n % 262144 < m % 262144) :
    UInt8.ofNat (n / 4096 % 64 + 128) :: UInt8.ofNat (n / 64 % 64 + 128) ::
        UInt8.ofNat (n % 64 + 128) :: u <
      UInt8.ofNat (m / 4096 % 64 + 128) :: UInt8.ofNat (m / 64 % 64 + 128) ::
        UInt8.ofNat (m % 64 + 128) :: v := by
  have bits : n / 4096 % 64 + 128 < m / 4096 % 64 + 128 ∨
      n / 4096 % 64 + 128 = m / 4096 % 64 + 128 ∧ n % 4096 < m % 4096 := by omega
  exact cons_lt_cons (by omega) (by omega) (bits.imp_right fun ⟨same, h⟩ => ⟨same, lastTwo_lt h⟩)

/-- Of two characters the earlier one has the earlier bytes, whatever follows them. -/
theorem encodeChar_lt {c d : Char} (h : c < d) (u v : List UInt8) :
    String.utf8EncodeChar c ++ u < String.utf8EncodeChar d ++ v := by
  have before : c.val.toNat < d.val.toNat := h
  have last : d.val.toNat < 0x110000 := by
    have valid := d.valid
    simp only [UInt32.isValidChar, Nat.isValidChar] at valid
    omega
  unfold String.utf8EncodeChar
  generalize c.val.toNat = n at before
  generalize d.val.toNat = m at before last
  dsimp only
  -- A character of more bytes has the later first byte.
  split
  · split
    · exact cons_lt_cons (by omega) (by omega) (.inl before)
    split
    · exact cons_lt_cons (by omega) (by omega) (.inl (by omega))
    split
    · exact cons_lt_cons (by omega) (by omega) (.inl (by omega))
    · exact cons_lt_cons (by omega) (by omega) (.inl (by omega))
  split
  · rw [if_neg (by omega)]
    split
    · have bits : n / 64 % 32 + 192 < m / 64 % 32 + 192 ∨
          n / 64 % 32 + 192 = m / 64 % 32 + 192 ∧ n % 64 < m % 64 := by omega
      exact cons_lt_cons (by omega) (by omega) (bits.imp_right fun ⟨e, h⟩ => ⟨e, last_lt h⟩)
    split
    · exact cons_lt_cons (by omega) (by omega) (.inl (by omega))
    · exact cons_lt_cons (by omega) (by omega) (.inl (by omega))
  split
  · rw [if_neg (by omega), if_neg (by omega)]
    split
    · have bits : n / 4096 % 16 + 224 < m / 4096 % 16 + 224 ∨
          n / 4096 % 16 + 224 = m / 4096 % 16 + 224 ∧ n % 4096 < m % 4096 := by omega
      exact cons_lt_cons (by omega) (by omega) (bits.imp_right fun ⟨e, h⟩ => ⟨e, lastTwo_lt h⟩)
    · exact cons_lt_cons (by omega) (by omega) (.inl (by omega))
  · rw [if_neg (by omega), if_neg (by omega), if_neg (by omega)]
    have bits : n / 262144 % 8 + 240 < m / 262144 % 8 + 240 ∨
        n / 262144 % 8 + 240 = m / 262144 % 8 + 240 ∧ n % 262144 < m % 262144 := by omega
    exact cons_lt_cons (by omega) (by omega) (bits.imp_right fun ⟨e, h⟩ => ⟨e, lastThree_lt h⟩)

/-! ## Texts -/

theorem encode_cons (c : Char) (s : List Char) :
    encode (c :: s) = String.utf8EncodeChar c ++ encode s := List.flatMap_cons

theorem encode_lt_of_lt {s t : List Char} (h : s < t) : encode s < encode t := by
  induction s generalizing t with
  | nil =>
    cases t with
    | nil => exact absurd h (List.lt_irrefl [])
    | cons d t =>
      obtain ⟨b, rest, bytes⟩ := List.exists_cons_of_ne_nil (String.utf8EncodeChar_ne_nil (c := d))
      rw [encode_cons, bytes]
      exact List.nil_lt_cons b _
  | cons c s ih =>
    cases t with
    | nil => exact absurd h (List.not_lt_nil _)
    | cons d t =>
      rw [encode_cons, encode_cons]
      rcases List.cons_lt_cons_iff.1 h with before | ⟨rfl, later⟩
      · exact encodeChar_lt before _ _
      · exact List.append_left_lt (ih later)

/-- The order of texts is that of their bytes. -/
theorem encode_lt_iff {s t : List Char} : encode s < encode t ↔ s < t := by
  refine ⟨fun h => ?_, encode_lt_of_lt⟩
  rcases lt_trichotomy s t with before | rfl | after
  · exact before
  · exact absurd h (List.lt_irrefl _)
  · exact absurd h (List.lt_asymm (encode_lt_of_lt after))

end Utf8

end GatewayDesk
