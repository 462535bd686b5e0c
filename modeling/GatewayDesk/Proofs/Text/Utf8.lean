import GatewayDesk.Text.Utf8

/-!
# Bytes of texts

Bytes are read as a text exactly if they are the bytes of that text, so that what is known of the
last byte is known of the last character.

* `decode_eq_ok_iff`, `decode_toArray_iff`: the bytes that are read as a text.
* `eq_append_of_encode`: a text whose bytes end with a character of ASCII.
-/

namespace GatewayDesk

namespace Utf8

theorem decode_eq_ok_iff {bytes : ByteArray} {text : String} :
    decode bytes = .ok text ↔ bytes = text.toUTF8 := by
  constructor
  · intro h
    unfold decode at h
    split at h
    case h_1 text' found =>
      cases h
      unfold String.fromUTF8? at found
      split at found
      case isTrue =>
        cases found
        rfl
      case isFalse => cases found
    case h_2 => cases h
  · rintro rfl
    exact decode_toUTF8 text

theorem encodeChar_ascii {c : Char} (h : c.toNat < 0x80) :
    String.utf8EncodeChar c = [UInt8.ofNat c.toNat] :=
  if_pos (Nat.le_of_lt_succ h)

/-- The last byte of a character beyond ASCII is one that continues a character. -/
theorem encodeChar_beyond {c : Char} (h : ¬c.toNat < 0x80) :
    ∃ front n, String.utf8EncodeChar c = front ++ [UInt8.ofNat (n % 64 + 128)] := by
  have large : ¬c.val.toNat ≤ 127 := fun small => h (Nat.lt_succ_of_le small)
  unfold String.utf8EncodeChar
  dsimp only
  rw [if_neg large]
  split
  · exact ⟨[_], _, rfl⟩
  · split
    · exact ⟨[_, _], _, rfl⟩
    · exact ⟨[_, _, _], _, rfl⟩

/-- Bytes that are read as a text are the bytes of that text. -/
theorem decode_toArray_iff {bytes : List UInt8} {text : String} :
    decode ⟨bytes.toArray⟩ = .ok text ↔ bytes = encode text.toList := by
  have encoded : text.toUTF8 = ⟨(encode text.toList).toArray⟩ := by
    conv => lhs; rw [← String.ofList_toList (s := text)]
    exact ByteArray.ext List.data_toByteArray
  rw [decode_eq_ok_iff, encoded]
  simp

/-- A text whose bytes end with one of ASCII ends with that character. -/
theorem eq_append_of_encode {cs : List Char} {bytes : List UInt8} {e : Char}
    (he : e.toNat < 0x80) (h : encode cs = bytes ++ String.utf8EncodeChar e) :
    ∃ front, cs = front ++ [e] := by
  rw [encodeChar_ascii he] at h
  rcases List.eq_nil_or_concat cs with rfl | ⟨front, c, rfl⟩
  · exact absurd h.symm (by simp [encode])
  · have split : encode (front.concat c) = encode front ++ String.utf8EncodeChar c := by
      rw [List.concat_eq_append, encode, List.flatMap_append, List.flatMap_singleton]
      rfl
    rw [split] at h
    by_cases hc : c.toNat < 0x80
    · rw [encodeChar_ascii hc] at h
      have same := congrArg UInt8.toNat (List.singleton_inj.1 (List.append_inj_right' h rfl))
      rw [UInt8.toNat_ofNat', UInt8.toNat_ofNat'] at same
      have : c = e := Char.toNat_inj.1 (by omega)
      exact ⟨front, by rw [this, List.concat_eq_append]⟩
    · obtain ⟨before, n, hn⟩ := encodeChar_beyond hc
      rw [hn, ← List.append_assoc] at h
      have same := congrArg UInt8.toNat (List.singleton_inj.1 (List.append_inj_right' h rfl))
      rw [UInt8.toNat_ofNat', UInt8.toNat_ofNat'] at same
      omega

end Utf8

end GatewayDesk
