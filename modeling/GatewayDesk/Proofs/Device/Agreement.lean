import GatewayDesk.Gateway.Reply
import GatewayDesk.Proofs.Except
import GatewayDesk.Proofs.Json.Repeated
import GatewayDesk.Proofs.Json.Shape

/-!
# Two ways to a record

A text may be read as a record at once, or as any value that is then taken as a record. Both ways
lead to the same record, in which a key holds what was written last, at every depth. A value that is
no object is refused with the same words; the reader of records adds where it stands.

* `ofJson_canonical`: an object in canonical form is the record of its members.
* `read_eq_ok_iff`: what is read as a record.
* `read_iff_ofJson_json`: both ways for every text.
-/

namespace GatewayDesk

theorem Json.found_canonical (value : Json) : value.canonical.found = value.found := by
  cases value <;> rfl

theorem Json.canonical_ne_object {value : Json} (h : ∀ members, value.canonical ≠ .object members)
    (members : Json.Members) : value ≠ .object members := by
  rintro rfl
  exact h _ rfl

/-- A place is told after the reason. -/
theorem Json.Error.message_at (reason : Json.Reason) (place : Position) :
    (Json.Error.mk reason (some place)).message =
      (Json.Error.mk reason none).message ++ " at " ++ place.describe := rfl

namespace Device

variable {device : Device} {text : String} {value : Json}

theorem ofJson_eq_ok_iff :
    ofJson value = .ok device ↔
      ∃ members, value = .object members ∧ ofMembers members = device := by
  unfold ofJson
  split
  case h_1 members =>
    rw [Except.ok.injEq]
    constructor
    · rintro rfl
      exact ⟨members, rfl, rfl⟩
    · rintro ⟨_, ⟨⟩, rfl⟩
      rfl
  case h_2 other =>
    refine iff_of_false nofun ?_
    rintro ⟨members, rfl, -⟩
    exact other members rfl

theorem ofJson_of_ne (h : ∀ members, value ≠ .object members) :
    ofJson value = .error ⟨.mismatch value.found .record, none⟩ := by
  unfold ofJson
  split
  case h_1 members => exact absurd rfl (h members)
  case h_2 => rfl

/-- A record does not depend on the form of the object that it is made of. -/
theorem ofJson_canonical (value : Json) : ofJson value.canonical = ofJson value := by
  cases value with
  | object members =>
    obtain ⟨ascending, canonical⟩ := Json.canonicalMembers_canonical members
    simp only [Json.canonical, ofJson, ofMembers,
      Json.canonicalMembers_eq_self _ ascending canonical]
  | _ => rfl

/-- A text is read as a record if it is read as a value that is one. -/
theorem read_eq_ok_iff :
    Device.read text = .ok device ↔
      ∃ written, Json.read .any text = .ok written ∧ ofJson written = .ok device := by
  rw [Device.read, Except.bind_eq_ok]
  rcases Json.read_record_cases text with
    ⟨⟨e, record⟩, ⟨f, any⟩⟩ | ⟨members, record, any⟩ | ⟨other, place, kind, record, any⟩
  · rw [record, any]
    exact iff_of_false nofun nofun
  · rw [record, any]
  · rw [record, any]
    refine iff_of_false nofun ?_
    rintro ⟨_, ⟨⟩, taken⟩
    rw [ofJson_of_ne kind] at taken
    cases taken

/-- A text that is a value but no object is no record, for the reason that its value is none. -/
theorem read_of_ne {written : Json} (h : Json.read .any text = .ok written)
    (kind : ∀ members, written ≠ .object members) :
    ∃ place, Device.read text = .error ⟨.mismatch written.found .record, some place⟩ := by
  rw [Device.read]
  rcases Json.read_record_cases text with
    ⟨-, ⟨f, any⟩⟩ | ⟨members, -, any⟩ | ⟨other, place, -, record, any⟩
  · cases any.symm.trans h
  · cases any.symm.trans h
    exact absurd rfl (kind members)
  · cases any.symm.trans h
    exact ⟨place, by rw [record]; rfl⟩

/-- The members of a record that was read are those that were written last, at every depth. -/
theorem at?_of_ofJson {written : Json} (h : ofJson written = .ok device) (path : List Json.Way) :
    device.toJson.at? path = (written.at? path).map Json.canonical := by
  obtain ⟨members, rfl, rfl⟩ := ofJson_eq_ok_iff.1 h
  exact Json.at?_canonical (.object members) path

/-- A text is read as a record exactly if it is read as a value that is one, and as the same record.
In both, every path leads to what was written last there. A value that is no object is refused
either way, with the same message, to which the reader of records adds the place. -/
theorem read_iff_ofJson_json (text : String) (status : Nat) :
    (∀ device, Device.read text = .ok device ↔
        ∃ value, (Reply.mk status text).json = .ok value ∧ ofJson value = .ok device) ∧
      (∀ written, Json.read .any text = .ok written →
        (∀ value, (Reply.mk status text).json = .ok value →
          ∀ path, value.at? path = (written.at? path).map Json.canonical) ∧
        ∀ device, Device.read text = .ok device →
          ∀ path, device.toJson.at? path = (written.at? path).map Json.canonical) ∧
      ∀ value, (Reply.mk status text).json = .ok value → (∀ members, value ≠ .object members) →
        ∃ typed untyped : Json.Error, ∃ place : Position,
          Device.read text = .error typed ∧ ofJson value = .error untyped ∧
            typed.message = untyped.message ++ " at " ++ place.describe := by
  refine ⟨fun device => ?_, fun written any => ⟨fun value found => ?_, fun device found => ?_⟩, ?_⟩
  · rw [read_eq_ok_iff]
    constructor
    · rintro ⟨written, any, taken⟩
      have found : (Reply.mk status text).json = .ok written.canonical := by
        rw [Reply.json, any]
        rfl
      exact ⟨written.canonical, found, (ofJson_canonical written).trans taken⟩
    · rintro ⟨value, found, taken⟩
      obtain ⟨written, any, rfl⟩ := Except.map_eq_ok.1 found
      exact ⟨written, any, (ofJson_canonical written).symm.trans taken⟩
  · obtain ⟨_, any', rfl⟩ := Except.map_eq_ok.1 found
    cases any.symm.trans any'
    exact Json.at?_canonical written
  · obtain ⟨_, any', taken⟩ := read_eq_ok_iff.1 found
    cases any.symm.trans any'
    exact at?_of_ofJson taken
  · intro value found kind
    obtain ⟨written, any, rfl⟩ := Except.map_eq_ok.1 found
    obtain ⟨place, refused⟩ := read_of_ne any (Json.canonical_ne_object kind)
    have same := ofJson_of_ne kind
    rw [Json.found_canonical] at same
    exact ⟨_, _, place, refused, same, Json.Error.message_at _ place⟩

/-- Keys that are repeated at two depths, and a list with one record. -/
theorem read_iff_ofJson_json_repeated :
    let text := "\x7b\"a\":\x7b\"b\":1\x7d,\"a\":\x7b\"b\":2,\"b\":[3]\x7d\x7d"
    (∃ device, Device.read text = .ok device ∧
        (device.toJson.at? [.key "a", .key "b", .place 0]).any (fun value =>
          decide (value.compact = "3")) = true) ∧
      ∃ typed untyped : Json.Error, ∃ place : Position,
        Device.read "[\x7b\x7d]" = .error typed ∧
          untyped.message = "invalid type: sequence, expected a map" ∧
          typed.message = untyped.message ++ " at " ++ place.describe := by
  intro text
  refine ⟨?_, ?_⟩
  · have fine : ((Reply.mk 200 text).json >>= ofJson).toOption.any (fun device =>
        (device.toJson.at? [.key "a", .key "b", .place 0]).any (fun value =>
          decide (value.compact = "3"))) = true := by decide +kernel
    obtain ⟨device, found, last⟩ := Except.exists_of_any fine
    exact ⟨device, ((read_iff_ofJson_json text 200).1 device).2 (Except.bind_eq_ok.1 found), last⟩
  · have fine : (Reply.mk 200 "[\x7b\x7d]").json.toOption.any (fun value =>
        decide (value.found = .sequence)) = true := by decide +kernel
    obtain ⟨value, found, list⟩ := Except.exists_of_any fine
    have sequence : value.found = .sequence := of_decide_eq_true list
    have kind (members : Json.Members) : value ≠ .object members := by
      rintro rfl
      cases sequence
    obtain ⟨typed, untyped, place, refused, same, message⟩ :=
      (read_iff_ofJson_json "[\x7b\x7d]" 200).2.2 value found kind
    refine ⟨typed, untyped, place, refused, ?_, message⟩
    rw [ofJson_of_ne kind, sequence] at same
    cases same
    rfl

end Device

end GatewayDesk
