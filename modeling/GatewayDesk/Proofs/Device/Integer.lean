import GatewayDesk.Proofs.Device.Input
import GatewayDesk.Proofs.Json.Form
import GatewayDesk.Proofs.Json.Repeated
import GatewayDesk.Proofs.Json.Unambiguous
import GatewayDesk.Proofs.Ordered

/-!
# Integers in the fields of a device

An integer that 64 bits hold, with or without a sign, is kept exactly; any other is a fraction. The
identifier and the text of the device repeat the literal, and the interval is there where 64 bits
with a sign hold it.

* `Device.get?_ofMembers_form`: what the field of a literal holds.
* `Device.exists_compact`: the text of a device around one of its members.
* `DeviceFile.parse_integer`: literals of integers.
-/

namespace GatewayDesk

namespace Device

variable {device : Device} {key : String}

theorem read_of_object {text : String} {members : Json.Members}
    (h : Json.read .record text = .ok (.object members)) : read text = .ok (ofMembers members) := by
  rw [read, h]
  rfl

/-- The field of the open member holds what is written there, as no later member has its key. -/
theorem get?_ofMembers_form (form : Json.Form) (value : Json) :
    (ofMembers (form.members value)).get? form.key = some value.canonical := by
  have later : Ordered.get? (form.after.flatMap Json.Part.members).reverse form.key = none := by
    refine Ordered.get?_eq_none_iff.2 fun member mem => ?_
    obtain ⟨part, hp, hm⟩ := List.mem_flatMap.1 (List.mem_reverse.1 mem)
    exact form.last part hp member hm
  have own : Ordered.get? [(form.key, value)] form.key = some value := if_pos rfl
  show Ordered.get? (Json.canonicalMembers (form.members value)) form.key = _
  rw [Json.get?_canonicalMembers, Json.Form.members, List.reverse_append, List.reverse_cons,
    Ordered.get?_append, Ordered.get?_append, later, own]
  rfl

/-- The text of a device repeats every member as it is held. -/
theorem exists_compact {value : Json} (h : device.get? key = some value) :
    ∃ front back, device.members = front ++ (key, value) :: back ∧
      device.compact = "\x7b" ++ ",".intercalate (front.map Json.entry ++
        Json.entry (key, value) :: back.map Json.entry) ++ "\x7d" := by
  obtain ⟨front, back, split⟩ := List.append_of_mem (Ordered.mem_of_get? h)
  refine ⟨front, back, split, ?_⟩
  rw [compact, toJson, Json.compact_object, split, List.map_append, List.map_cons]

theorem id_of_integer {z : Int} {range : -0x8000000000000000 ≤ z ∧ z < 0x10000000000000000}
    (h : device.get? "id" = some (.number (.integer z range))) : device.id = some (toString z) := by
  rw [id, h, ← Digits.ofList_decimal]
  rfl

theorem interval_of_integer {z : Int}
    {range : -0x8000000000000000 ≤ z ∧ z < 0x10000000000000000}
    (h : device.get? "interval" = some (.number (.integer z range))) :
    device.interval = if z < 0x8000000000000000 then some z else none := by
  rw [interval, h]
  rfl

theorem interval_of_fraction {x : Binary64}
    (h : device.get? "interval" = some (.number (.fraction x))) : device.interval = none := by
  rw [interval, h]
  rfl

end Device

namespace DeviceFile

open Device

/-- An integer that 64 bits hold, with or without a sign, is kept exactly in the field of a device:
the identifier and the text of the device repeat its literal, and the interval is the integer where
64 bits with a sign hold it, and none above. Any other integer is refused or kept as a fraction, and
minus zero is kept as a fraction; then the interval is none. -/
theorem parse_integer (form : Json.Form) :
    (∀ (z : Int) (range : -0x8000000000000000 ≤ z ∧ z < 0x10000000000000000),
      ∃ device, parse (form.text (toString z)) .json = .ok device ∧
        device.get? form.key = some (.number (.integer z range)) ∧
        (form.key = "id" → device.id = some (toString z)) ∧
        (form.key = "interval" →
          device.interval = if z < 0x8000000000000000 then some z else none) ∧
        ∃ front back, device.members = front ++ (form.key, .number (.integer z range)) :: back ∧
          device.compact = "\x7b" ++ ",".intercalate (front.map Json.entry ++
            ((Json.string form.key).compact ++ ":" ++ toString z) :: back.map Json.entry) ++
              "\x7d") ∧
      (∀ z : Int, ¬(-0x8000000000000000 ≤ z ∧ z < 0x10000000000000000) →
        ∀ device, parse (form.text (toString z)) .json = .ok device →
          (∃ x, device.get? form.key = some (.number (.fraction x))) ∧
            (form.key = "interval" → device.interval = none)) ∧
      ∃ device, parse (form.text "-0") .json = .ok device ∧
        device.get? form.key = some (.number (.fraction (Binary64.zero true))) ∧
        (form.key = "interval" → device.interval = none) := by
  have held (n : Json.Number) := get?_ofMembers_form form (.number n)
  refine ⟨?_, ?_, ?_⟩
  · intro z range
    have found := held (.integer z range)
    have text : Json.entry (form.key, .number (.integer z range)) =
        (Json.string form.key).compact ++ ":" ++ toString z := by
      rw [← Digits.ofList_decimal]
      rfl
    refine ⟨_, parse_json_eq_ok_iff.2 (read_of_object (form.read_integer range)), found,
      ?_, ?_, text ▸ exists_compact found⟩
    · intro key
      exact id_of_integer (key ▸ found)
    · intro key
      exact interval_of_integer (key ▸ found)
  · intro z beyond device h
    rw [parse_json_eq_ok_iff] at h
    rcases form.read_beyond beyond with ⟨x, reads⟩ | ⟨e, refused⟩
    · obtain rfl := Except.ok.inj ((read_of_object reads).symm.trans h)
      have found := held (.fraction x)
      exact ⟨⟨x, found⟩, fun key => interval_of_fraction (key ▸ found)⟩
    · rw [Device.read, refused] at h
      cases h
  · have found := held (.fraction (Binary64.zero true))
    exact ⟨_, parse_json_eq_ok_iff.2 (read_of_object form.read_minusZero), found,
      fun key => interval_of_fraction (key ▸ found)⟩

/-- The largest identifier, the first interval for which there is no room, and the first integer
that is a fraction. -/
theorem parse_integer_limits :
    (∃ device, parse "\x7b\"id\": 5,\n \"\\u0069d\" : 18446744073709551615 \x7d\n" .json =
        .ok device ∧ device.id = some "18446744073709551615") ∧
      (∃ device, parse "\x7b\"interval\":9223372036854775808,\"name\":\"pump\"\x7d" .json =
        .ok device ∧ device.interval = none) ∧
      ∃ device x, parse "\x7b\"interval\":18446744073709551616,\"name\":\"pump\"\x7d" .json =
        .ok device ∧ device.get? "interval" = some (.number (.fraction x)) ∧
          device.interval = none := by
  let tight : Json.Space := ⟨"", List.all_eq_true.1 (by decide)⟩
  let gap : Json.Space := ⟨" ", List.all_eq_true.1 (by decide)⟩
  let line : Json.Space := ⟨"\n", List.all_eq_true.1 (by decide)⟩
  let older : Json.Part :=
    ⟨"\"id\": 5", [("id", .number (.integer 5 (by decide)))], List.cons_ne_nil _ _,
      Json.read_of_same ⟨trivial, trivial⟩ (by decide +kernel)⟩
  let named : Json.Part :=
    ⟨"\"name\":\"pump\"", [("name", .string "pump")], List.cons_ne_nil _ _,
      Json.read_of_same ⟨trivial, trivial⟩ (by decide +kernel)⟩
  let identified : Json.Form :=
    ⟨tight, [older], ⟨"\n ", List.all_eq_true.1 (by decide)⟩, "\\u0069d", "id",
      Json.read_of_same trivial (by decide +kernel), gap, gap, gap, [], line,
      List.forall_mem_nil _⟩
  let polled : Json.Form :=
    ⟨tight, [], tight, "interval", "interval", Json.read_of_same trivial (by decide +kernel), tight,
      tight, tight, [named], tight, by decide⟩
  refine ⟨?_, ?_, ?_⟩
  · have text : identified.text (toString (18446744073709551615 : Int)) =
        "\x7b\"id\": 5,\n \"\\u0069d\" : 18446744073709551615 \x7d\n" := by decide +kernel
    obtain ⟨device, parsed, -, id, -⟩ :=
      (parse_integer identified).1 18446744073709551615 (by decide)
    exact ⟨device, text ▸ parsed, id rfl⟩
  · have text : polled.text (toString (9223372036854775808 : Int)) =
        "\x7b\"interval\":9223372036854775808,\"name\":\"pump\"\x7d" := by decide +kernel
    obtain ⟨device, parsed, -, -, interval, -⟩ :=
      (parse_integer polled).1 9223372036854775808 (by decide)
    exact ⟨device, text ▸ parsed, interval rfl⟩
  · have text : polled.text (toString (18446744073709551616 : Int)) =
        "\x7b\"interval\":18446744073709551616,\"name\":\"pump\"\x7d" := by decide +kernel
    have reads : (parse "\x7b\"interval\":18446744073709551616,\"name\":\"pump\"\x7d"
        .json).toOption.any (fun _ => true) = true := by decide +kernel
    obtain ⟨device, parsed, -⟩ := Except.exists_of_any reads
    obtain ⟨⟨x, found⟩, interval⟩ :=
      (parse_integer polled).2.1 18446744073709551616 (by decide) device (text ▸ parsed)
    exact ⟨device, x, parsed, found, interval rfl⟩

end DeviceFile

end GatewayDesk
