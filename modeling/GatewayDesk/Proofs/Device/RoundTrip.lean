import GatewayDesk.DeviceFile
import GatewayDesk.Gateway.Request
import GatewayDesk.Proofs.Json.RoundTrip

/-!
# Records read back

`read_body`: the body that a record has in a request reads back as that record, by the reader of
records and as a device file. So nothing is added, dropped or renamed, and no value changes.
-/

namespace GatewayDesk

namespace Device

theorem ofJson_toJson (device : Device) : ofJson device.toJson = .ok device := by
  obtain ⟨members, canonical⟩ := device
  simp only [toJson, ofJson, ofMembers,
    Json.canonicalMembers_eq_self members canonical.1 canonical.2]

/-- A record whose numbers read back, and that the reader may open, reads back. -/
theorem read_compact {device : Device} (hd : device.toJson.depth ≤ Json.Reader.depthLimit)
    (hn : device.toJson.EachNumber Json.Reader.ReadsBack) :
    Device.read device.compact = .ok device := by
  have text : Json.read .record device.compact = .ok device.toJson := Json.read_record hn hd
  rw [Device.read, text]
  exact ofJson_toJson device

theorem parse_of_read {text : String} {device : Device} (h : Device.read text = .ok device) :
    DeviceFile.parse text .json = .ok device := by
  simp [DeviceFile.parse, h, Attempt.ofJson, Attempt.during, Except.mapError_ok]

/-- The body of a record reads back as the record: up to the reader's limit of open containers, the
record itself among them, whatever its keys and texts are and whichever 64-bit integers it holds. -/
theorem read_body (device : Device) (deep : device.toJson.depth ≤ 127)
    (integers : device.toJson.EachNumber Json.Number.IsInteger) :
    (Call.create device).body = some device.compact ∧
      (∀ id, (Call.update id device).body = some device.compact) ∧
      Device.read device.compact = .ok device ∧
      DeviceFile.parse device.compact .json = .ok device := by
  have back := Json.EachNumber.imp Json.Reader.readsBack_integer device.toJson integers
  have read := read_compact deep back
  exact ⟨rfl, fun _ => rfl, read, parse_of_read read⟩

/-- A record with as many containers as may be open, both ends of the range of integers, and
characters that are escaped in the key and in the text. -/
def deepest : Device :=
  empty.set "\u0000\"\\\u001f" <|
    Nat.repeat (fun value => .array [value, .number (.integer (-0x8000000000000000) (by decide)),
      .number (.integer 0xFFFFFFFFFFFFFFFF (by decide))]) 126 (.string "\r\n/\u007f😀")

theorem read_body_deepest : deepest.toJson.depth = 127 ∧
    (Call.create deepest).body = some deepest.compact ∧
      (∀ id, (Call.update id deepest).body = some deepest.compact) ∧
      Device.read deepest.compact = .ok deepest ∧
      DeviceFile.parse deepest.compact .json = .ok deepest :=
  ⟨by decide +kernel, read_body deepest (by decide +kernel) (by decide +kernel)⟩

end Device

end GatewayDesk
