import GatewayDesk.Desk.Listing
import GatewayDesk.Proofs.Device.Input
import GatewayDesk.Proofs.Device.RoundTrip
import GatewayDesk.Proofs.Json.Depth
import GatewayDesk.Proofs.Json.Records

/-!
# Lists of devices read back

Devices that are listed as JSON stand on one line. That line is read as a list of the same length
and order, whose records have the same keys and texts; a number in them is what its text is read as.

* `listing_eq`: the line is made of the texts of the devices.
* `depth_of_readList`: devices that were read from a list may be read from one again.
* `readList_listing`, `readList_listing_self_iff`: what the line is read as, and when that is the
  list.
-/

namespace GatewayDesk

namespace Device

/-! ## Listings -/

/-- Devices as JSON, on a line of their own. -/
theorem listing_eq (painting : Bool) (devices : List Device) :
    listing painting true devices = "[" ++ ",".intercalate (devices.map compact) ++ "]\n" := by
  rw [listing, if_pos rfl, listToJson, Json.compact_array, List.map_map, String.append_assoc]
  rfl

/-! ## Depth -/

theorem depth_of_ofItems {items : List Json} {devices : List Device}
    (h : ofItems items = .ok devices) :
    Json.depthOfItems (devices.map toJson) ≤ Json.depthOfItems items := by
  induction items generalizing devices with
  | nil =>
    cases h
    exact Nat.le_refl _
  | cons item rest ih =>
    obtain ⟨device, hd, h⟩ := Except.bind_eq_ok.1 h
    obtain ⟨others, ho, h⟩ := Except.bind_eq_ok.1 h
    cases h
    have deep : device.toJson.depth ≤ item.depth := by
      unfold ofJson at hd
      split at hd
      case h_1 members =>
        cases hd
        exact Json.depth_canonical_le (.object members)
      case h_2 => cases hd
    have := ih ho
    rw [List.map_cons, Json.depthOfItems, Json.depthOfItems]
    omega

/-- Devices that are read from a list are no deeper than the reader's limit, the list included. -/
theorem depth_of_readList {text : String} {devices : List Device}
    (h : readList text = .ok devices) :
    (listToJson devices).depth ≤ Json.Reader.depthLimit := by
  obtain ⟨value, hv, h⟩ := Except.bind_eq_ok.1 h
  have deep := Json.depth_le_of_read hv
  unfold listOfJson at h
  split at h
  case h_1 items =>
    have := depth_of_ofItems h
    rw [Json.depth] at deep
    rw [listToJson, Json.depth]
    omega
  case h_2 => cases h

/-! ## Reading back -/

/-- The record with the numbers that its numbers are read as. -/
def reread (device : Device) : Device :=
  ⟨Json.mapNumbersOfMembers Json.Number.reread device.members,
    Json.canonical_mapNumbers Json.Number.reread (.object device.members) device.canonical⟩

theorem toJson_inj {a b : Device} : a.toJson = b.toJson ↔ a = b := by
  obtain ⟨x, hx⟩ := a
  obtain ⟨y, hy⟩ := b
  simp [toJson]

/-- A record is read as itself exactly if all its numbers are. -/
theorem reread_eq_self_iff {device : Device} :
    device.reread = device ↔ device.toJson.EachNumber Json.Number.IsStable := by
  have stable : Json.Number.IsStable = fun n => n.reread = n :=
    funext fun n => propext Json.Reader.isStable_iff
  rw [stable, ← Json.mapNumbers_eq_self_iff, ← toJson_inj]
  rfl

theorem ofItems_toJson (devices : List Device) : ofItems (devices.map toJson) = .ok devices := by
  induction devices with
  | nil => rfl
  | cons device rest ih =>
    rw [List.map_cons, ofItems, ofJson_toJson, ih]
    rfl

theorem mapNumbers_listToJson (devices : List Device) :
    (listToJson devices).mapNumbers Json.Number.reread = listToJson (devices.map reread) := by
  have items : Json.mapNumbersOfItems Json.Number.reread (devices.map toJson) =
      (devices.map reread).map toJson := by
    induction devices with
    | nil => rfl
    | cons device rest ih => exact congrArg (device.reread.toJson :: ·) ih
  rw [listToJson, Json.mapNumbers, items]
  rfl

/-- The line of a list is read as the list of the records that its records are read as. -/
theorem readList_listing {painting : Bool} {devices : List Device}
    (hd : (listToJson devices).depth ≤ Json.Reader.depthLimit) :
    readList (listing painting true devices) = .ok (devices.map reread) := by
  have objects : listToJson devices = .array ((devices.map members).map .object) := by
    rw [List.map_map]
    rfl
  have text : Json.read .records (listing painting true devices) =
      .ok (listToJson (devices.map reread)) := by
    rw [← mapNumbers_listToJson]
    rw [objects] at hd ⊢
    rw [listing, if_pos rfl, objects]
    exact Json.read_records hd
  rw [readList, text]
  exact ofItems_toJson _

/-- The line of a list is read as the list exactly if every number in it is read as itself. -/
theorem readList_listing_self_iff {painting : Bool} {devices : List Device}
    (hd : (listToJson devices).depth ≤ Json.Reader.depthLimit) :
    readList (listing painting true devices) = .ok devices ↔
      ∀ device ∈ devices, device.toJson.EachNumber Json.Number.IsStable := by
  have unchanged : devices.map reread = devices ↔ ∀ device ∈ devices, device.reread = device := by
    rw [← List.map_inj_left, List.map_id']
  rw [readList_listing hd, Except.ok.injEq, unchanged]
  simp only [reread_eq_self_iff]

end Device

end GatewayDesk
