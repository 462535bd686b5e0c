import GatewayDesk.Proofs.Device.Agreement
import GatewayDesk.Proofs.Device.Input
import GatewayDesk.Proofs.Device.RoundTrip
import GatewayDesk.Proofs.Json.Nesting

/-!
# Lists read element by element

A list of texts that are records is read as the list of those records, in a device file and in a
reply, if each text leaves room for one more container. What is read as a list of records is an
array of as many objects.

* `ofItems_eq_ok_iff`: the records of a list of values are those of the values.
* `readList_list`, `readList_list_deep`: a list of texts that are records.
* `exists_objects_of_readList`: what is a list of records.
* `parseList_list`: device files and replies that hold a list.
-/

namespace GatewayDesk

/-- How many containers stand in one another in a text, if it is a JSON value. -/
def Json.nesting? (text : String) : Option Nat := (Json.read .any text).toOption.map Json.depth

theorem Json.nesting?_of_read {text : String} {value : Json} {shape : Json.Shape}
    (h : Json.read shape text = .ok value) : Json.nesting? text = some value.depth := by
  rw [nesting?, Json.read_any h]
  rfl

namespace Device

variable {items : List Json} {devices : List Device} {elements : List Json.Element}
  {text : String}

/-- The records of a list of values are those of the values, one by one. -/
theorem ofItems_eq_ok_iff :
    ofItems items = .ok devices ↔
      List.Forall₂ (fun item device => ofJson item = .ok device) items devices := by
  induction items generalizing devices with
  | nil =>
    constructor
    · rintro ⟨⟩
      exact .nil
    · rintro ⟨⟩
      rfl
  | cons item rest ih =>
    constructor
    · intro h
      obtain ⟨device, taken, h⟩ := Except.bind_eq_ok.1 h
      obtain ⟨others, later, h⟩ := Except.bind_eq_ok.1 h
      cases h
      exact .cons taken (ih.1 later)
    · rintro (_ | ⟨taken, later⟩)
      exact Except.bind_eq_ok.2 ⟨_, taken, Except.bind_eq_ok.2 ⟨_, ih.2 later, rfl⟩⟩

/-- The values of texts that are records. -/
theorem exists_values
    (h : List.Forall₂ (fun element device => Device.read element.text = .ok device) elements
      devices) :
    ∃ values, List.Forall₂ (fun element value => Json.read .record element.text = .ok value)
        elements values ∧
      List.Forall₂ (fun value device => ofJson value = .ok device) values devices := by
  induction h with
  | nil => exact ⟨[], .nil, .nil⟩
  | cons read _ ih =>
    obtain ⟨value, found, taken⟩ := Except.bind_eq_ok.1 read
    obtain ⟨values, others, later⟩ := ih
    exact ⟨value :: values, .cons found others, .cons taken later⟩

/-- Values that are records are objects. -/
theorem exists_objects
    (h : List.Forall₂ (fun item device => ofJson item = .ok device) items devices) :
    ∃ objects : List Json.Members,
      items = objects.map .object ∧ devices = objects.map ofMembers := by
  induction h with
  | nil => exact ⟨[], rfl, rfl⟩
  | cons taken _ ih =>
    obtain ⟨members, rfl, rfl⟩ := ofJson_eq_ok_iff.1 taken
    obtain ⟨objects, rfl, rfl⟩ := ih
    exact ⟨members :: objects, rfl, rfl⟩

/-- The text of a record nests as deep as the record. -/
theorem nesting?_compact {device : Device} (deep : device.toJson.depth ≤ Json.Reader.depthLimit)
    (integers : device.toJson.EachNumber Json.Number.IsInteger) :
    Json.nesting? device.compact = some device.toJson.depth :=
  Json.nesting?_of_read <| Json.read_record
    (Json.EachNumber.imp Json.Reader.readsBack_integer device.toJson integers) deep

/-- The texts nest as deep as their values. -/
theorem map_nesting? {values : List Json}
    (h : List.Forall₂ (fun element value => Json.read .record element.text = .ok value) elements
      values) :
    elements.map (fun element => Json.nesting? element.text) =
      values.map fun value => some value.depth := by
  induction h with
  | nil => rfl
  | cons found _ ih => rw [List.map_cons, List.map_cons, ih, Json.nesting?_of_read found]

/-- A list of texts that are records is read as the records, if each leaves room for the list. -/
theorem readList_list
    (h : List.Forall₂ (fun element device => Device.read element.text = .ok device) elements
      devices)
    (room : ∀ element ∈ elements, ∃ n < Json.Reader.depthLimit,
      Json.nesting? element.text = some n) :
    readList (Json.Element.list elements) = .ok devices := by
  obtain ⟨values, found, taken⟩ := exists_values h
  have shallow : ∀ value ∈ values, value.depth < Json.Reader.depthLimit := by
    intro value mem
    have mem' := List.mem_map_of_mem (f := fun value => some value.depth) mem
    rw [← map_nesting? found, List.mem_map] at mem'
    obtain ⟨element, mem', nests⟩ := mem'
    obtain ⟨n, small, nests'⟩ := room element mem'
    obtain rfl := Option.some.inj (nests.symm.trans nests')
    exact small
  rw [readList, Json.read_list found shallow]
  exact ofItems_eq_ok_iff.2 taken

/-- A list of texts that are records is refused, if one of them leaves no room for the list. -/
theorem readList_list_deep
    (h : List.Forall₂ (fun element device => Device.read element.text = .ok device) elements
      devices)
    (deep : ∃ element ∈ elements, Json.nesting? element.text = some Json.Reader.depthLimit) :
    ∃ place, readList (Json.Element.list elements) = .error ⟨.tooDeep, some place⟩ := by
  obtain ⟨values, found, -⟩ := exists_values h
  obtain ⟨element, mem, nests⟩ := deep
  have mem' := List.mem_map_of_mem (f := fun element => Json.nesting? element.text) mem
  rw [map_nesting? found, List.mem_map] at mem'
  obtain ⟨value, mem', nests'⟩ := mem'
  have full : Json.Reader.depthLimit ≤ value.depth :=
    (Option.some.inj (nests'.trans nests)).ge
  obtain ⟨place, refused⟩ := Json.read_list_deep found ⟨value, mem', full⟩
  exact ⟨place, by rw [readList, refused]; rfl⟩

/-- What is read as a list of records is an array of objects, and the records are theirs. -/
theorem exists_objects_of_readList (h : readList text = .ok devices) :
    ∃ objects : List Json.Members,
      Json.read .any text = .ok (.array (objects.map .object)) ∧
        devices = objects.map ofMembers := by
  obtain ⟨value, found, h⟩ := Except.bind_eq_ok.1 h
  unfold listOfJson at h
  split at h
  case h_1 items =>
    obtain ⟨objects, rfl, rfl⟩ := exists_objects (ofItems_eq_ok_iff.1 h)
    exact ⟨objects, Json.read_any found, rfl⟩
  case h_2 => cases h

end Device

namespace DeviceFile

/-- A list of texts is read element by element. If each text is a device and nests at most 126
containers, a file and a reply that hold the list are read as these devices, in order. If one nests
127 containers, which may stand alone, there are too many in the list. And what is read as a list is
an array of objects, one for each device. -/
theorem parseList_list :
    (∀ (elements : List Json.Element) (devices : List Device) (status : Nat),
        List.Forall₂ (fun element device => parse element.text .json = .ok device) elements
          devices →
        ((∀ element ∈ elements, ∃ n ≤ 126, Json.nesting? element.text = some n) →
          parseList (Json.Element.list elements) .json = .ok devices ∧
            (Reply.mk status (Json.Element.list elements)).devices = .ok devices) ∧
          ((∃ element ∈ elements, Json.nesting? element.text = some 127) →
            ∃ place, parseList (Json.Element.list elements) .json =
                .error ⟨["Expected a list of devices"], .json ⟨.tooDeep, some place⟩⟩ ∧
              (Reply.mk status (Json.Element.list elements)).devices =
                .error ⟨.tooDeep, some place⟩)) ∧
      ∀ (contents : String) (devices : List Device),
        parseList contents .json = .ok devices →
          ∃ objects : List Json.Members,
            Json.read .any contents = .ok (.array (objects.map .object)) ∧
              objects.length = devices.length ∧ devices = objects.map Device.ofMembers := by
  refine ⟨fun elements devices status h => ?_, fun contents devices h => ?_⟩
  · have read := h.imp fun element device => parse_json_eq_ok_iff.1
    refine ⟨fun room => ?_, fun deep => ?_⟩
    · have list := Device.readList_list read fun element mem => by
        obtain ⟨n, small, nests⟩ := room element mem
        exact ⟨n, Nat.lt_succ_of_le small, nests⟩
      exact ⟨parseList_json_eq_ok_iff.2 list, list⟩
    · obtain ⟨place, refused⟩ := Device.readList_list_deep read deep
      exact ⟨place, by rw [parseList, refused]; rfl, refused⟩
  · obtain ⟨objects, found, rfl⟩ :=
      Device.exists_objects_of_readList (parseList_json_eq_ok_iff.1 h)
    exact ⟨objects, found, (List.length_map _).symm, rfl⟩

/-- A record with arrays in one another. -/
def tower (arrays : Nat) : Device :=
  .set .empty "a" (Nat.repeat (fun value => .array [value]) arrays .null)

/-- A record that fills a list, and one that may stand alone only. -/
theorem parseList_list_tower :
    let elements (arrays : Nat) : List Json.Element :=
      [⟨" ", Device.empty.compact, "\r\n\t", List.all_eq_true.1 (by decide)⟩,
        ⟨"", (tower arrays).compact, " ", List.all_eq_true.1 (by decide)⟩]
    (parseList (Json.Element.list (elements 125)) .json = .ok [.empty, tower 125] ∧
        ∃ objects : List Json.Members, objects.length = 2 ∧
          Json.read .any (Json.Element.list (elements 125)) =
            .ok (.array (objects.map .object))) ∧
      parse (tower 126).compact .json = .ok (tower 126) ∧
        ∃ place, parseList (Json.Element.list (elements 126)) .json =
          .error ⟨["Expected a list of devices"], .json ⟨.tooDeep, some place⟩⟩ := by
  intro elements
  have stands (device : Device) (deep : device.toJson.depth ≤ 127)
      (integers : device.toJson.EachNumber Json.Number.IsInteger) :
      parse device.compact .json = .ok device ∧
        Json.nesting? device.compact = some device.toJson.depth :=
    ⟨(Device.read_body device deep integers).2.2.2, Device.nesting?_compact deep integers⟩
  obtain ⟨plain, one⟩ := stands .empty (by decide) trivial
  obtain ⟨full, most⟩ := stands (tower 125) (by decide +kernel) (by decide +kernel)
  obtain ⟨alone, above⟩ := stands (tower 126) (by decide +kernel) (by decide +kernel)
  have deep : (tower 125).toJson.depth = 126 ∧ (tower 126).toJson.depth = 127 := by decide +kernel
  rw [deep.1] at most
  rw [deep.2] at above
  have accepted (arrays : Nat) (h : parse (tower arrays).compact .json = .ok (tower arrays)) :
      List.Forall₂ (fun element device => parse element.text .json = .ok device)
        (elements arrays) [.empty, tower arrays] := .cons plain (.cons h .nil)
  have room : ∀ element ∈ elements 125, ∃ n ≤ 126, Json.nesting? element.text = some n :=
    List.forall_mem_cons.2
      ⟨⟨1, by decide, one⟩, List.forall_mem_singleton.2 ⟨126, Nat.le_refl _, most⟩⟩
  have none : ∃ element ∈ elements 126, Json.nesting? element.text = some 127 :=
    ⟨_, List.mem_cons_of_mem _ List.mem_cons_self, above⟩
  obtain ⟨list, -⟩ := (parseList_list.1 (elements 125) _ 200 (accepted 125 full)).1 room
  obtain ⟨place, refused, -⟩ := (parseList_list.1 (elements 126) _ 200 (accepted 126 alone)).2 none
  obtain ⟨objects, array, two, -⟩ := parseList_list.2 _ _ list
  exact ⟨⟨list, objects, two, array⟩, alone, place, refused⟩

end DeviceFile

end GatewayDesk
