import GatewayDesk.Proofs.Desk.Listing
import GatewayDesk.Proofs.Device.Listing
import GatewayDesk.Proofs.Gateway.Address

/-!
# Devices carried over

The devices of one gateway are listed as JSON, the text is stored, and its devices are created at
another gateway. What arrives is what was listed, but for fractions that are not read as they were
written.

* `list_apply`: what a list that can be had says.
* `importAll_apply`: what a gateway gets that answers every request with a success.
* `list_importAll`: both together.
* `readList_drifting`: a list that is read back as another.
-/

namespace GatewayDesk

theorem DeviceFile.readList_json_eq_ok_iff {files : FileTree} {path text : String}
    {devices : List Device} (stored : files.readText path = .ok text)
    (format : Format.ofPath path = .json) :
    readList files path = .ok devices ↔ Device.readList text = .ok devices := by
  rw [readList_eq_ok_iff, stored, format]
  simp only [parseList_json_eq_ok_iff, Except.ok.injEq, exists_eq_left']

/-! ## Standard output -/

theorem Desk.standardOutput_out (desk : Desk) (text : String) :
    (desk.note (.out text)).standardOutput = desk.standardOutput ++ text := by
  rw [standardOutput, note, List.map_append, String.join_append, List.map_singleton,
    String.join_cons, String.join_nil, String.append_empty]
  rfl

/-- A call says nothing on standard output. -/
theorem Job.standardOutput_call (client : Client) (c : Call) (desk : Desk) :
    (call client c desk).2.standardOutput = desk.standardOutput := by
  rw [Desk.standardOutput_eq, isSilent_call, ← Desk.standardOutput_eq]

namespace Job

variable {client : Client} {desk : Desk}

/-! ## From a gateway -/

/-- A list that can be had says the devices, and nothing else. -/
theorem list_apply {reply : Reply} {devices : List Device} (painting asJson : Bool)
    (replied : (client.send desk.gateway .fetch).result = .ok reply)
    (read : reply.devices = .ok devices) :
    (list client painting asJson desk).1 = .ok () ∧
      (list client painting asJson desk).2.standardOutput =
        desk.standardOutput ++ Device.listing painting asJson devices := by
  rw [list_eq painting asJson replied read]
  refine ⟨rfl, ?_⟩
  rw [← standardOutput_call client .fetch desk]
  exact Desk.standardOutput_out _ _

/-! ## To a gateway -/

/-- The devices of a list are all created if no call for one of them fails. -/
theorem importFrom_of_isOk (client : Client) (painting : Bool) (total done : Nat)
    (devices : List Device) (desk : Desk)
    (well : ∀ result ∈ (client.sendAll desk.gateway (devices.map .create)).results,
      result.isOk = true) :
    (importFrom client painting total done devices desk).1 = .ok (done + devices.length) ∧
      (importFrom client painting total done devices desk).2.gateway =
        (client.sendAll desk.gateway (devices.map .create)).gateway := by
  induction devices generalizing done desk with
  | nil => exact ⟨rfl, rfl⟩
  | cons device rest ih =>
    rw [List.map_cons, Client.sendAll, List.forall_mem_cons] at well
    obtain ⟨first, later⟩ := well
    cases hr : (client.send desk.gateway (.create device)).result with
    | error e =>
      rw [hr] at first
      cases first
    | ok reply =>
      have all := ih (done + 1)
        ((call client (.create device) desk).2.note (creationNote painting device done))
      rw [gateway_note, gateway_call] at all
      rw [importFrom_cons, hr, List.length_cons, Nat.add_comm rest.length, ← Nat.add_assoc,
        List.map_cons, Client.sendAll]
      exact all later

/-- A gateway that answers every request with a success gets one request for each device of a file,
in the order of the file, and nothing else. -/
theorem importAll_apply {request : Request} {files : FileTree} {path : String}
    {found : List Device} {answers : List Answer} (painting : Bool) (notes : List Note)
    (stored : DeviceFile.readList files path = .ok found)
    (accepted : client.request .fetch = .ok request) (well : ∀ answer ∈ answers, ¬answer.Fails) :
    let outcome := importAll client painting path ⟨files, .scripted answers, notes⟩
    outcome.1 = .ok () ∧ outcome.2.gateway.requests.map (fun r => (r.method, r.body)) =
      found.map fun device => (.post, some device.compact) := by
  intro outcome
  have calls : ∀ call ∈ found.map Call.create, ∃ request, client.request call = .ok request := by
    intro call h
    obtain ⟨device, -, rfl⟩ := List.mem_map.1 h
    exact ⟨_, Client.request_create accepted device⟩
  have answered : ∀ k, (answers.getD k .allWell).isSuccess = true := by
    intro k
    have fine : ¬(answers.getD k .allWell).Fails := by
      rw [List.getD_eq_getElem?_getD]
      cases hk : answers[k]? with
      | none => exact Answer.not_fails_allWell
      | some answer => exact well answer (List.mem_of_getElem? hk)
    simpa [Answer.fails_iff] using fine
  obtain ⟨counted, gateway⟩ := importFrom_of_isOk client painting found.length 0 found
    ⟨files, .scripted answers, notes⟩
    ((Client.isOk_sendAll_iff rfl _).2 ⟨calls, fun k _ => answered k⟩)
  have done : outcome.1 = .ok () ∧
      outcome.2.gateway = (client.sendAll (.scripted answers) (found.map .create)).gateway := by
    rw [← gateway]
    have run : outcome =
        (importFrom client painting found.length 0 found >>= fun count =>
          sayLine (glad painting s!"Imported {count} device(s)"))
          ⟨files, .scripted answers, notes⟩ := by
      show importAll client painting path _ = _
      rw [importAll, readDevices_bind, stored]
    rw [run, bind_apply]
    rcases hi : importFrom client painting found.length 0 found ⟨files, .scripted answers, notes⟩
      with ⟨failure | count, after⟩
    · rw [hi] at counted
      cases counted
    · exact ⟨rfl, rfl⟩
  refine ⟨done.1, ?_⟩
  rw [done.2, Client.requests_sendAll rfl, Client.requestsOf_create accepted]
  exact List.map_map

/-! ## From one gateway to another -/

/-- A list of devices that is said as JSON and stored in a file of that format.

What is said is the texts of the devices, between brackets and commas. The file is read as a list of
the same length and order, in which only numbers may be others: each is what its own text is read
as. This is the list that was had exactly if every number is read as itself, which integers always
are. A gateway that answers every request with a success then gets one request for each device, in
their order, with the text of the record that was read as its body. -/
theorem list_importAll {importer : Client} {reply : Reply} {devices : List Device}
    {files : FileTree} {path : String} {answers : List Answer} {request : Request}
    (replied : (client.send desk.gateway .fetch).result = .ok reply)
    (read : reply.devices = .ok devices)
    (stored : files.readText path =
      .ok ("[" ++ ",".intercalate (devices.map Device.compact) ++ "]\n"))
    (format : DeviceFile.Format.ofPath path = .json)
    (accepted : importer.request .fetch = .ok request) (well : ∀ answer ∈ answers, ¬answer.Fails)
    (painting : Bool) (notes : List Note) :
    let listed := list client painting true desk
    let outcome := importAll importer painting path ⟨files, .scripted answers, notes⟩
    (listed.1 = .ok () ∧ listed.2.standardOutput =
      desk.standardOutput ++ ("[" ++ ",".intercalate (devices.map Device.compact) ++ "]\n")) ∧
    DeviceFile.readList files path = .ok (devices.map Device.reread) ∧
    (DeviceFile.readList files path = .ok devices ↔
      ∀ device ∈ devices, device.toJson.EachNumber Json.Number.IsStable) ∧
    ((∀ device ∈ devices, device.toJson.EachNumber Json.Number.IsInteger) →
      DeviceFile.readList files path = .ok devices) ∧
    outcome.1 = .ok () ∧ outcome.2.gateway.requests.map (fun r => (r.method, r.body)) =
      devices.map fun device => (.post, some device.reread.compact) := by
  intro listed outcome
  rw [← Device.listing_eq painting] at stored ⊢
  have deep := Device.depth_of_readList read
  have found : DeviceFile.readList files path = .ok (devices.map Device.reread) := by
    rw [DeviceFile.readList_json_eq_ok_iff stored format, Device.readList_listing deep]
  have self : DeviceFile.readList files path = .ok devices ↔
      ∀ device ∈ devices, device.toJson.EachNumber Json.Number.IsStable := by
    rw [DeviceFile.readList_json_eq_ok_iff stored format, Device.readList_listing_self_iff deep]
  obtain ⟨done, posts⟩ := importAll_apply painting notes found accepted well
  rw [List.map_map] at posts
  refine ⟨list_apply painting true replied read, found, self, fun integers => ?_, done, posts⟩
  exact self.2 fun device h =>
    Json.EachNumber.imp Json.Reader.isStable_of_isInteger device.toJson (integers device h)

/-- A device with an integer and a fraction. -/
theorem list_importAll_plant :
    let client := Client.ofServer "http://gw" none
    let text := "[\x7b\"id\":7,\"ratio\":0.5\x7d]\n"
    let files : FileTree := ⟨[(["plant.json"], .file text.toUTF8)], []⟩
    let desk : Desk := ⟨files, .scripted [.reply 200 "OK" text false], []⟩
    (list client false true desk).2.standardOutput = text ∧
      (importAll client false "plant.json" desk).1 = .ok () ∧
      (importAll client false "plant.json" desk).2.gateway.requests.map
          (fun r => (r.method, r.body)) =
        [(.post, some "\x7b\"id\":7,\"ratio\":0.5\x7d")] := by
  intro client text files desk
  let device := (Device.empty.set "id" (.number (.integer 7 (by decide)))).set "ratio"
    (.number (.fraction ⟨false, 0x10000000000000, -53, by decide⟩))
  have stable : device.toJson.EachNumber Json.Number.IsStable := by decide +kernel
  have line : Device.listing false true [device] = text := by decide +kernel
  obtain ⟨request, accepted⟩ := Client.request_fetch_gw
  have replied : (client.send desk.gateway .fetch).result = .ok ⟨200, text⟩ := by
    rw [(Client.send_of_ok accepted _).2]
    rfl
  have read : Device.readList text = .ok [device] := by
    rw [← line, Device.readList_listing_self_iff (by decide +kernel)]
    exact List.forall_mem_singleton.2 stable
  have texts : "[" ++ ",".intercalate ([device].map Device.compact) ++ "]\n" = text := by
    rw [← Device.listing_eq false, line]
  have stored : files.readText "plant.json" = .ok text :=
    FileTree.readText_eq_ok_iff.2 ⟨["plant.json"], by decide +kernel, rfl⟩
  have well : ∀ a ∈ [Answer.reply 200 "OK" text false], ¬a.Fails := by
    intro a h
    rw [List.mem_singleton.1 h, Answer.fails_iff]
    decide +kernel
  obtain ⟨⟨-, said⟩, -, -, -, done, posts⟩ := list_importAll replied read (texts ▸ stored)
    (by decide +kernel) accepted well false []
  have silent : desk.standardOutput = "" := rfl
  rw [texts, silent, String.empty_append] at said
  rw [List.map_singleton, Device.reread_eq_self_iff.2 stable] at posts
  exact ⟨said, done, posts.trans (by decide +kernel)⟩

/-- A fraction that is written and read as another one, so that no file with the text of its list is
read as that list. -/
theorem readList_drifting :
    ∃ devices, Device.readList "[\x7b\"reading\":90135.84266626418\x7d]" = .ok devices ∧
      ∀ files : FileTree, ∀ path, DeviceFile.Format.ofPath path = .json →
        files.readText path =
          .ok ("[" ++ ",".intercalate (devices.map Device.compact) ++ "]\n") →
        DeviceFile.readList files path ≠ .ok devices := by
  have drifts : (Device.readList "[\x7b\"reading\":90135.84266626418\x7d]").toOption.all
      (fun devices => decide (∀ d ∈ devices, d.toJson.EachNumber Json.Number.IsStable)) =
        false := by decide +kernel
  cases read : Device.readList "[\x7b\"reading\":90135.84266626418\x7d]" with
  | error e =>
    rw [read] at drifts
    cases drifts
  | ok devices =>
    rw [read] at drifts
    refine ⟨devices, rfl, fun files path format stored same => ?_⟩
    rw [DeviceFile.readList_json_eq_ok_iff stored format, ← Device.listing_eq false,
      Device.readList_listing_self_iff (Device.depth_of_readList read)] at same
    exact absurd same (of_decide_eq_false drifts)

end Job

end GatewayDesk
