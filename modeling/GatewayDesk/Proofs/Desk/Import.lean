import GatewayDesk.Proofs.Desk.Calls
import GatewayDesk.Proofs.Gateway.Address

/-!
# Importing a list of devices

The devices of a list are created at one address, in their order, up to the first whose request the
gateway does not answer with a success. The request of that device has been sent, but the device is
neither said nor counted, and those after it are left alone.

* `importFrom_of_fails`, `importFrom_of_not_fails`: what becomes of the next device.
* `importFrom_apply`: what is sent, said and counted from any point of an import on.
* `importFrom_scripted`: the same for a whole import, at a gateway that follows a script.
-/

namespace GatewayDesk

namespace Job

variable {client : Client} {request : Request} {desk : Desk}

/-- The request that creates a device, where devices are listed by a given one. -/
def creation (request : Request) (device : Device) : Request :=
  { request with method := .post, body := some device.compact }

/-- A device whose request fails ends the import: it has been sent, but it is not said. -/
theorem importFrom_of_fails (accepted : client.request .fetch = .ok request) (painting : Bool)
    (total done : Nat) (device : Device) (rest : List Device)
    (reach : desk.gateway.reachable = true)
    (fails : (desk.gateway.answers.getD 0 .allWell).Fails) :
    ∃ e after, (desk.gateway.answers.getD 0 .allWell).Means request.url (.error e) ∧
      after.gateway.requests = desk.gateway.requests ++ [creation request device] ∧
      after.said = desk.said ∧
      importFrom client painting total done (device :: rest) desk =
        (.error (importFailure device done total e), after) := by
  have create : client.request (.create device) = .ok (creation request device) :=
    Client.request_create accepted device
  have meant := Client.means_result_send reach create
  have judged := Client.isOk_send reach create
  have sent : (client.send desk.gateway (.create device)).gateway = _ := Client.gateway_send reach _
  rw [Client.getD_zero] at fails ⊢
  rw [create] at sent
  rw [Answer.fails_iff.1 fails] at judged
  cases hr : (client.send desk.gateway (.create device)).result with
  | ok reply =>
    rw [hr] at judged
    cases judged
  | error e =>
    rw [hr] at meant
    refine ⟨e, (call client (.create device) desk).2, meant, ?_, isSilent_call _ _ desk, ?_⟩
    · rw [gateway_call, sent]
    · rw [importFrom_cons, hr]

/-- A device whose request succeeds is said, and the import goes on with the next answer. -/
theorem importFrom_of_not_fails (accepted : client.request .fetch = .ok request) (painting : Bool)
    (total done : Nat) (device : Device) (rest : List Device)
    (reach : desk.gateway.reachable = true)
    (passes : ¬(desk.gateway.answers.getD 0 .allWell).Fails) :
    ∃ after : Desk, after.gateway = ⟨true, desk.gateway.answers.tail,
        desk.gateway.requests ++ [creation request device]⟩ ∧
      after.said = desk.said ++ [creationNote painting device done] ∧
      importFrom client painting total done (device :: rest) desk =
        importFrom client painting total (done + 1) rest after := by
  have create : client.request (.create device) = .ok (creation request device) :=
    Client.request_create accepted device
  have judged := Client.isOk_send reach create
  have sent : (client.send desk.gateway (.create device)).gateway = _ := Client.gateway_send reach _
  rw [create] at sent
  rw [Client.getD_zero, Answer.fails_iff, Bool.not_eq_false] at passes
  rw [passes] at judged
  cases hr : (client.send desk.gateway (.create device)).result with
  | error e =>
    rw [hr] at judged
    cases judged
  | ok reply =>
    refine ⟨(call client (.create device) desk).2.note (creationNote painting device done),
      ?_, ?_, ?_⟩
    · rw [gateway_note, gateway_call, sent]
    · rw [creationNote, Desk.said_out, isSilent_call]
    · rw [importFrom_cons, hr]

/-- The devices of a list are created up to the first whose request fails: so many answers from the
next one on are successes, so many devices are said and counted, and one more is sent, if there is
one. -/
theorem importFrom_apply (accepted : client.request .fetch = .ok request) (painting : Bool)
    (total done : Nat) (devices : List Device) (desk : Desk)
    (reach : desk.gateway.reachable = true) :
    let outcome := importFrom client painting total done devices desk
    let answer (i : Nat) := desk.gateway.answers.getD i .allWell
    ∃ k ≤ devices.length, (∀ i < k, ¬(answer i).Fails) ∧
      (k < devices.length → (answer k).Fails) ∧
      outcome.2.gateway.requests =
        desk.gateway.requests ++ (devices.take (k + 1)).map (creation request) ∧
      outcome.2.said = desk.said ++ (devices.take k).mapIdx
        (fun place device => creationNote painting device (done + place)) ∧
      (k = devices.length → outcome.1 = .ok (done + k)) ∧
      ∀ device, devices[k]? = some device → ∃ e, (answer k).Means request.url (.error e) ∧
        outcome.1 = .error (importFailure device (done + k) total e) := by
  induction devices generalizing done desk with
  | nil =>
    exact ⟨0, Nat.le_refl 0, nofun, nofun, (List.append_nil _).symm, (List.append_nil _).symm,
      fun _ => rfl, nofun⟩
  | cons device rest ih =>
    intro outcome answer
    by_cases fails : (answer 0).Fails
    · obtain ⟨e, after, means, sent, said, ends⟩ :=
        importFrom_of_fails accepted painting total done device rest reach fails
      have outcomeEq : outcome = _ := ends
      rw [outcomeEq]
      refine ⟨0, Nat.zero_le _, nofun, fun _ => fails, sent, ?_, nofun, ?_⟩
      · exact said.trans (List.append_nil _).symm
      · rintro _ ⟨⟩
        exact ⟨e, means, rfl⟩
    · obtain ⟨after, left, said, goesOn⟩ :=
        importFrom_of_not_fails accepted painting total done device rest reach fails
      have outcomeEq : outcome = _ := goesOn
      have later (i : Nat) : after.gateway.answers.getD i .allWell = answer (i + 1) := by
        rw [left]
        exact Client.getD_tail _ i
      obtain ⟨k, short, passed, failed, requests, notes, whole, broken⟩ :=
        ih (done + 1) after (by rw [left])
      simp only [later] at passed failed broken
      have count : done + 1 + k = done + (k + 1) := Nat.add_right_comm done 1 k
      rw [outcomeEq]
      refine ⟨k + 1, Nat.succ_le_succ short, ?_, fun h => failed (Nat.lt_of_succ_lt_succ h), ?_, ?_,
        fun h => ?_, fun d h => ?_⟩
      · rintro (_ | i) h
        · exact fails
        · exact passed i (Nat.lt_of_succ_lt_succ h)
      · refine requests.trans ?_
        rw [left, List.take_succ_cons, List.map_cons, List.append_assoc, List.singleton_append]
      · refine notes.trans ?_
        rw [said, List.take_succ_cons, List.mapIdx_cons, List.append_assoc, List.singleton_append]
        simp only [Nat.add_assoc, Nat.add_comm 1, Nat.add_zero]
      · exact count ▸ whole (Nat.succ.inj h)
      · obtain ⟨e, means, ends⟩ := broken d h
        exact ⟨e, means, count ▸ ends⟩

/-- The devices of a list are imported at a gateway that follows a script.

Let `k` be the number of answers from the first on that are successes, but at most the number of the
devices. One request is sent for each of the first `k + 1` devices that there are, in their order,
to the address at which devices are listed, and no other request. The first `k` devices are said, in
their order, and nothing else. The import succeeds, with the number of all devices, exactly if `k`
is that number. Otherwise it fails as the answer after those successes says; the failure tells how
many devices of how many are imported, and calls the device that follows them by its id, or else its
name, or else its place. -/
theorem importFrom_scripted (accepted : client.request .fetch = .ok request) (painting : Bool)
    (devices : List Device) (files : FileTree) (answers : List Answer) (notes : List Note) :
    let desk : Desk := ⟨files, .scripted answers, notes⟩
    let outcome := importFrom client painting devices.length 0 devices desk
    ∃ k ≤ devices.length, (∀ i < k, ¬(answers.getD i .allWell).Fails) ∧
      (k < devices.length → (answers.getD k .allWell).Fails) ∧
      outcome.2.gateway.requests = (devices.take (k + 1)).map
        (fun device => { request with method := .post, body := some device.compact }) ∧
      outcome.2.said = desk.said ++ (devices.take k).mapIdx
        (fun place device =>
          .out ("  " ++ glad painting "+" ++ " " ++ device.label place ++ "\n")) ∧
      (outcome.1 = .ok devices.length ↔ k = devices.length) ∧
      ∀ device, devices[k]? = some device →
        ∃ e, (answers.getD k .allWell).Means request.url (.error e) ∧
          outcome.1 = .error ⟨
            [s!"Failed to import device '{device.label k}' ({k} of {devices.length} imported)"],
            .gateway e⟩ := by
  intro desk outcome
  obtain ⟨k, short, passed, failed, requests, notes, whole, broken⟩ :=
    importFrom_apply accepted painting devices.length 0 devices desk rfl
  simp only [Nat.zero_add] at notes whole broken
  refine ⟨k, short, passed, failed, requests, notes, ⟨fun done => ?_, fun h => h ▸ whole h⟩,
    broken⟩
  by_contra other
  have inside : k < devices.length := Nat.lt_of_le_of_ne short other
  obtain ⟨e, -, ends⟩ := broken _ (List.getElem?_eq_getElem inside)
  exact nomatch done.symm.trans ends

/-- The second of three devices is turned away, and the third, which has no name, is left alone. -/
theorem importFrom_scripted_named :
    let devices := [Device.empty.set "name" (.string "a"), Device.empty.set "name" (.string "b"),
      Device.empty]
    let answers : List Answer := [.reply 201 "Created" "" false,
      .reply 500 "Internal Server Error" "" false]
    let outcome := importFrom (.ofServer "http://gw" none) false devices.length 0 devices
      ⟨⟨[], []⟩, .scripted answers, []⟩
    outcome.2.gateway.requests.map Request.body =
        [some "\x7b\"name\":\"a\"\x7d", some "\x7b\"name\":\"b\"\x7d"] ∧
      outcome.2.said = [.out "  + a\n"] ∧
      ∃ e, outcome.1 = .error ⟨["Failed to import device 'b' (1 of 3 imported)"], .gateway e⟩ := by
  intro devices answers
  dsimp only
  obtain ⟨request, accepted⟩ := Client.request_fetch_gw
  obtain ⟨k, short, passed, failed, requests, said, -, broken⟩ :=
    importFrom_scripted accepted false devices ⟨[], []⟩ answers []
  have fails (i : Nat) : (answers.getD i .allWell).Fails ↔ i = 1 := by
    rw [Answer.fails_iff]
    rcases i with _ | _ | i
    · decide
    · decide
    · simp [answers, Answer.allWell, Answer.isSuccess, Status.isFailure]
  simp only [fails] at passed failed
  obtain rfl : k = 1 := by
    have few : k ≤ 3 := short
    have passes : ¬1 < k := fun h => passed 1 h rfl
    have inside : k < 3 := by omega
    exact failed inside
  obtain ⟨e, -, ends⟩ := broken _ rfl
  have bodies : (devices.take 2).map (fun device => some device.compact) =
      [some "\x7b\"name\":\"a\"\x7d", some "\x7b\"name\":\"b\"\x7d"] := by decide +kernel
  let second := Device.empty.set "name" (.string "b")
  have text : s!"Failed to import device '{second.label 1}' ({1} of {devices.length} imported)" =
      "Failed to import device 'b' (1 of 3 imported)" := by decide +kernel
  refine ⟨?_, said.trans (by decide +kernel), e, text ▸ ends⟩
  rw [requests, List.map_map]
  exact bodies

end Job

end GatewayDesk
