import GatewayDesk.Proofs.Desk.Speech
import GatewayDesk.Proofs.Gateway.Success

/-!
# Jobs and their calls

A job that calls a gateway follows a plan: it makes the calls of the plan in order, up to the first
that fails or, where devices are removed, all of them. It is done exactly if it has made all calls
and none has failed. All else that a job does is quiet: it reaches no gateway.

* `Follows`: what it is to follow a plan.
* `Follows.call`, `Follows.quiet`: a call before a job, and something quiet after it.
* `importFrom_cons`, `removeEach_eq`: the two jobs that make several calls, and what they say.
* `removeAll_apply`: what becomes of all removals.
* `follows_importFrom`, `follows_removeAll`: which plans they follow.
* `ask_eq`, `remove_eq`: the question that comes before removals.
-/

namespace GatewayDesk

namespace Job

variable {α β : Type} {client : Client} {desk : Desk} {plan : List Call}

/-! ## Quiet jobs -/

/-- Whether a job is always done, and leaves the gateway as it is. -/
def IsQuiet (job : Job α) : Prop :=
  ∀ desk, (∃ a, (job desk).1 = .ok a) ∧ (job desk).2.gateway = desk.gateway

theorem isQuiet_pure (a : α) : IsQuiet (pure a : Job α) := fun _ => ⟨⟨a, rfl⟩, rfl⟩

theorem isQuiet_leave (note : Note) : IsQuiet (leave note) := fun _ => ⟨⟨(), rfl⟩, rfl⟩

theorem sayLine_apply (line : String) (desk : Desk) :
    sayLine line desk = (.ok (), desk.note (.out (line ++ "\n"))) := rfl

theorem isQuiet_sayLine (line : String) : IsQuiet (sayLine line) := isQuiet_leave _

theorem IsQuiet.bind {job : Job α} (h : IsQuiet job) {next : α → Job β}
    (hn : ∀ a, IsQuiet (next a)) : IsQuiet (job >>= next) := by
  intro desk
  obtain ⟨⟨a, ha⟩, hg⟩ := h desk
  obtain ⟨done, same⟩ := hn a (job desk).2
  rw [bind_apply]
  rcases hj : job desk with ⟨result, after⟩
  rw [hj] at ha hg done same
  obtain rfl : result = .ok a := ha
  exact ⟨done, same.trans hg⟩

theorem isQuiet_sayReply (reply : Reply) : IsQuiet (sayReply reply) := by
  unfold sayReply
  split
  · exact isQuiet_sayLine _
  · exact isQuiet_pure ()

/-! ## Plans -/

/-- Whether what came of a job at a desk is what comes of the calls of a plan: the first of them
have been made, in order, and the job is done exactly if all have been made and have succeeded. -/
def Follows (client : Client) (plan : List Call) (desk : Desk) (outcome : Attempt α × Desk) :
    Prop :=
  ∃ made, made <+: plan ∧
    outcome.2.gateway = (client.sendAll desk.gateway made).gateway ∧
    ((∃ a, outcome.1 = .ok a) ↔ made = plan ∧
      ∀ result ∈ (client.sendAll desk.gateway made).results, result.isOk = true)

/-- Who has nothing to call for is done. -/
theorem IsQuiet.follows {job : Job α} (h : IsQuiet job) : Follows client [] desk (job desk) := by
  obtain ⟨done, same⟩ := h desk
  exact ⟨[], List.nil_prefix, same, iff_of_true done ⟨rfl, by simp [Client.sendAll]⟩⟩

/-- What comes of a plan is judged by the gateway alone. -/
theorem Follows.of_gateway {other : Desk} {outcome : Attempt α × Desk}
    (h : Follows client plan other outcome) (same : other.gateway = desk.gateway) :
    Follows client plan desk outcome := by
  unfold Follows at h ⊢
  rwa [same] at h

/-- Something quiet after a job changes nothing about its calls. -/
theorem Follows.quiet {job : Job α} (h : Follows client plan desk (job desk)) {next : α → Job β}
    (hn : ∀ a, IsQuiet (next a)) : Follows client plan desk ((job >>= next) desk) := by
  obtain ⟨made, hm, hg, done⟩ := h
  rw [bind_apply]
  rcases hj : job desk with ⟨failure | a, after⟩ <;> rw [hj] at hg done
  · refine ⟨made, hm, hg, ?_⟩
    rw [← done]
    exact iff_of_false (fun ⟨_, e⟩ => nomatch e) (fun ⟨_, e⟩ => nomatch e)
  · obtain ⟨ends, same⟩ := hn a after
    refine ⟨made, hm, same.trans hg, ?_⟩
    rw [← done]
    exact iff_of_true ends ⟨a, rfl⟩

/-- A call that fails ends a job, and one that succeeds goes on with the job after it. -/
theorem during_call_apply (client : Client) (c : Call) (context : String) (desk : Desk) :
    (call client c).during context desk =
      match (client.send desk.gateway c).result with
      | .error e => (.error ⟨[context], .gateway e⟩, (call client c desk).2)
      | .ok reply => (.ok reply, (call client c desk).2) := by
  rw [during, call]
  cases (client.send desk.gateway c).result <;> rfl

theorem gateway_call (client : Client) (c : Call) (desk : Desk) :
    (call client c desk).2.gateway = (client.send desk.gateway c).gateway := by
  rw [call]

theorem gateway_note (note : Note) (desk : Desk) : (desk.note note).gateway = desk.gateway := rfl

/-- A call before a job that follows a plan. -/
theorem follows_call {c : Call} {context : String} {next : Reply → Job α}
    (h : ∀ reply, Follows client plan (call client c desk).2 (next reply (call client c desk).2)) :
    Follows client (c :: plan) desk (((call client c).during context >>= next) desk) := by
  rw [bind_apply, during_call_apply]
  cases hr : (client.send desk.gateway c).result with
  | error e =>
    refine ⟨[c], List.prefix_append [c] plan, ?_, iff_of_false ?_ ?_⟩
    · rw [gateway_call, Client.sendAll, Client.sendAll]
    · rintro ⟨_, e⟩
      cases e
    · rintro ⟨-, all⟩
      have ok := all _ List.mem_cons_self
      rw [hr] at ok
      cases ok
  | ok reply =>
    obtain ⟨made, hm, hg, done⟩ := h reply
    rw [gateway_call] at hg done
    refine ⟨c :: made, List.cons_prefix_cons.2 ⟨rfl, hm⟩, ?_, ?_⟩
    · rw [Client.sendAll]
      exact hg
    · rw [done, Client.sendAll, List.forall_mem_cons, hr, List.cons_inj_right]
      refine and_congr_right fun _ => ?_
      exact (and_iff_right rfl).symm

/-! ## Jobs -/

theorem follows_list (client : Client) (painting asJson : Bool) (desk : Desk) :
    Follows client [.fetch] desk (list client painting asJson desk) := by
  rw [list]
  refine follows_call ?_
  intro reply
  refine IsQuiet.follows ?_
  split
  · exact isQuiet_leave _
  · refine (isQuiet_leave _).bind fun _ => ?_
    split
    · exact isQuiet_pure ()
    · exact isQuiet_sayLine _

/-- What is said of a device that has been created after some others. -/
def creationNote (painting : Bool) (device : Device) (others : Nat) : Note :=
  .out ("  " ++ glad painting "+" ++ " " ++ device.label others ++ "\n")

/-- How an import fails at a device after some others. -/
def importFailure (device : Device) (done total : Nat) (error : GatewayError) : Failure :=
  ⟨[s!"Failed to import device '{device.label done}' ({done} of {total} imported)"], .gateway error⟩

/-- A device is created before the rest, and its failure ends the job. -/
theorem importFrom_cons (client : Client) (painting : Bool) (total done : Nat) (device : Device)
    (rest : List Device) (desk : Desk) :
    importFrom client painting total done (device :: rest) desk =
      match (client.send desk.gateway (.create device)).result with
      | .error e =>
        (.error (importFailure device done total e), (call client (.create device) desk).2)
      | .ok _ =>
        importFrom client painting total (done + 1) rest
          ((call client (.create device) desk).2.note (creationNote painting device done)) := by
  rw [importFrom, bind_apply, during_call_apply]
  cases (client.send desk.gateway (.create device)).result with
  | error e => rfl
  | ok reply => rfl

/-- The devices of a list are created up to the first that fails. -/
theorem follows_importFrom (client : Client) (painting : Bool) (total done : Nat)
    (devices : List Device) (desk : Desk) :
    Follows client (devices.map .create) desk
      (importFrom client painting total done devices desk) := by
  induction devices generalizing done desk with
  | nil => exact (isQuiet_pure done).follows
  | cons device rest ih =>
    rw [List.map_cons, importFrom]
    refine follows_call fun _ => ?_
    rw [bind_apply, sayLine_apply]
    exact (ih (done + 1) _).of_gateway (gateway_note _ _)

/-- What is said of the removal of a device. -/
def removalNote (painting : Bool) (id : String) : Except GatewayError Reply → Note
  | .ok _ => .out (Paint.apply painting (.color .brightGreen) "Removed" ++ " " ++ id ++ "\n")
  | .error e =>
    .err (Paint.apply painting (.color .red) "Failed to remove" ++ " " ++ id ++ ": " ++
      e.message ++ "\n")

/-- A device is removed before the rest, and its failure is counted. -/
theorem removeEach_cons (client : Client) (painting : Bool) (failures : Nat) (id : String)
    (rest : List String) (desk : Desk) :
    removeEach client painting failures (id :: rest) desk =
      removeEach client painting
        (failures + if (client.send desk.gateway (.delete id)).result.isOk then 0 else 1) rest
        ((call client (.delete id) desk).2.note
          (removalNote painting id (client.send desk.gateway (.delete id)).result)) := by
  have attempted : (call client (.delete id)).attempt desk =
      (.ok (Attempt.ofGateway (client.send desk.gateway (.delete id)).result),
        (call client (.delete id) desk).2) := rfl
  rw [removeEach, bind_apply, attempted]
  cases (client.send desk.gateway (.delete id)).result with
  | error e => rfl
  | ok reply => rfl

theorem said_removalNote (desk : Desk) (painting : Bool) (id : String)
    (result : Except GatewayError Reply) :
    (desk.note (removalNote painting id result)).said =
      desk.said ++ [removalNote painting id result] := by
  cases result with
  | error e => exact desk.said_err _
  | ok reply => exact desk.said_out _

/-- Devices are removed one after the other, the failures are counted, and what became of each is
said. -/
theorem removeEach_eq (client : Client) (painting : Bool) (failures : Nat) (ids : List String)
    (desk : Desk) :
    let session := client.sendAll desk.gateway (ids.map .delete)
    ∃ after, removeEach client painting failures ids desk =
        (.ok (failures + session.results.countP (!·.isOk)), after) ∧
      after.gateway = session.gateway ∧
      after.said = desk.said ++ List.zipWith (removalNote painting) ids session.results := by
  induction ids generalizing failures desk with
  | nil => exact ⟨desk, rfl, rfl, (List.append_nil _).symm⟩
  | cons id rest ih =>
    obtain ⟨after, later, hg, hs⟩ := ih
      (failures + if (client.send desk.gateway (.delete id)).result.isOk then 0 else 1)
      ((call client (.delete id) desk).2.note
        (removalNote painting id (client.send desk.gateway (.delete id)).result))
    rw [gateway_note, gateway_call] at later hg hs
    rw [said_removalNote, isSilent_call, List.append_assoc] at hs
    refine ⟨after, ?_, hg, hs⟩
    rw [removeEach_cons, later, List.map_cons, Client.sendAll, List.countP_cons]
    cases (client.send desk.gateway (.delete id)).result with
    | error e => simp [Except.isOk, Except.toBool, Nat.add_assoc, Nat.add_comm]
    | ok reply => simp [Except.isOk, Except.toBool]

/-- All removals are attempted, what became of each is said, and the failures are counted. -/
theorem removeAll_apply (client : Client) (painting : Bool) (ids : List String) (desk : Desk) :
    let session := client.sendAll desk.gateway (ids.map .delete)
    let failures := session.results.countP (!·.isOk)
    ∃ after : Desk, after.gateway = session.gateway ∧
      after.said = desk.said ++ List.zipWith (removalNote painting) ids session.results ∧
      removeAll client painting ids desk =
        (if failures = 0 then .ok ()
          else .error (.note s!"{failures} of {ids.length} device(s) could not be removed"),
          after) := by
  intro session failures
  obtain ⟨after, counted, hg, hs⟩ := removeEach_eq client painting 0 ids desk
  refine ⟨after, hg, hs, ?_⟩
  rw [Nat.zero_add] at counted
  rw [removeAll, bind_apply, counted]
  dsimp only
  split
  · rfl
  · rfl

/-- All devices of a list are removed, and the job fails if one of them could not be. -/
theorem follows_removeAll (client : Client) (painting : Bool) (ids : List String) (desk : Desk) :
    Follows client (ids.map .delete) desk (removeAll client painting ids desk) := by
  obtain ⟨after, hg, -, all⟩ := removeAll_apply client painting ids desk
  refine ⟨ids.map .delete, List.prefix_rfl, by rw [all, hg], ?_⟩
  have none : (client.sendAll desk.gateway (ids.map .delete)).results.countP (!·.isOk) = 0 ↔
      ∀ result ∈ (client.sendAll desk.gateway (ids.map .delete)).results,
        result.isOk = true := by
    simp [List.countP_eq_zero]
  rw [all, ← none]
  split
  case isTrue zero => exact iff_of_true ⟨(), rfl⟩ ⟨rfl, zero⟩
  case isFalse some => exact iff_of_false (fun ⟨_, e⟩ => nomatch e) fun h => some h.2

/-! ## The question -/

/-- What is said first: which devices are to be removed. -/
def removalList (ids : List String) : Note :=
  .out (s!"Removing {ids.length} device(s):\n" ++ String.join (ids.map fun id => s!"  - {id}\n"))

/-- What someone at a terminal is asked. -/
def question (painting : Bool) : Note :=
  .out ("\n" ++ Paint.apply painting .bold "Proceed?" ++ " [y/N]: ")

/-- Why a run that should ask fails where no one can be asked. -/
def noTerminal : Failure :=
  .note "error: cannot prompt for confirmation without a terminal.\nUse -y/--yes to proceed."

theorem ask_eq (environment : Environment) (desk : Desk) :
    ask environment desk =
      if environment.inputIsTerminal then
        ((Attempt.ofFile environment.firstLine).map isYes,
          desk.note (question environment.wantsPaint))
      else (.error noTerminal, desk) := by
  unfold ask
  cases environment.inputIsTerminal with
  | false => rfl
  | true => cases environment.firstLine <;> rfl

/-- What becomes of removals once it is known whether they go on. -/
def removeAfter (client : Client) (painting : Bool) (ids : List String) :
    Attempt Bool × Desk → Attempt Unit × Desk
  | (.error failure, desk) => (.error failure, desk)
  | (.ok true, desk) => removeAll client painting ids desk
  | (.ok false, desk) => (.ok (), desk.note (.out "Cancelled.\n"))

/-- The question comes before all removals, and the answer decides about them. -/
theorem remove_eq (client : Client) (environment : Environment) (ids : List String)
    (unasked : Bool) (desk : Desk) :
    remove client environment ids unasked desk =
      removeAfter client environment.wantsPaint ids
        (if unasked then (.ok true, desk.note (removalList ids))
          else ask environment (desk.note (removalList ids))) := by
  cases unasked with
  | true => rfl
  | false =>
    show (ask environment >>= _) (desk.note (removalList ids)) = _
    rw [bind_apply, if_neg Bool.false_ne_true]
    rcases ask environment (desk.note (removalList ids)) with ⟨failure | _ | _, after⟩ <;> rfl

end Job

end GatewayDesk
