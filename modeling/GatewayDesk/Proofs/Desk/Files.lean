import GatewayDesk.Proofs.Desk.Outcome

/-!
# Runs that leave the files

A job leaves the files as they are if each of its steps does, and only a change of the profile does
more. So every run leaves them but one that makes another profile current.

* `KeepsFiles`: jobs that leave the files as they are.
* `keepsFiles_devices`: whatever is done with devices leaves them.
* `files_run`: which runs leave them.
-/

namespace GatewayDesk

namespace Job

variable {α β : Type}

/-! ## Jobs that leave the files -/

/-- Whether a job leaves the files as they are. -/
def KeepsFiles (job : Job α) : Prop := ∀ desk, (job desk).2.files = desk.files

theorem keepsFiles_pure (a : α) : KeepsFiles (pure a : Job α) := fun _ => rfl

theorem keepsFiles_ofAttempt (attempt : Attempt α) : KeepsFiles (ofAttempt attempt) := fun _ => rfl

theorem keepsFiles_files : KeepsFiles files := fun _ => rfl

theorem keepsFiles_leave (note : Note) : KeepsFiles (leave note) := fun _ => rfl

theorem keepsFiles_call (client : Client) (c : Call) : KeepsFiles (call client c) :=
  files_call client c

theorem KeepsFiles.during {job : Job α} (h : KeepsFiles job) (context : String) :
    KeepsFiles (job.during context) := h

theorem KeepsFiles.attempt {job : Job α} (h : KeepsFiles job) : KeepsFiles job.attempt := h

theorem KeepsFiles.bind {job : Job α} (h : KeepsFiles job) {next : α → Job β}
    (hn : ∀ a, KeepsFiles (next a)) : KeepsFiles (job >>= next) := by
  intro desk
  have first := h desk
  rw [bind_apply]
  rcases hj : job desk with ⟨failure | a, after⟩ <;> rw [hj] at first
  · exact first
  · exact (hn a after).trans first

theorem keepsFiles_sayLine (line : String) : KeepsFiles (sayLine line) := keepsFiles_leave _

theorem keepsFiles_sayReply (reply : Reply) : KeepsFiles (sayReply reply) := by
  unfold sayReply
  split
  · exact keepsFiles_sayLine _
  · exact keepsFiles_pure ()

theorem keepsFiles_list (client : Client) (painting asJson : Bool) :
    KeepsFiles (list client painting asJson) := by
  refine ((keepsFiles_call client _).during _).bind fun reply => ?_
  split
  · exact keepsFiles_leave _
  · refine (keepsFiles_leave _).bind fun _ => ?_
    split
    · exact keepsFiles_pure ()
    · exact keepsFiles_sayLine _

theorem keepsFiles_readDevice (input : ByteArray) (source : String) :
    KeepsFiles (readDevice input source) :=
  keepsFiles_files.bind fun _ => keepsFiles_ofAttempt _

theorem keepsFiles_importFrom (client : Client) (painting : Bool) (total done : Nat)
    (devices : List Device) : KeepsFiles (importFrom client painting total done devices) := by
  induction devices generalizing done with
  | nil => exact keepsFiles_pure done
  | cons device rest ih =>
    exact ((keepsFiles_call client _).during _).bind fun _ =>
      (keepsFiles_sayLine _).bind fun _ => ih (done + 1)

theorem keepsFiles_ask (environment : Environment) : KeepsFiles (ask environment) := by
  unfold ask
  split
  · exact (keepsFiles_leave _).bind fun _ =>
      (keepsFiles_ofAttempt _).bind fun _ => keepsFiles_pure _
  · exact keepsFiles_ofAttempt _

theorem keepsFiles_removeEach (client : Client) (painting : Bool) (failures : Nat)
    (ids : List String) : KeepsFiles (removeEach client painting failures ids) := by
  induction ids generalizing failures with
  | nil => exact keepsFiles_pure failures
  | cons id rest ih =>
    refine (keepsFiles_call client _).attempt.bind fun result => ?_
    refine KeepsFiles.bind ?_ fun _ => ih _
    cases result with
    | ok reply => exact (keepsFiles_sayLine _).bind fun _ => keepsFiles_pure _
    | error failure => exact (keepsFiles_leave _).bind fun _ => keepsFiles_pure _

theorem keepsFiles_remove (client : Client) (environment : Environment) (ids : List String)
    (unasked : Bool) : KeepsFiles (remove client environment ids unasked) := by
  have answered (goesOn : Bool) : KeepsFiles
      (if goesOn then removeAll client environment.wantsPaint ids else sayLine "Cancelled.") := by
    split
    · refine (keepsFiles_removeEach client _ 0 ids).bind fun _ => ?_
      split
      · exact keepsFiles_pure ()
      · exact keepsFiles_ofAttempt _
    · exact keepsFiles_sayLine _
  refine (keepsFiles_leave _).bind fun _ => ?_
  split
  · exact (keepsFiles_pure true).bind answered
  · exact (keepsFiles_ask environment).bind answered

/-- Whatever is done with devices, the files stay as they are. -/
theorem keepsFiles_devices (environment : Environment) (client : Client)
    (command : CommandLine.DeviceCommand) : KeepsFiles (devices environment client command) := by
  cases command with
  | list asJson => exact keepsFiles_list client _ asJson
  | create source =>
    exact (keepsFiles_readDevice _ source).bind fun _ =>
      ((keepsFiles_call client _).during _).bind fun _ =>
        (keepsFiles_sayLine _).bind fun _ => keepsFiles_sayReply _
  | importAll path =>
    refine (keepsFiles_files.bind fun _ => keepsFiles_ofAttempt _).bind fun _ => ?_
    exact (keepsFiles_importFrom client _ _ 0 _).bind fun _ => keepsFiles_sayLine _
  | update id source =>
    exact (keepsFiles_readDevice _ source).bind fun _ =>
      ((keepsFiles_call client _).during _).bind fun _ =>
        (keepsFiles_sayLine _).bind fun _ => keepsFiles_sayReply _
  | remove ids unasked => exact keepsFiles_remove client environment ids unasked

theorem keepsFiles_config (environment : Environment) (server : Option String) :
    KeepsFiles (config environment server) :=
  fun desk => (config_apply environment server desk).1

/-- No order but one that makes a profile current changes a file. -/
theorem keepsFiles_ofOrder (environment : Environment) {order : CommandLine.Order}
    (other : ∀ name, order.command ≠ .profile (some name)) :
    KeepsFiles (ofOrder environment order) := by
  obtain ⟨server, command⟩ := order
  cases command with
  | profile name =>
    cases name with
    | none =>
      exact (keepsFiles_config environment server).bind fun _ =>
        (keepsFiles_sayLine _).bind fun _ => keepsFiles_sayLine _
    | some name => exact absurd rfl (other name)
  | devices command =>
    exact (keepsFiles_config environment server).bind fun _ => keepsFiles_devices environment _ _
  | completion shell => exact keepsFiles_leave _

end Job

namespace Desk

/-! ## Runs -/

variable {environment : Environment} {desk : Desk} {words : List String}

/-- What a run leaves is what its order leaves. -/
theorem files_perform (environment : Environment) (desk : Desk) (order : CommandLine.Order) :
    (desk.perform environment (.run order)).2.files =
      (Job.ofOrder environment order desk).2.files := by
  rcases hj : Job.ofOrder environment order desk with ⟨failure | done, after⟩ <;>
    simp [perform, hj, note]

/-- No run but one that makes a profile current changes a file. -/
theorem files_run (h : ∀ server name,
      CommandLine.Intent.ofWords words ≠ .run ⟨server, .profile (some name)⟩) :
    (desk.run environment words).2.files = desk.files := by
  rw [run]
  cases hi : CommandLine.Intent.ofWords words with
  | tell text => rfl
  | refuse error => rfl
  | run order =>
    rw [files_perform]
    refine Job.keepsFiles_ofOrder environment (fun name e => h order.server name ?_) desk
    rw [hi, ← e]

end Desk

end GatewayDesk
