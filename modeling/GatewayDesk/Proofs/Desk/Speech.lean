import GatewayDesk.Desk.Run

/-!
# What a run says

Among the notes of a run are events, which are told only to those who ask for them. All other notes
are what the run says itself, on standard output or on standard error.

* `Desk.said`: what a run has said itself.
* `Desk.standardOutput_eq`: what stands on standard output is a part of it.
* `IsSilent`: jobs that say nothing, among them calls and the loading of the configuration.
-/

namespace GatewayDesk

/-- Whether a note is not told as an event. -/
def Note.isSaid : Note → Bool
  | .out _ => true
  | .err _ => true
  | .event _ => false

/-- The text of a note on standard output. -/
def Note.outText : Note → String
  | .out text => text
  | _ => ""

namespace Desk

/-- What a run has said itself, in order. -/
def said (desk : Desk) : List Note := desk.notes.filter Note.isSaid

theorem said_out (desk : Desk) (text : String) :
    (desk.note (.out text)).said = desk.said ++ [.out text] := by
  simp [said, note, Note.isSaid]

theorem said_err (desk : Desk) (text : String) :
    (desk.note (.err text)).said = desk.said ++ [.err text] := by
  simp [said, note, Note.isSaid]

theorem said_event (desk : Desk) (event : Log.Event) :
    (desk.note (.event event)).said = desk.said := by
  simp [said, note, Note.isSaid]

/-- What stands on standard output is what has been said there. -/
theorem standardOutput_eq (desk : Desk) :
    desk.standardOutput = String.join (desk.said.map Note.outText) := by
  rw [standardOutput, said]
  induction desk.notes with
  | nil => rfl
  | cons note rest ih =>
    rw [List.map_cons, String.join_cons, ih]
    cases note with
    | out text => exact String.join_cons.symm
    | err text => exact String.join_cons.symm
    | event event => exact String.empty_append

end Desk

namespace Job

variable {α β : Type}

/-- Whether a job says nothing. -/
def IsSilent (job : Job α) : Prop := ∀ desk, (job desk).2.said = desk.said

theorem isSilent_ofAttempt (attempt : Attempt α) : IsSilent (ofAttempt attempt) := fun _ => rfl

theorem isSilent_pure (a : α) : IsSilent (pure a : Job α) := fun _ => rfl

theorem isSilent_event (event : Log.Event) : IsSilent (leave (.event event)) :=
  fun desk => desk.said_event event

theorem isSilent_call (client : Client) (c : Call) : IsSilent (call client c) := by
  intro desk
  have events (l : List Log.Event) : (l.map Note.event).filter Note.isSaid = [] := by
    simp [Note.isSaid]
  rw [Desk.said, notes_call, List.filter_append, events, List.append_nil, Desk.said]

theorem IsSilent.bind {job : Job α} (h : IsSilent job) {next : α → Job β}
    (hn : ∀ a, IsSilent (next a)) : IsSilent (job >>= next) := by
  intro desk
  have first := h desk
  rw [bind_apply]
  rcases hj : job desk with ⟨failure | a, after⟩ <;> rw [hj] at first
  · exact first
  · exact (hn a after).trans first

theorem isSilent_loadConfig (path : String) : IsSilent (loadConfig path) := by
  have files : IsSilent files := fun _ => rfl
  refine files.bind fun found => ?_
  split
  · exact (isSilent_event _).bind fun _ => isSilent_ofAttempt _
  · exact (isSilent_pure ()).bind fun _ => isSilent_ofAttempt _

theorem isSilent_config (environment : Environment) (server : Option String) :
    IsSilent (config environment server) := by
  unfold config
  split
  · exact isSilent_ofAttempt _
  · refine (isSilent_loadConfig _).bind fun loaded => ?_
    split
    · exact isSilent_pure _
    · exact isSilent_pure _

end Job

end GatewayDesk
