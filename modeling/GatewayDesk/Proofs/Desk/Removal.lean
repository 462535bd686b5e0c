import GatewayDesk.Proofs.Desk.Outcome
import GatewayDesk.Proofs.Desk.Server
import GatewayDesk.Proofs.Text.Trim

/-!
# Removing devices

Before it removes devices, the program lists them, and unless it is told not to ask, someone at a
terminal must say yes. Without a yes no request is sent. With one, or unasked, the removal of each
device is attempted, in order and whatever became of the others; each is said to be removed or not,
and the failures are counted.

* `Job.isYes_iff`: which lines are a yes.
* `Desk.run_remove`: what a run sends and says, and how it ends.
* `Desk.run_remove_garbled`: a first line that is no text ends a run with a failure.
-/

namespace GatewayDesk

/-! ## A yes -/

/-- No letter but the letter Y is a small `y` when it is made small. -/
theorem Text.small_eq_y_iff {c : Char} : small c = 'y' ↔ c = 'y' ∨ c = 'Y' := by
  constructor
  · intro h
    unfold small at h
    -- A run of letters that leads to the code of the small letter, 121, does so from 89 alone.
    have runs : ∀ run ∈ letterRuns, (run.1 : Int) ≤ 121 - run.2.2.2 →
        121 - run.2.2.2 ≤ run.2.1 → 121 - run.2.2.2 = 89 := by decide +kernel
    dsimp only at h
    split at h
    case h_1 first last step distance found =>
      have own := runs _ (List.mem_of_find?_eq_some found)
      have inside := List.find?_some found
      simp only [Bool.and_eq_true, decide_eq_true_eq] at inside
      have code : ((c.toNat : Int) + distance).toNat = 121 := by
        by_cases valid : ((c.toNat : Int) + distance).toNat.isValidChar
        · rw [Char.ofNat, dif_pos valid] at h
          exact congrArg Char.toNat h
        · rw [Char.ofNat, dif_neg valid] at h
          exact absurd h (by decide)
      have letter : c.toNat = 'Y'.toNat := by
        show c.toNat = 89
        dsimp only at own
        omega
      exact .inr (Char.toNat_inj.1 letter)
    case h_2 => exact .inl h
  · rintro (rfl | rfl) <;> decide +kernel

namespace Job

/-- Whether a line is a yes: the letter Y, small or large, and blanks around it. -/
def SaysYes (line : String) : Prop :=
  ∃ before c after, line.toList = before ++ c :: after ∧ (c = 'y' ∨ c = 'Y') ∧
    ∀ d ∈ before ++ after, Char.isBlank d = true

theorem isYes_iff {line : String} : isYes line = true ↔ SaysYes line := by
  unfold isYes SaysYes
  rw [beq_iff_eq, List.map_eq_singleton_iff]
  have visible {c : Char} (h : c = 'y' ∨ c = 'Y') : Char.isBlank c = false := by
    rcases h with rfl | rfl <;> decide
  simp only [Text.small_eq_y_iff]
  constructor
  · rintro ⟨c, single, letter⟩
    obtain ⟨before, after, parts, blank⟩ := (Text.trim_eq_singleton_iff (visible letter)).1 single
    exact ⟨before, c, after, parts, letter, blank⟩
  · rintro ⟨before, c, after, parts, letter, blank⟩
    exact ⟨c, (Text.trim_eq_singleton_iff (visible letter)).2 ⟨before, after, parts, blank⟩, letter⟩

end Job

theorem Failure.report_note (text : String) :
    (Failure.note text).report = "Error: " ++ text ++ "\n" := by
  show "Error: " ++ text ++ "" ++ "\n" = _
  rw [String.append_empty]

namespace Desk

open Job

/-- How a run ends after all its removals. -/
theorem ended_removeAll (client : Client) (painting : Bool) (ids : List String) (desk : Desk) :
    let session := client.sendAll desk.gateway (ids.map .delete)
    let failures := session.results.countP (!·.isOk)
    let outcome := ended (removeAll client painting ids desk)
    outcome.2.gateway = session.gateway ∧
      outcome.2.said = desk.said ++ List.zipWith (removalNote painting) ids session.results ++
        (if failures = 0 then []
          else [.err (
            "Error: " ++ s!"{failures} of {ids.length} device(s) could not be removed" ++ "\n")]) ∧
      outcome.1 = if failures = 0 then 0 else 1 := by
  intro session failures outcome
  obtain ⟨after, hg, hs, all⟩ := removeAll_apply client painting ids desk
  have outcomeEq : outcome = ended (_, after) := congrArg ended all
  rw [outcomeEq, ← hs]
  by_cases none : failures = 0
  · rw [if_pos none, if_pos none, if_pos none]
    exact ⟨hg, (List.append_nil _).symm, rfl⟩
  · rw [if_neg none, if_neg none, if_neg none]
    refine ⟨hg, ?_, rfl⟩
    show (after.note (.err (Failure.note _).report)).said = _
    rw [said_err, Failure.report_note]

variable {words : List String} {server : Option String} {ids : List String} {unasked : Bool}
  {environment : Environment} {files : FileTree} {config : Config}

/-- A run that is to remove devices lists them first. -/
theorem run_remove_eq
    (order : CommandLine.Intent.ofWords words = .run ⟨server, .devices (.remove ids unasked)⟩)
    (configures : Configures environment files server config) (answers : List Answer) :
    ∃ listed : Desk, listed.gateway = .scripted answers ∧ listed.said = [removalList ids] ∧
      run environment ⟨files, .scripted answers, []⟩ words =
        ended (removeAfter (.ofConfig config) environment.wantsPaint ids
          (if unasked then (.ok true, listed) else ask environment listed)) := by
  obtain ⟨desk, -, hg, hs, runs⟩ := run_configured order configures answers
  refine ⟨desk.note (removalList ids), hg, ?_, ?_⟩
  · rw [removalList, said_out, hs, List.nil_append]
  · rw [runs, ← remove_eq]
    rfl

/-- A run that should ask fails where there is no terminal. -/
theorem run_remove_alone
    (order : CommandLine.Intent.ofWords words = .run ⟨server, .devices (.remove ids false)⟩)
    (configures : Configures environment files server config) (answers : List Answer)
    (alone : environment.inputIsTerminal = false) :
    let outcome := run environment ⟨files, .scripted answers, []⟩ words
    outcome.2.gateway.requests = [] ∧ outcome.1 = 1 ∧
      outcome.2.said = [removalList ids, .err noTerminal.report] := by
  intro outcome
  obtain ⟨listed, hg, hs, runs⟩ := run_remove_eq order configures answers
  rw [if_neg Bool.false_ne_true, ask_eq, alone] at runs
  have ends : outcome = (1, listed.note (.err noTerminal.report)) := runs
  rw [ends, said_err, hs, gateway_note, hg]
  exact ⟨rfl, rfl, rfl⟩

/-- Where there is a terminal, the question is said, and the first line decides. -/
theorem run_remove_asked
    (order : CommandLine.Intent.ofWords words = .run ⟨server, .devices (.remove ids false)⟩)
    (configures : Configures environment files server config) (answers : List Answer)
    (terminal : environment.inputIsTerminal = true) :
    ∃ asked : Desk, asked.gateway = .scripted answers ∧
      asked.said = [removalList ids, question environment.wantsPaint] ∧
      run environment ⟨files, .scripted answers, []⟩ words =
        ended (removeAfter (.ofConfig config) environment.wantsPaint ids
          ((Attempt.ofFile environment.firstLine).map isYes, asked)) := by
  obtain ⟨listed, hg, hs, runs⟩ := run_remove_eq order configures answers
  rw [if_neg Bool.false_ne_true, ask_eq, if_pos terminal] at runs
  refine ⟨listed.note (question environment.wantsPaint), hg, ?_, runs⟩
  rw [question, said_out, hs, List.singleton_append]

/-- A first line that is a text but no yes cancels all removals. -/
theorem run_remove_refused
    (order : CommandLine.Intent.ofWords words = .run ⟨server, .devices (.remove ids false)⟩)
    (configures : Configures environment files server config) (answers : List Answer)
    (terminal : environment.inputIsTerminal = true) {line : String}
    (typed : environment.firstLine = .ok line) (no : ¬SaysYes line) :
    let outcome := run environment ⟨files, .scripted answers, []⟩ words
    outcome.2.gateway.requests = [] ∧ outcome.1 = 0 ∧
      outcome.2.said =
        [removalList ids, question environment.wantsPaint, .out "Cancelled.\n"] := by
  intro outcome
  obtain ⟨asked, hg, hs, runs⟩ := run_remove_asked order configures answers terminal
  have refused : (Attempt.ofFile environment.firstLine).map isYes = .ok false := by
    rw [typed]
    exact congrArg Except.ok (Bool.eq_false_iff.2 (mt isYes_iff.1 no))
  rw [refused] at runs
  have ends : outcome = (0, asked.note (.out "Cancelled.\n")) := runs
  rw [ends, said_out, hs, gateway_note, hg]
  exact ⟨rfl, rfl, rfl⟩

/-- A first line that is no text ends the run. -/
theorem run_remove_unread
    (order : CommandLine.Intent.ofWords words = .run ⟨server, .devices (.remove ids false)⟩)
    (configures : Configures environment files server config) (answers : List Answer)
    (terminal : environment.inputIsTerminal = true) {fault : FileError}
    (typed : environment.firstLine = .error fault) :
    let outcome := run environment ⟨files, .scripted answers, []⟩ words
    outcome.2.gateway.requests = [] ∧ outcome.1 = 1 ∧
      outcome.2.said = [removalList ids, question environment.wantsPaint,
        .err (Failure.report ⟨[], .file fault⟩)] := by
  intro outcome
  obtain ⟨asked, hg, hs, runs⟩ := run_remove_asked order configures answers terminal
  rw [typed] at runs
  have ends : outcome = (1, asked.note (.err (Failure.report ⟨[], .file fault⟩))) := runs
  rw [ends, said_err, hs, gateway_note, hg]
  exact ⟨rfl, rfl, rfl⟩

/-- Unasked or after a yes, the removals begin where nothing has been sent. -/
theorem run_remove_agreed
    (order : CommandLine.Intent.ofWords words = .run ⟨server, .devices (.remove ids unasked)⟩)
    (configures : Configures environment files server config) (answers : List Answer)
    (agreed : unasked = true ∨ environment.inputIsTerminal = true ∧
      ∃ line, environment.firstLine = .ok line ∧ SaysYes line) :
    ∃ before : Desk, before.gateway = .scripted answers ∧
      before.said =
        removalList ids :: (if unasked then [] else [question environment.wantsPaint]) ∧
      run environment ⟨files, .scripted answers, []⟩ words =
        ended (removeAll (.ofConfig config) environment.wantsPaint ids before) := by
  cases unasked with
  | true => exact run_remove_eq order configures answers
  | false =>
    obtain ⟨terminal, line, typed, yes⟩ := agreed.resolve_left Bool.false_ne_true
    obtain ⟨asked, hg, hs, runs⟩ := run_remove_asked order configures answers terminal
    have accepted : (Attempt.ofFile environment.firstLine).map isYes = .ok true := by
      rw [typed]
      exact congrArg Except.ok (isYes_iff.2 yes)
    rw [accepted] at runs
    exact ⟨asked, hg, hs, runs⟩

/-- A run that is to remove devices, at a gateway that follows a script.

Without a configuration it sends nothing, says nothing but why it fails, and ends with code 1. With
one, the devices are listed. Then a run that is to ask sends nothing in three cases. Where there is
no terminal, it ends with code 1. If the first line that is typed is a text but no yes, it says that
it is cancelled, and ends with code 0. If that line is no text, it ends with code 1.

In all other cases the removal of each device of the list is attempted, in the order of the list,
whatever became of the others. The accepted ones send one request each, in that order, and no other
requests are sent; each takes the next answer of the script and ends as that says, and a refused one
ends with what refuses it. Each device is said to be removed, or not to be, as its own attempt has
ended. The run ends with code 0 if no attempt has failed, and else it says how many of how many have
failed, and ends with code 1. -/
theorem run_remove
    (order : CommandLine.Intent.ofWords words = .run ⟨server, .devices (.remove ids unasked)⟩)
    (environment : Environment) (files : FileTree) (answers : List Answer) :
    let outcome := run environment ⟨files, .scripted answers, []⟩ words
    let sent := outcome.2.gateway.requests
    let said := outcome.2.said
    let painting := environment.wantsPaint
    ((∀ config, ¬Configures environment files server config) →
      sent = [] ∧ outcome.1 = 1 ∧ ∃ failure : Failure, said = [.err failure.report]) ∧
    ∀ config, Configures environment files server config →
      let client := Client.ofConfig config
      (unasked = false → environment.inputIsTerminal = false →
        sent = [] ∧ outcome.1 = 1 ∧ said = [removalList ids, .err noTerminal.report]) ∧
      (unasked = false → environment.inputIsTerminal = true →
        (∀ line, environment.firstLine = .ok line → ¬SaysYes line →
          sent = [] ∧ outcome.1 = 0 ∧
            said = [removalList ids, question painting, .out "Cancelled.\n"]) ∧
        ∀ fault, environment.firstLine = .error fault →
          sent = [] ∧ outcome.1 = 1 ∧
            said = [removalList ids, question painting, .err (Failure.report ⟨[], .file fault⟩)]) ∧
      (unasked = true ∨ environment.inputIsTerminal = true ∧
          (∃ line, environment.firstLine = .ok line ∧ SaysYes line) →
        ∃ results : List (Except GatewayError Reply),
          let failures := results.countP (!·.isOk)
          client.EndEach answers (ids.map .delete) results ∧
          sent = client.requestsOf (ids.map .delete) ∧
          said = removalList ids :: (if unasked then [] else [question painting]) ++
            List.zipWith (removalNote painting) ids results ++
            (if failures = 0 then []
              else [.err ("Error: " ++
                s!"{failures} of {ids.length} device(s) could not be removed" ++ "\n")]) ∧
          outcome.1 = if failures = 0 then 0 else 1) := by
  intro outcome sent said painting
  refine ⟨fun none => run_unconfigured order none answers, fun config configures => ?_⟩
  intro client
  refine ⟨?_, ?_, fun agreed => ?_⟩
  · rintro rfl alone
    exact run_remove_alone order configures answers alone
  · rintro rfl terminal
    exact ⟨fun line typed no => run_remove_refused order configures answers terminal typed no,
      fun fault typed => run_remove_unread order configures answers terminal typed⟩
  · obtain ⟨before, same, spoken, runs⟩ := run_remove_agreed order configures answers agreed
    have reach : (Gateway.scripted answers).reachable = true := rfl
    obtain ⟨gateway, notes, code⟩ := ended_removeAll client painting ids before
    rw [← runs, same] at gateway notes code
    rw [spoken] at notes
    refine ⟨_, Client.endEach_sendAll reach _, ?_, notes, code⟩
    show outcome.2.gateway.requests = _
    rw [gateway, Client.requests_sendAll reach]
    rfl

/-- One of three removals fails, and the same device is removed before and after it. -/
theorem run_remove_partly :
    let answers : List Answer :=
      [.allWell, .reply 500 "Internal Server Error" "" false]
    let outcome := run ⟨[("HOME", "/root")], .empty, false, false⟩
      ⟨⟨[], []⟩, .scripted answers, []⟩
      ["devices", "rm", "--yes", "a", "b", "a", "--server", "http://gw"]
    outcome.2.gateway.requests.map (fun r => (r.method, r.url.text)) =
        [(.delete, "http://gw/api/devices/a"), (.delete, "http://gw/api/devices/b"),
          (.delete, "http://gw/api/devices/a")] ∧
      outcome.1 = 1 ∧
      ∃ url, outcome.2.said = [removalList ["a", "b", "a"], removalNote false "a" (.ok ⟨200, ""⟩),
        removalNote false "b" (.error (.failed 500 "Internal Server Error" url)),
        removalNote false "a" (.ok ⟨200, ""⟩),
        .err ("Error: " ++ s!"{1} of {3} device(s) could not be removed" ++ "\n")] := by
  intro answers
  dsimp only
  have order : CommandLine.Intent.ofWords
      ["devices", "rm", "--yes", "a", "b", "a", "--server", "http://gw"] =
        .run ⟨some "http://gw", .devices (.remove ["a", "b", "a"] true)⟩ := by decide +kernel
  obtain ⟨config, configures, client⟩ := configures_gw
  obtain ⟨results, each, sent, said, code⟩ :=
    ((run_remove order _ _ answers).2 config configures).2.2 (.inl rfl)
  rw [client] at each sent
  have safeA : Segments.IsSafe "a".toList := by decide +kernel
  have safeB : Segments.IsSafe "b".toList := by decide +kernel
  obtain ⟨a, ha, deletesA, textA⟩ := Client.request_delete_gw safeA (by decide +kernel)
  obtain ⟨b, hb, deletesB, textB⟩ := Client.request_delete_gw safeB (by decide +kernel)
  have well (url : Url) : Answer.allWell.toReply url = .ok ⟨200, ""⟩ :=
    Answer.means_iff_toReply.1 (Answer.means_allWell url)
  obtain ⟨url, rfl⟩ : ∃ url, results =
      [.ok ⟨200, ""⟩, .error (.failed 500 "Internal Server Error" url), .ok ⟨200, ""⟩] := by
    obtain ⟨_, rfl, afterFirst⟩ := each.accepted ha
    obtain ⟨_, rfl, afterSecond⟩ := afterFirst.accepted hb
    obtain ⟨_, rfl, afterThird⟩ := afterSecond.accepted ha
    cases afterThird
    refine ⟨b.url, ?_⟩
    rw [← well a.url]
    rfl
  refine ⟨?_, code, url, said⟩
  have requests : (Client.ofServer "http://gw" none).requestsOf
      [.delete "a", .delete "b", .delete "a"] = [a, b, a] := by
    simp [Client.requestsOf, ha, hb, Except.toOption]
  rw [sent]
  simp [requests, textA, textB, deletesA, deletesB]

/-- Someone types a letter of two bytes, takes back its last byte, and ends the line. The first line
is no text, so that the run neither removes anything nor says that it is cancelled, but fails. -/
theorem run_remove_garbled :
    let environment := Environment.typing [("HOME", "/root")] "é\x7f\n".toUTF8 false
    let outcome := run environment ⟨⟨[], []⟩, .scripted [], []⟩ ["devices", "rm", "a"]
    CommandLine.Intent.ofWords ["devices", "rm", "a"] =
        .run ⟨none, .devices (.remove ["a"] false)⟩ ∧
      environment.inputIsTerminal = true ∧ environment.input = ⟨#[0xC3, 0x0A]⟩ ∧
      environment.firstLine.toOption = none ∧
      outcome.2.gateway.requests = [] ∧ outcome.1 ≠ 0 ∧ .out "Cancelled.\n" ∉ outcome.2.said := by
  decide +kernel

end Desk

end GatewayDesk
