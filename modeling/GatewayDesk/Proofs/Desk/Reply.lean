import GatewayDesk.Desk.Saving
import GatewayDesk.Proofs.Desk.Transfer
import GatewayDesk.Proofs.Json.Blank

/-!
# Replies that are told

The body of a reply is told as it is, or on lines if it is JSON. The lines mean what the body means.

* `json_layout`: a value that was read from a body is read again from its text, in any layout.
* `display?_of_json`, `display?_of_not_json`: what is told of a body.
* `sayReply_meaning`: what telling a reply says, and what that is read as.
-/

namespace GatewayDesk

namespace Reply

variable {reply : Reply} {value : Json}

theorem isEmpty_iff : reply.isEmpty = true ↔ ∀ c ∈ reply.body.toList, Char.isBlank c = true :=
  List.all_eq_true

/-- A body that holds nothing but white space is no JSON. -/
theorem json_of_isEmpty (h : reply.isEmpty = true) : ∃ e, reply.json = .error e := by
  obtain ⟨e, he⟩ := Json.read_of_isBlank (isEmpty_iff.1 h) .any
  exact ⟨e, by rw [json, he]; rfl⟩

/-! ## Values read again -/

theorem canonical_of_json (h : reply.json = .ok value) : value.Canonical := by
  obtain ⟨written, -, rfl⟩ := Except.map_eq_ok.1 h
  exact Json.canonical_canonical written

theorem depth_of_json (h : reply.json = .ok value) : value.depth ≤ Json.Reader.depthLimit := by
  obtain ⟨written, read, rfl⟩ := Except.map_eq_ok.1 h
  exact (Json.depth_canonical_le written).trans (Json.depth_le_of_read read)

/-- A value that was read from a body is read again from its text, in any layout and with white
space after it, if its numbers are integers. -/
theorem json_layout (layout : Json.Printer.Layout) (h : reply.json = .ok value)
    (integers : value.EachNumber Json.Number.IsInteger) (blank : List Char)
    (hb : ∀ c ∈ blank, Json.Reader.isSpace c = true) (status : Nat) :
    (Reply.mk status (String.ofList (layout.value 0 value ++ blank))).json = .ok value := by
  have back := Json.EachNumber.imp Json.Reader.readsBack_integer value integers
  rw [json, Json.read_layout layout back (depth_of_json h) hb]
  exact congrArg Except.ok (Json.canonical_eq_self value (canonical_of_json h))

theorem json_compact (h : reply.json = .ok value)
    (integers : value.EachNumber Json.Number.IsInteger) (status : Nat) :
    (Reply.mk status value.compact).json = .ok value := by
  have again := json_layout .tight h integers [] (List.forall_mem_nil _) status
  rwa [Json.Printer.value_tight, List.append_nil] at again

theorem json_indented (h : reply.json = .ok value)
    (integers : value.EachNumber Json.Number.IsInteger) (blank : List Char)
    (hb : ∀ c ∈ blank, Json.Reader.isSpace c = true) (status : Nat) :
    (Reply.mk status (value.indented ++ String.ofList blank)).json = .ok value := by
  have again := json_layout .lined h integers blank hb status
  rwa [Json.Printer.value_lined, String.ofList_append] at again

/-! ## What is told -/

/-- A body that is JSON is told on lines. -/
theorem display?_of_json (h : reply.json = .ok value) : reply.display? = some value.indented := by
  have filled : reply.isEmpty = false := by
    by_contra empty
    obtain ⟨e, he⟩ := json_of_isEmpty (by simpa using empty)
    rw [h] at he
    cases he
  rw [display?, filled, h]
  rfl

/-- A body that is no JSON is told as it is, unless it is blank. -/
theorem display?_of_not_json {e : Json.Error} (h : reply.json = .error e)
    (filled : reply.isEmpty = false) : reply.display? = some reply.body := by
  rw [display?, filled, h]
  rfl

end Reply

namespace Job

variable {reply : Reply} {desk : Desk}

theorem sayReply_some {text : String} (h : reply.display? = some text) :
    sayReply reply desk = (.ok (), desk.note (.out (text ++ "\n"))) := by
  rw [sayReply, h]
  rfl

theorem sayReply_none (h : reply.display? = none) : sayReply reply desk = (.ok (), desk) := by
  rw [sayReply, h]
  rfl

/-- What is told of a reply that has something to tell. -/
theorem standardOutput_sayReply {text : String} (h : reply.display? = some text) :
    (sayReply reply desk).2.standardOutput = desk.standardOutput ++ (text ++ "\n") := by
  rw [sayReply_some h]
  exact desk.standardOutput_out _

theorem display?_eq_none_iff : reply.display? = none ↔ reply.isEmpty = true := by
  rw [Reply.display?]
  split
  case isTrue empty => exact iff_of_true rfl empty
  case isFalse filled => split <;> exact iff_of_false nofun filled

/-- Nothing is told exactly of the replies that are blank. -/
theorem standardOutput_sayReply_self_iff :
    (sayReply reply desk).2.standardOutput = desk.standardOutput ↔ reply.isEmpty = true := by
  rw [← display?_eq_none_iff]
  constructor
  · intro silent
    cases told : reply.display? with
    | none => rfl
    | some text =>
      rw [standardOutput_sayReply told] at silent
      have length := congrArg String.length silent
      simp at length
  · intro told
    rw [sayReply_none told]

/-- Telling a reply never fails. It says nothing exactly if the body holds only white space, which
is no JSON. A body that is JSON is told on lines; if its numbers are integers, what is said is read
as the same value, and so is the text of the value without white space. Any other body is told as it
is. -/
theorem sayReply_meaning (reply : Reply) (desk : Desk) :
    (sayReply reply desk).1 = .ok () ∧
      ((sayReply reply desk).2.standardOutput = desk.standardOutput ↔
        ∀ c ∈ reply.body.toList, Char.isBlank c = true) ∧
      ((∀ c ∈ reply.body.toList, Char.isBlank c = true) → ∃ e, reply.json = .error e) ∧
      (∀ value, reply.json = .ok value →
        (sayReply reply desk).2.standardOutput =
            desk.standardOutput ++ (value.indented ++ "\n") ∧
          (value.EachNumber Json.Number.IsInteger → ∀ status,
            (Reply.mk status value.indented).json = .ok value ∧
              (Reply.mk status (value.indented ++ "\n")).json = .ok value ∧
              (Reply.mk status value.compact).json = .ok value)) ∧
      ∀ e, reply.json = .error e → (∃ c ∈ reply.body.toList, Char.isBlank c = false) →
        (sayReply reply desk).2.standardOutput = desk.standardOutput ++ (reply.body ++ "\n") := by
  refine ⟨?_, ?_, ?_, ?_, ?_⟩
  · cases told : reply.display? with
    | none => rw [sayReply_none told]
    | some text => rw [sayReply_some told]
  · rw [standardOutput_sayReply_self_iff, Reply.isEmpty_iff]
  · exact fun blank => Reply.json_of_isEmpty (Reply.isEmpty_iff.2 blank)
  · intro value found
    refine ⟨standardOutput_sayReply (Reply.display?_of_json found), fun integers status => ?_⟩
    have alone := Reply.json_indented found integers [] (List.forall_mem_nil _) status
    have line := Reply.json_indented found integers ['\n'] (List.all_eq_true.1 rfl) status
    rw [String.ofList_nil, String.append_empty] at alone
    exact ⟨alone, line, Reply.json_compact found integers status⟩
  · rintro e broken ⟨c, mem, visible⟩
    refine standardOutput_sayReply (Reply.display?_of_not_json broken ?_)
    by_contra empty
    rw [Reply.isEmpty_iff.1 (by simpa using empty) c mem] at visible
    cases visible

/-- A body with a repeated key and the least integer, one of white space beyond that of JSON, and
one that is no JSON. -/
theorem sayReply_meaning_sorted :
    let desk : Desk := ⟨⟨[], []⟩, .scripted [], []⟩
    let reply : Reply := ⟨200, "\x7b\"b\":7,\"a\":[],\"b\":[-9223372036854775808,\"\\n\"]\x7d"⟩
    let text :=
      "\x7b\n  \"a\": [],\n  \"b\": [\n    -9223372036854775808,\n    \"\\n\"\n  ]\n\x7d\n"
    (∃ value, reply.json = .ok value ∧ (Reply.mk 200 text).json = .ok value ∧
        (sayReply reply desk).2.standardOutput = text) ∧
      (sayReply ⟨200, "\u2003\n"⟩ desk).2.standardOutput = "" ∧
      (sayReply ⟨200, "listDevices"⟩ desk).2.standardOutput = "listDevices\n" := by
  intro desk reply text
  refine ⟨?_, ?_, ?_⟩
  · have read : reply.json.toOption.any (fun value => decide (value.indented ++ "\n" = text ∧
        value.EachNumber Json.Number.IsInteger)) = true := by decide +kernel
    obtain ⟨value, found, fine⟩ := Except.exists_of_any read
    obtain ⟨lines, integers⟩ := of_decide_eq_true fine
    obtain ⟨said, again⟩ := (sayReply_meaning reply desk).2.2.2.1 value found
    rw [lines] at said
    exact ⟨value, found, lines ▸ (again integers 200).2.1, said⟩
  · have blank : "\u2003\n".toList.all Char.isBlank = true := by decide +kernel
    exact (sayReply_meaning ⟨200, "\u2003\n"⟩ desk).2.1.2 (List.all_eq_true.1 blank)
  · have broken : (Reply.mk 200 "listDevices").json.toOption.isNone = true := by decide +kernel
    cases found : (Reply.mk 200 "listDevices").json with
    | ok value =>
      rw [found] at broken
      cases broken
    | error e =>
      have told := (sayReply_meaning ⟨200, "listDevices"⟩ desk).2.2.2.2 e found
      exact told ⟨'l', by decide +kernel, rfl⟩

end Job

end GatewayDesk
