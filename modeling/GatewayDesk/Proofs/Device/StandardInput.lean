import GatewayDesk.Proofs.Device.Input
import GatewayDesk.Proofs.Json.Blank
import GatewayDesk.Proofs.Yaml.Blank

/-!
# Devices from standard input

Standard input has no name that says a format. Its text is read as JSON, or else as YAML, so it
holds a device exactly if a file of one of the formats with this text does. A blank text is refused
before it is read, though a YAML file with such a text may hold the device without fields.

* `parse_json_eq_error_iff`, `parse_yaml_eq_error_iff`: how a file of one format is refused.
* `parse_of_isBlank`: what a file with a blank text holds.
* `parseAny_eq_ok_iff_parse`, `parseAny_of_error`: the two formats one after the other.
* `read_standardInput`: all of that for the reader.
-/

namespace GatewayDesk

namespace DeviceFile

variable {text : String} {device : Device} {failure notJson notYaml : Failure}

theorem parse_json_eq_error_iff : parse text .json = .error failure ↔
    ∃ e, Device.read text = .error e ∧
      ⟨["Expected a single device object"], .json e⟩ = failure := by
  unfold parse
  cases Device.read text with
  | ok device =>
    constructor
    · intro h
      cases h
    · rintro ⟨_, ⟨⟩, _⟩
  | error e =>
    constructor
    · intro h
      cases h
      exact ⟨e, rfl, rfl⟩
    · rintro ⟨_, ⟨⟩, rfl⟩
      rfl

theorem parse_yaml_eq_error_iff : parse text .yaml = .error failure ↔
    ∃ e, readYaml text = .error e ∧ ⟨["Expected a single device object"], .yaml e⟩ = failure := by
  unfold parse
  cases readYaml text with
  | ok device =>
    constructor
    · intro h
      cases h
    · rintro ⟨_, ⟨⟩, _⟩
  | error e =>
    constructor
    · intro h
      cases h
      exact ⟨e, rfl, rfl⟩
    · rintro ⟨_, ⟨⟩, rfl⟩
      rfl

/-- A blank text is no device as JSON, and as YAML at most the one without fields. -/
theorem parse_of_isBlank (blank : Text.isBlank text = true) :
    (∃ failure, parse text .json = .error failure) ∧
      ∀ device, parse text .yaml = .ok device → device = Device.empty := by
  have h : ∀ c ∈ text.toList, Char.isBlank c = true := List.all_eq_true.1 blank
  constructor
  · obtain ⟨e, refused⟩ := Json.read_of_isBlank h .record
    have none : Device.read text = .error e := by
      rw [Device.read, refused]
      rfl
    exact ⟨_, parse_json_eq_error_iff.2 ⟨e, none, rfl⟩⟩
  · intro device found
    obtain ⟨members, read, rfl⟩ := Except.map_eq_ok.1 (parse_yaml_eq_ok_iff.1 found)
    rw [Yaml.readObject_of_isBlank h read]
    rfl

/-- A text of unknown format is what a JSON file says it is, or else what a YAML file says. -/
theorem parseAny_eq_ok_iff_parse :
    parseAny text = .ok device ↔ parse text .json = .ok device ∨
      (∃ failure, parse text .json = .error failure) ∧ parse text .yaml = .ok device := by
  rw [parse_json_eq_ok_iff, parse_yaml_eq_ok_iff, parseAny]
  simp only [parse_json_eq_error_iff]
  cases Device.read text with
  | ok found =>
    simp only [Except.ok.injEq]
    refine ⟨.inl, fun h => ?_⟩
    rcases h with same | ⟨⟨_, _, ⟨⟩, _⟩, _⟩
    exact same
  | error e =>
    dsimp only
    cases readYaml text with
    | ok found =>
      simp only [Except.ok.injEq]
      refine ⟨fun same => .inr ⟨⟨_, e, rfl, rfl⟩, same⟩, fun h => ?_⟩
      rcases h with ⟨⟨⟩⟩ | ⟨-, same⟩
      exact same
    | error e' =>
      constructor
      · intro h
        cases h
      · intro h
        rcases h with h | ⟨-, h⟩
        · cases h
        · cases h

/-- A text that neither format takes is refused with the last sentences of both refusals. -/
theorem parseAny_of_error (json : parse text .json = .error notJson)
    (yaml : parse text .yaml = .error notYaml) :
    ∃ inJson inYaml, notJson.texts = ["Expected a single device object", inJson] ∧
      notYaml.texts = ["Expected a single device object", inYaml] ∧
      parseAny text = .error (.note s!"not valid JSON ({inJson}) nor YAML ({inYaml})") := by
  obtain ⟨e, refused, rfl⟩ := parse_json_eq_error_iff.1 json
  obtain ⟨e', refused', rfl⟩ := parse_yaml_eq_error_iff.1 yaml
  refine ⟨e.message, e'.message, rfl, rfl, ?_⟩
  rw [parseAny, refused, refused']

/-- A text on standard input, after the texts that are refused at once. -/
theorem readInput_toUTF8 (some : Text.isBlank text = false) :
    readInput text.toUTF8 =
      Attempt.during "Expected a single device object on stdin" (parseAny text) := by
  rw [readInput, Utf8.decode_toUTF8]
  show (if Text.isBlank text then _ else _) = _
  rw [some]
  rfl

/-- Standard input is read as both formats are, JSON first. A text that is not blank holds a device
exactly if a JSON file with it does, or no JSON file but a YAML file, and what a JSON file holds is
the same on standard input; if neither format takes it, the failure tells both reasons. A blank text
is refused, but it is no JSON either, and a YAML file with it holds at most the device without
fields. -/
theorem read_standardInput (files : FileTree) :
    (∀ text device, read files text.toUTF8 standardInput = .ok device ↔
        Text.isBlank text = false ∧ (parse text .json = .ok device ∨
          (∃ failure, parse text .json = .error failure) ∧ parse text .yaml = .ok device)) ∧
      (∀ text, Text.isBlank text = true →
        read files text.toUTF8 standardInput = .error (.note "No device given on stdin") ∧
          (∃ failure, parse text .json = .error failure) ∧
          ∀ device, parse text .yaml = .ok device → device = Device.empty) ∧
      (∀ source text input device, source ≠ standardInput → Format.ofPath source = .json →
        files.readText source = .ok text → read files input source = .ok device →
          read files text.toUTF8 standardInput = .ok device) ∧
      ∀ text notJson notYaml, Text.isBlank text = false → parse text .json = .error notJson →
        parse text .yaml = .error notYaml →
          ∃ inJson inYaml failure, notJson.texts = ["Expected a single device object", inJson] ∧
            notYaml.texts = ["Expected a single device object", inYaml] ∧
            read files text.toUTF8 standardInput = .error failure ∧
            failure.texts = ["Expected a single device object on stdin",
              s!"not valid JSON ({inJson}) nor YAML ({inYaml})"] := by
  have union (text : String) (device : Device) :
      read files text.toUTF8 standardInput = .ok device ↔ Text.isBlank text = false ∧
        (parse text .json = .ok device ∨
          (∃ failure, parse text .json = .error failure) ∧ parse text .yaml = .ok device) := by
    rw [read, if_pos rfl, readInput_eq_ok_iff]
    constructor
    · rintro ⟨text', bytes, some, found⟩
      obtain rfl := String.toByteArray_inj.1 bytes
      exact ⟨some, parseAny_eq_ok_iff_parse.1 found⟩
    · rintro ⟨some, found⟩
      exact ⟨text, rfl, some, parseAny_eq_ok_iff_parse.2 found⟩
  refine ⟨union, fun text blank => ?_, ?_, ?_⟩
  · refine ⟨?_, parse_of_isBlank blank⟩
    rw [read, if_pos rfl, readInput, Utf8.decode_toUTF8]
    show (if Text.isBlank text then _ else _) = _
    rw [blank]
    rfl
  · intro source text input device named json found held
    obtain ⟨text', found', taken⟩ := (read_eq_ok_iff named).1 held
    cases found.symm.trans found'
    rw [json] at taken
    refine (union text device).2 ⟨?_, .inl taken⟩
    cases blank : Text.isBlank text with
    | false => rfl
    | true =>
      obtain ⟨failure, refused⟩ := (parse_of_isBlank blank).1
      rw [refused] at taken
      cases taken
  · intro text notJson notYaml some json yaml
    obtain ⟨inJson, inYaml, first, second, both⟩ := parseAny_of_error json yaml
    have refused := readInput_toUTF8 some
    rw [both] at refused
    exact ⟨inJson, inYaml, _, first, second, refused, rfl⟩

/-- A JSON file and the same text on standard input, YAML on standard input, and a text that is
neither. -/
theorem read_standardInput_formats :
    let text := "\x7b\"interval\":30\x7d"
    let files : FileTree := ⟨[(["a.json"], .file text.toUTF8)], []⟩
    (∃ device, read files .empty "a.json" = .ok device ∧
        read files text.toUTF8 standardInput = .ok device) ∧
      (∃ device, read files "interval: 30".toUTF8 standardInput = .ok device ∧
        device.interval = some 30) ∧
      ∃ (inJson inYaml : String) (failure : Failure),
        read files "[".toUTF8 standardInput = .error failure ∧
          failure.texts = ["Expected a single device object on stdin",
            s!"not valid JSON ({inJson}) nor YAML ({inYaml})"] := by
  intro text files
  obtain ⟨union, -, same, neither⟩ := read_standardInput files
  refine ⟨?_, ?_, ?_⟩
  · have fine : (parse text .json).toOption.any (fun _ => true) = true := by decide +kernel
    obtain ⟨device, taken, -⟩ := Except.exists_of_any fine
    have found : files.readText "a.json" = .ok text :=
      FileTree.readText_eq_ok_iff.2 ⟨["a.json"], rfl, rfl⟩
    have json : Format.ofPath "a.json" = .json := by decide +kernel
    have held : read files .empty "a.json" = .ok device :=
      (read_eq_ok_iff (by decide)).2 ⟨text, found, by rw [json]; exact taken⟩
    exact ⟨device, held, same "a.json" text .empty device (by decide) json found held⟩
  · have fine : (parse "interval: 30" .yaml).toOption.any
        (fun device => decide (device.interval = some 30)) = true := by decide +kernel
    obtain ⟨device, taken, thirty⟩ := Except.exists_of_any fine
    have refused : ∃ failure, parse "interval: 30" .json = .error failure :=
      Except.error_of_toOption (by decide +kernel)
    exact ⟨device, (union _ device).2 ⟨rfl, .inr ⟨refused, taken⟩⟩, of_decide_eq_true thirty⟩
  · obtain ⟨notJson, json⟩ : ∃ failure, parse "[" .json = .error failure :=
      Except.error_of_toOption (by decide +kernel)
    obtain ⟨notYaml, yaml⟩ : ∃ failure, parse "[" .yaml = .error failure :=
      Except.error_of_toOption (by decide +kernel)
    obtain ⟨inJson, inYaml, failure, -, -, refused, told⟩ :=
      neither "[" notJson notYaml rfl json yaml
    exact ⟨inJson, inYaml, failure, refused, told⟩

/-- The empty text is a YAML file that holds the device without fields, but on standard input it
holds none. -/
theorem read_standardInput_empty :
    ((∃ failure, parse "" .json = .error failure) ∧ parse "" .yaml = .ok Device.empty) ∧
      read ⟨[], []⟩ "".toUTF8 standardInput ≠ .ok Device.empty := by
  have fine : (parse "" .yaml).toOption.any (fun _ => true) = true := by decide +kernel
  obtain ⟨device, taken, -⟩ := Except.exists_of_any fine
  obtain rfl := (parse_of_isBlank rfl).2 device taken
  refine ⟨⟨(parse_of_isBlank rfl).1, taken⟩, ?_⟩
  rw [read, if_pos rfl, readInput, Utf8.decode_toUTF8]
  rintro ⟨⟩

end DeviceFile

end GatewayDesk
