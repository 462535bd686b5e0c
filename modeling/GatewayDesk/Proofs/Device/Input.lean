import GatewayDesk.DeviceFile
import GatewayDesk.Proofs.Except
import GatewayDesk.Proofs.Text.Utf8

/-!
# What devices are read from

A file holds what is wanted if it is there, is no directory, is a text, and the text is read as what
is wanted. `DeviceFile.Lacks` lists the four ways in which that fails.

* `readText_eq_ok_iff`: the text of a file.
* `lacks_iff`: a file lacks something exactly if no text that holds it can be read.
* `read_eq_ok_iff`, `readList_eq_ok_iff`, `readInput_eq_ok_iff`: what the readers read.
-/

namespace GatewayDesk

theorem FileTree.readText_eq_ok_iff {tree : FileTree} {path text : String} :
    tree.readText path = .ok text ↔ ∃ location, tree.locate path = .ok location ∧
      tree.at? location = some (.file text.toUTF8) := by
  constructor
  · intro h
    obtain ⟨bytes, hb, h⟩ := Except.bind_eq_ok.1 h
    obtain ⟨location, hl, hb⟩ := Except.bind_eq_ok.1 hb
    refine ⟨location, hl, ?_⟩
    split at hb
    case h_1 contents found =>
      cases hb
      split at h
      case h_1 text' decoded =>
        cases h
        rw [found, Utf8.decode_eq_ok_iff.1 decoded]
      case h_2 => cases h
    case h_2 => cases hb
    case h_3 => cases hb
  · rintro ⟨location, hl, found⟩
    refine Except.bind_eq_ok.2 ⟨text.toUTF8, Except.bind_eq_ok.2 ⟨location, hl, ?_⟩, ?_⟩
    · rw [found]
      rfl
    · rw [Utf8.decode_toUTF8]
      rfl

namespace DeviceFile

variable {files : FileTree} {path : String} {holds : String → Prop}

/-- Whether a file lacks what its text is to hold: nothing is there, a directory is there, its
contents are no text, or its text holds something else. -/
inductive Lacks (files : FileTree) (path : String) (holds : String → Prop) : Prop where
  | missing (h : ∀ location, files.locate path = .ok location → files.at? location = none)
  | directory {location : Location} (h : files.locate path = .ok location)
    (found : files.at? location = some .directory)
  | notText {location : Location} {contents : ByteArray} (h : files.locate path = .ok location)
    (found : files.at? location = some (.file contents))
    (not : ∀ text : String, contents ≠ text.toUTF8)
  | otherText {location : Location} {text : String} (h : files.locate path = .ok location)
    (found : files.at? location = some (.file text.toUTF8)) (not : ¬holds text)

/-- A file lacks something exactly if no text that holds it can be read. -/
theorem lacks_iff :
    Lacks files path holds ↔ ¬∃ text, files.readText path = .ok text ∧ holds text := by
  simp only [FileTree.readText_eq_ok_iff]
  constructor
  · rintro lacks ⟨text, ⟨location, hl, found⟩, held⟩
    rcases lacks with h | ⟨h, found'⟩ | ⟨h, found', not⟩ | ⟨h, found', not⟩
    · rw [h location hl] at found
      cases found
    all_goals
      obtain rfl := Except.ok.inj (h.symm.trans hl)
      have same := found'.symm.trans found
    · cases same
    · cases same
      exact not text rfl
    · have bytes := Entry.file.inj (Option.some.inj same)
      obtain rfl := String.toByteArray_inj.1 bytes
      exact not held
  · intro none
    cases hl : files.locate path with
    | error fault => exact .missing fun location h => by rw [hl] at h; cases h
    | ok location =>
      cases found : files.at? location with
      | none => exact .missing fun other h => by rw [hl] at h; cases h; exact found
      | some entry =>
        cases entry with
        | directory => exact .directory hl found
        | file contents =>
          by_cases text : ∃ text : String, contents = text.toUTF8
          · obtain ⟨text, rfl⟩ := text
            exact .otherText hl found fun held => none ⟨text, ⟨location, hl, found⟩, held⟩
          · exact .notText hl found fun t e => text ⟨t, e⟩

/-! ## Readers -/

variable {input : ByteArray} {source : String} {device : Device} {devices : List Device}

theorem readFile_eq_ok_iff {text : String} :
    readFile files path = .ok text ↔ files.readText path = .ok text :=
  Except.mapError_eq_ok.trans Except.mapError_eq_ok

/-- The device of a file is that of its text, in the format that the name of the file says. -/
theorem read_eq_ok_iff (h : source ≠ standardInput) :
    read files input source = .ok device ↔ ∃ text, files.readText source = .ok text ∧
      parse text (.ofPath source) = .ok device := by
  rw [read, if_neg h, Except.bind_eq_ok]
  simp only [readFile_eq_ok_iff]
  exact exists_congr fun text => and_congr_right fun _ => Except.mapError_eq_ok

/-- The devices of a file are those of its text, in the format that the name of the file says. -/
theorem readList_eq_ok_iff :
    readList files path = .ok devices ↔ ∃ text, files.readText path = .ok text ∧
      parseList text (.ofPath path) = .ok devices := by
  rw [readList, Except.bind_eq_ok]
  simp only [readFile_eq_ok_iff]
  exact exists_congr fun text => and_congr_right fun _ => Except.mapError_eq_ok

theorem parse_json_eq_ok_iff {text : String} :
    parse text .json = .ok device ↔ Device.read text = .ok device :=
  Except.mapError_eq_ok.trans Except.mapError_eq_ok

theorem parse_yaml_eq_ok_iff {text : String} :
    parse text .yaml = .ok device ↔ readYaml text = .ok device :=
  Except.mapError_eq_ok.trans Except.mapError_eq_ok

theorem parseList_json_eq_ok_iff {text : String} :
    parseList text .json = .ok devices ↔ Device.readList text = .ok devices :=
  Except.mapError_eq_ok.trans Except.mapError_eq_ok

/-- A text of unknown format is a device if it is one as JSON or as YAML. -/
theorem parseAny_eq_ok_iff {text : String} :
    (∃ device, parseAny text = .ok device) ↔
      (∃ device, Device.read text = .ok device) ∨ ∃ device, readYaml text = .ok device := by
  rw [parseAny]
  cases Device.read text with
  | ok device => exact iff_of_true ⟨device, rfl⟩ (.inl ⟨device, rfl⟩)
  | error notJson =>
    cases readYaml text with
    | ok device => exact iff_of_true ⟨device, rfl⟩ (.inr ⟨device, rfl⟩)
    | error notYaml =>
      refine iff_of_false (fun ⟨_, e⟩ => nomatch e) ?_
      rintro (⟨_, ⟨⟩⟩ | ⟨_, ⟨⟩⟩)

/-- The device of standard input is that of its text, which is not blank. -/
theorem readInput_eq_ok_iff :
    readInput input = .ok device ↔ ∃ text : String, input = text.toUTF8 ∧
      Text.isBlank text = false ∧ parseAny text = .ok device := by
  rw [readInput, Except.bind_eq_ok]
  refine exists_congr fun text => and_congr ?_ ?_
  · exact (Except.mapError_eq_ok.trans Except.mapError_eq_ok).trans <|
      Except.mapError_eq_ok.trans Utf8.decode_eq_ok_iff
  · cases Text.isBlank text with
    | true => exact iff_of_false (fun e => nomatch e) fun ⟨e, _⟩ => nomatch e
    | false =>
      rw [eq_self, true_and]
      exact Except.mapError_eq_ok

end DeviceFile

end GatewayDesk
