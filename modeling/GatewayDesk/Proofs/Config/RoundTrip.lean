import GatewayDesk.Config.Store
import GatewayDesk.Proofs.Config.Session
import GatewayDesk.Proofs.Files.Parent
import GatewayDesk.Proofs.Files.Tree

/-!
# What is saved is loaded again

A save writes the text of a configuration beside its path and moves it there. So the path has that
text afterwards, which reads back as the configuration, and nothing is left beside it.

* `sibling_of_names`: where the path that is written first leads.
* `save_eq_ok`: what a save does that does not fail.
* `load_save`: a configuration that a session holds can be written, and is loaded as it was saved.
-/

namespace GatewayDesk

namespace Config

variable {config : Config} {files : FileTree}

/-- A path without a file name is its own sibling. -/
theorem sibling_eq_self {path : String} (h : Path.fileName? path = none) : sibling path = path := by
  rw [sibling, Path.withSuffix, h]

/-- The sibling of a path is another name in the directory of the path, unless it is left without a
file name. -/
theorem sibling_of_names {path : String} {front : List (List Char)} {name : List Char}
    (h : Path.Names path front name) :
    (∃ stem, stem ≠ [] ∧ Path.Leads (sibling path) front (stem ++ ".toml.save".toList) ∧
      stem ++ ".toml.save".toList ≠ name) ∨
      ['.', '.'] <+: name ∧ Path.fileName? (sibling path) = none := by
  have whole : ".toml.save".toList = '.' :: "toml.save".toList := rfl
  have slashless : '/' ∉ "toml.save".toList := by simp
  rw [whole]
  rcases h.withSuffix slashless (by simp) with leads | ⟨dot, nameless⟩
  · exact .inl ⟨_, (Path.stem_prefix h.nonempty).2, leads, Path.splitSuffix_ne name (by simp)⟩
  · exact .inr ⟨Path.dots_prefix_of_stem h.ne_dot dot, nameless⟩

/-- A path that has been moved to leads to a name, and its sibling to another in the same
directory. -/
theorem leads_sibling {path : String} {after : FileTree}
    (h : files.rename (sibling path) path = .ok after) :
    ∃ front name other, Path.Leads path front name ∧
      Path.Leads (sibling path) front other ∧ other ≠ name := by
  obtain ⟨⟨_, _, source⟩, front, name, target⟩ := FileTree.leads_of_rename h
  rcases sibling_of_names target.names with ⟨stem, -, leads, apart⟩ | ⟨-, nameless⟩
  · exact ⟨front, name, _, target, leads, apart⟩
  · cases source.fileName?.symm.trans nameless

/-- A save that does not fail writes the text beside the path and moves it there. -/
theorem save_eq_ok (h : (config.save files).result = .ok ()) :
    ∃ made text written, config.text = .ok text ∧
      FileTree.write made (sibling config.path) text.toUTF8 = .ok written ∧
      written.rename (sibling config.path) config.path = .ok (config.save files).files := by
  unfold save at h ⊢
  split at h
  case h_1 made _ =>
    unfold replace at h ⊢
    split at h
    case h_1 => cases h
    case h_2 text ht =>
      split at h
      case h_1 => cases h
      case h_2 written hw =>
        split at h
        case h_1 => cases h
        case h_2 after hr => exact ⟨made, text, written, ht, hw, hr⟩
  case h_2 failed fails =>
    exact (fails (makeHome files config.path).files (by rw [← h])).elim

/-- The configuration of a file. -/
theorem load_of_readBytes {path text : String} (writable : config.IsWritable)
    (ht : config.text = .ok text) (hr : files.readBytes path = .ok text.toUTF8) :
    load files path = .ok { config with override := none, path := path } := by
  obtain ⟨text', ht', read⟩ := ofText_text writable
  obtain rfl : text = text' := Except.ok.inj (ht.symm.trans ht')
  have own : files.readText path = .ok text := by
    refine Except.bind_eq_ok.2 ⟨text.toUTF8, hr, ?_⟩
    rw [Utf8.decode_toUTF8]
    rfl
  rw [load, own]
  dsimp only
  rw [ofTextAt, read]
  show dite _ _ _ = _
  rw [dif_pos config.current_mem]
  rfl

/-- A configuration that a session holds can be written. Where it is saved, it is loaded again as it
was, but for a server that stands in, and nothing is left beside it. -/
theorem load_save {session : Session} {steps : List Session.Step} (fresh : session.config = none)
    (held : (session.run steps).config = some config) :
    (∃ text, config.text = .ok text) ∧
      ∀ files, (config.save files).result = .ok () →
        load (config.save files).files config.path = .ok { config with override := none } ∧
        (config.save files).files.locate (sibling config.path) = .error .notFound := by
  have writable : config.IsWritable := by
    refine Session.run_isWritable ?_ steps config held
    intro config held
    rw [fresh] at held
    cases held
  refine ⟨(ofText_text writable).imp fun _ h => h.1, ?_⟩
  -- The path and its sibling lead to two names in one directory, so the move is a replacement.
  intro files saved
  obtain ⟨made, text, written, ht, hw, hr⟩ := save_eq_ok saved
  obtain ⟨front, name, other, target, source, apart⟩ := leads_sibling hr
  obtain ⟨read, gone⟩ := FileTree.readBytes_replace source target apart hw hr
  exact ⟨load_of_readBytes writable ht read, gone⟩

/-- A stored configuration with two profiles, of which one has a timeout and the other a name with
blanks and quotes, is loaded, and saved while another server stands in. -/
theorem load_save_stored :
    let text := "current_profile = \"lab\"\n[profile.lab]\nserver = \"http://lab/\"\n" ++
      "timeout_secs = 5\n[profile.\"line \\\"7\\\"\"]\nserver = \"http://[::1]\"\ncolor = \"red\"\n"
    let files : FileTree := ⟨[(["desk.toml"], .file text.toUTF8)], []⟩
    ∃ config loaded,
      (Session.run ⟨files, none⟩ [.load "desk.toml", .override "http://gw"]).config = some config ∧
      load files "desk.toml" = .ok loaded ∧ loaded.profiles.names = ["lab", "line \"7\""] ∧
      loaded.timeout.map Fin.val = some 5 ∧ (config.save files).result = .ok () ∧
      load (config.save files).files "desk.toml" = .ok loaded := by
  intro text files
  have shown : (load files "desk.toml").toOption.map (fun config =>
      (config.path, config.override, config.profiles.names, config.timeout.map Fin.val,
        ((config.setOverride "http://gw").save files).result.isOk)) =
      some ("desk.toml", none, ["lab", "line \"7\""], some 5, true) := by decide +kernel
  cases found : load files "desk.toml" with
  | error failure =>
    rw [found] at shown
    cases shown
  | ok loaded =>
    rw [found] at shown
    simp only [Except.toOption, Option.map_some, Option.some.injEq, Prod.mk.injEq] at shown
    obtain ⟨path, own, names, timeout, done⟩ := shown
    have held : (Session.run ⟨files, none⟩ [.load "desk.toml", .override "http://gw"]).config =
        some (loaded.setOverride "http://gw") := by
      simp only [Session.run, List.foldl_cons, List.foldl_nil, Session.perform, found]
    have saved : ((loaded.setOverride "http://gw").save files).result = .ok () := by
      cases result : ((loaded.setOverride "http://gw").save files).result with
      | error failure =>
        rw [result] at done
        cases done
      | ok => rfl
    refine ⟨_, loaded, held, rfl, names, timeout, saved, ?_⟩
    have again := ((load_save rfl held).2 files saved).1
    have same : ({ loaded.setOverride "http://gw" with override := none } : Config) = loaded := by
      rw [← own]
      rfl
    have place : (loaded.setOverride "http://gw").path = "desk.toml" := path
    rw [same, place] at again
    exact again

end Config

end GatewayDesk
