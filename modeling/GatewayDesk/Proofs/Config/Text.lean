import GatewayDesk.Config.Text
import GatewayDesk.Proofs.Except
import GatewayDesk.Proofs.Toml.Document
import GatewayDesk.Proofs.Toml.Table

/-!
# Configurations read back

The text of a configuration is written table by table. `Profiles.spells` says which statements its
lines are, `Profiles.foldlM_perform` which table these define, and `Profiles.ofToml_table` which
profiles that table holds; the second and the third are inductions on the profiles, with the ones
that are done in front.

* `Profile.IsWritable`: the timeout, if there is one, has 63 bits.
* `ofText_text`: a configuration reads back as it was, if all its profiles can be written.
-/

namespace GatewayDesk

namespace Profile

/-- Whether a profile can be written: its timeout is an integer of 63 bits. -/
def IsWritable (profile : Profile) : Prop :=
  ∀ n, profile.timeout = some n → n.val < 0x8000000000000000

/-! ## Values -/

/-- The pairs of a profile. -/
def members (profile : Profile) : Toml.Members :=
  [("server", .text profile.server), ("color", .text profile.color)] ++
    (profile.timeout.bind fun n => Toml.Numeral.fit? n.val).toList.map fun z =>
      ("timeout_secs", .integer z)

theorem seconds_integer (n : Seconds) (h : -0x8000000000000000 ≤ (n.val : Int) ∧
    (n.val : Int) < 0x8000000000000000) : seconds (.integer ⟨n.val, h⟩) = .ok n := by
  have positive : 0 ≤ (n.val : Int) := Int.natCast_nonneg _
  rw [seconds, if_pos positive]
  rfl

/-- The pairs of a profile are that profile. -/
theorem ofMembers_members {profile : Profile} (h : profile.IsWritable) :
    ofMembers profile.members = .ok profile := by
  obtain ⟨server, color, timeout⟩ := profile
  cases timeout with
  | none => rfl
  | some n =>
    have small : n.val < 0x8000000000000000 := h n rfl
    have whole : (⟨server, color, some n⟩ : Profile).members =
        [("server", .text server), ("color", .text color),
          ("timeout_secs", .integer ⟨n.val, by omega⟩)] := by
      rw [members, Option.bind_some, Toml.Numeral.fit?_natCast small]
      rfl
    have first (draft : Draft) : draft.read "server" (.text server) =
        .ok { draft with server := some server } := rfl
    have second (draft : Draft) : draft.read "color" (.text color) =
        .ok { draft with color := some color } := rfl
    have third (draft : Draft) : draft.read "timeout_secs" (.integer ⟨n.val, by omega⟩) =
        .ok { draft with timeout := some n } := by
      rw [Draft.read, if_neg (by decide), if_neg (by decide), if_pos rfl, seconds_integer]
      rfl
    rw [whole, ofMembers]
    simp only [List.foldlM_cons, List.foldlM_nil, first, second, third, bind, Except.bind, pure,
      Except.pure]
    rfl

/-! ## Statements -/

/-- The statements of a profile. -/
def statements (name : String) (profile : Profile) : List Toml.Statement :=
  .table ["profile", name] :: profile.members.map fun m => .pair [m.1] m.2

section Lines

open Toml.Document

variable {rest : List Char} {ss : List Toml.Statement} {key : String}

theorem pairLine_append (key : String) (value rest : List Char) :
    pairLine key value ++ rest = key.toList ++ ' ' :: '=' :: ' ' :: (value ++ '\n' :: rest) := by
  simp only [pairLine, List.append_assoc, List.cons_append, List.nil_append]

theorem spells_text (hk : IsWordKey key.toList) (text : String) (hr : Spells rest ss) :
    Spells (pairLine key (Toml.Text.write text.toList) ++ rest)
      (.pair [key] (.text text) :: ss) := by
  have line := hr.textPair hk text.toList
  rwa [String.ofList_toList, String.ofList_toList, ← pairLine_append] at line

/-- The line of a timeout is its pair. -/
theorem spells_timeout {timeout : Option Seconds}
    (h : ∀ n, timeout = some n → n.val < 0x8000000000000000) (hr : Spells rest ss) :
    ∃ text, writeTimeout timeout = .ok text ∧ Spells (text ++ rest)
      (((timeout.bind fun n => Toml.Numeral.fit? n.val).toList.map fun z =>
        Toml.Statement.pair ["timeout_secs"] (.integer z)) ++ ss) := by
  cases timeout with
  | none => exact ⟨[], rfl, hr⟩
  | some n =>
    have small : n.val < 0x8000000000000000 := h n rfl
    have word : IsWordKey "timeout_secs".toList := .of_all (by decide +kernel)
    have line := hr.integerPair word small
    rw [String.ofList_toList, ← pairLine_append] at line
    refine ⟨_, if_pos small, ?_⟩
    rw [Option.bind_some, Toml.Numeral.fit?_natCast small]
    exact line

/-- The text of a profile is its statements. -/
theorem spells_write {profile : Profile} (h : profile.IsWritable) (name : String)
    (hr : Spells rest ss) :
    ∃ text, profile.write name = .ok text ∧
      Spells (text ++ rest) (profile.statements name ++ ss) := by
  obtain ⟨timeout, ht, hs⟩ := spells_timeout h hr
  have color : IsWordKey "color".toList := .of_all (by decide +kernel)
  have server : IsWordKey "server".toList := .of_all (by decide +kernel)
  have table : IsWordKey "profile".toList := .of_all (by decide +kernel)
  have header := (spells_text server profile.server (spells_text color profile.color hs)).header
    table name.toList
  have start : "[profile.".toList = '[' :: ("profile".toList ++ ['.']) := by simp
  refine ⟨_, by rw [write, ht]; rfl, ?_⟩
  rw [String.ofList_toList, String.ofList_toList] at header
  rw [start]
  simp only [statements, members, List.map_map, List.map_cons, List.append_assoc, List.cons_append,
    List.nil_append] at header ⊢
  exact header

end Lines

end Profile

namespace Profiles

/-- Whether all profiles can be written. -/
def IsWritable (profiles : Profiles) : Prop := ∀ p ∈ profiles.entries, p.2.IsWritable

/-! ## Tables -/

/-- The statements of profiles. -/
def statements (entries : List (String × Profile)) : List Toml.Statement :=
  entries.flatMap fun p => p.2.statements p.1

/-- The table of profiles. -/
def table (entries : List (String × Profile)) : Toml.Members :=
  entries.map fun p => (p.1, .table .header p.2.members)

open Toml.Document in
/-- The text of profiles is their statements. -/
theorem spells {entries : List (String × Profile)} (h : ∀ p ∈ entries, p.2.IsWritable) :
    ∃ tables, entries.mapM (fun p => p.2.write p.1) = .ok tables ∧
      Spells (tables.flatMap ('\n' :: ·)) (statements entries) := by
  induction entries with
  | nil => exact ⟨[], rfl, .nil⟩
  | cons p entries ih =>
    obtain ⟨tables, ht, hs⟩ := ih fun q hq => h q (List.mem_cons_of_mem _ hq)
    obtain ⟨text, hp, hw⟩ := Profile.spells_write (h p List.mem_cons_self) p.1 hs
    refine ⟨text :: tables, ?_, ?_⟩
    · rw [List.mapM_cons, hp, ht]
      rfl
    · exact hw.blank

theorem nodup_members (profile : Profile) : (profile.members.map Prod.fst).Nodup := by
  rw [Profile.members]
  generalize (profile.timeout.bind fun n => Toml.Numeral.fit? n.val) = timeout
  cases timeout <;> simp

theorem lacks_table {entries : List (String × Profile)} {name : String}
    (h : name ∉ entries.map Prod.fst) : Toml.Table.Lacks (table entries) name := by
  intro m hm
  obtain ⟨p, hp, rfl⟩ := List.mem_map.1 hm
  rintro rfl
  exact h (List.mem_map_of_mem hp)

open Toml.Table Toml.Document in
/-- The statements of profiles define their table, after the tables that are there. -/
theorem foldlM_perform {before : Toml.Members} (hb : Lacks before "profile")
    (done entries : List (String × Profile)) (here : List String)
    (distinct : ((done ++ entries).map Prod.fst).Nodup) :
    ∃ here', (statements entries).foldlM perform ⟨document before "profile" (table done), here⟩ =
      some ⟨document before "profile" (table (done ++ entries)), here'⟩ := by
  induction entries generalizing done here with
  | nil => exact ⟨here, by rw [List.append_nil]; rfl⟩
  | cons p entries ih =>
    have fresh : p.1 ∉ done.map Prod.fst := by
      intro hp
      rw [List.map_append, List.nodup_append] at distinct
      exact distinct.2.2 _ hp _ List.mem_cons_self rfl
    have whole : done ++ [p] ++ entries = done ++ p :: entries := by simp
    -- The header of the next profile says where its pairs go, wherever the last ones went.
    obtain ⟨here', rest⟩ := ih (done ++ [p]) ["profile", p.1] (by rwa [whole])
    refine ⟨here', ?_⟩
    rw [statements, List.flatMap_cons, List.foldlM_append, Profile.statements,
      foldlM_table hb (lacks_table fresh) _ (nodup_members p.2)]
    rw [whole] at rest
    rw [← rest, table, table, List.map_append]
    rfl

theorem insert_last {entries : List (String × Profile)} {name : String}
    (h : ∀ m ∈ entries, m.1 < name) (profile : Profile) :
    Ordered.insert name profile entries = entries ++ [(name, profile)] := by
  induction entries with
  | nil => rfl
  | cons m entries ih =>
    have below := h m List.mem_cons_self
    have h1 : ¬(name < m.1) := String.lt_asymm below
    have h2 : name ≠ m.1 := by
      rintro rfl
      exact h1 below
    rw [Ordered.insert, if_neg h1, if_neg h2, ih fun n hn => h n (List.mem_cons_of_mem _ hn)]
    rfl

theorem foldlM_insert (profiles : Profiles) (entries : List (String × Profile))
    (ascending : Ordered.Ascending (profiles.entries ++ entries))
    (writable : ∀ p ∈ entries, p.2.IsWritable) :
    (table entries).foldlM (fun (profiles : Profiles) m => do
        return profiles.insert m.1 (← Toml.Fit.inside (.key m.1) (Profile.ofToml m.2))) profiles =
      (.ok ⟨profiles.entries ++ entries, ascending⟩ : Toml.Fit Profiles) := by
  induction entries generalizing profiles with
  | nil =>
    obtain ⟨entries, _⟩ := profiles
    simp only [List.append_nil]
    rfl
  | cons p entries ih =>
    have below : ∀ m ∈ profiles.entries, m.1 < p.1 := fun m hm =>
      (List.pairwise_append.1 ascending).2.2 m hm p List.mem_cons_self
    have grown : (profiles.insert p.1 p.2).entries = profiles.entries ++ [p] :=
      insert_last below p.2
    have read : Profile.ofToml (.table .header p.2.members) = .ok p.2 :=
      Profile.ofMembers_members (writable p List.mem_cons_self)
    have whole : (profiles.insert p.1 p.2).entries ++ entries =
        profiles.entries ++ p :: entries := by
      rw [grown, List.append_assoc]
      rfl
    have step := ih (profiles.insert p.1 p.2) (by rwa [whole]) fun q hq =>
      writable q (List.mem_cons_of_mem _ hq)
    rw [table, List.map_cons, List.foldlM_cons, read]
    show (table entries).foldlM _ (profiles.insert p.1 p.2) = _
    rw [step]
    simp only [whole]

/-- The table of profiles holds these profiles. -/
theorem ofToml_table {profiles : Profiles} (h : profiles.IsWritable) (origin : Toml.Origin) :
    ofToml (.table origin (table profiles.entries)) = .ok profiles :=
  foldlM_insert empty profiles.entries profiles.ascending h

end Profiles

namespace Config

/-- Whether a configuration can be written: all its profiles can. -/
def IsWritable (config : Config) : Prop := config.profiles.IsWritable

/-- The pairs of a configuration. -/
def members (config : Config) : Toml.Members :=
  [("current_profile", .text config.current),
    ("profile", .table .implied (Profiles.table config.profiles.entries))]

theorem ofMembers_members {config : Config} (h : config.IsWritable) :
    ofMembers config.members = .ok (config.current, config.profiles) := by
  have first (draft : Draft) : draft.read "current_profile" (.text config.current) =
      .ok { draft with current := some config.current } := rfl
  have second (draft : Draft) : draft.read "profile"
      (.table .implied (Profiles.table config.profiles.entries)) =
        .ok { draft with profiles := some config.profiles } := by
    rw [Draft.read, if_neg (by decide), if_pos rfl, Profiles.ofToml_table h]
    rfl
  rw [ofMembers, members]
  simp only [List.foldlM_cons, List.foldlM_nil, first, second, bind, Except.bind, pure, Except.pure]

/-- The statements of a configuration. -/
def statements (config : Config) : List Toml.Statement :=
  .pair ["current_profile"] (.text config.current) :: Profiles.statements config.profiles.entries

open Toml.Document in
theorem assemble_statements (config : Config) :
    assemble config.statements = some config.members := by
  have some : config.profiles.entries ≠ [] := by
    intro e
    have := config.current_mem
    rw [Profiles.get?, e] at this
    cases this
  have distinct : (config.profiles.entries.map Prod.fst).Nodup := by
    refine List.pairwise_map.2 (config.profiles.ascending.imp fun {a b} hab => ?_)
    rintro e
    rw [e] at hab
    exact String.lt_irrefl _ hab
  have lacks : Toml.Table.Lacks [("current_profile", .text config.current)] "profile" := by
    intro m hm
    rw [List.mem_singleton.1 hm]
    show "current_profile" ≠ "profile"
    decide
  obtain ⟨here, run⟩ := Profiles.foldlM_perform lacks [] config.profiles.entries [] distinct
  rw [assemble, statements, List.foldlM_cons]
  show ((Profiles.statements config.profiles.entries).foldlM perform
    ⟨[("current_profile", .text config.current)], []⟩).map State.root = _
  rw [Toml.Table.document, Profiles.table, List.map_nil, if_pos rfl, List.append_nil] at run
  rw [run, List.nil_append, Toml.Table.document, if_neg (by simpa [Profiles.table] using some)]
  rfl

/-- The text of a configuration spells its current profile and its profiles. -/
theorem ofText_text {config : Config} (h : config.IsWritable) :
    ∃ text, config.text = .ok text ∧ ofText text = .ok (config.current, config.profiles) := by
  obtain ⟨tables, ht, hs⟩ := Profiles.spells h
  have word : Toml.Document.IsWordKey "current_profile".toList := .of_all (by decide +kernel)
  have lines := Profile.spells_text word config.current hs
  refine ⟨_, by rw [text, Profiles.write, ht]; rfl, ?_⟩
  have read := lines
  rw [Profile.pairLine_append] at read
  replace read := Toml.Document.read_of_spells word read (assemble_statements config)
  rw [← Profile.pairLine_append] at read
  refine Except.bind_eq_ok.2 ⟨config.members, read, ?_⟩
  rw [ofMembers_members h]
  rfl

end Config

end GatewayDesk
