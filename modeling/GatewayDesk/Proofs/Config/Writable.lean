import GatewayDesk.Config.Store
import GatewayDesk.Proofs.Config.Text
import GatewayDesk.Proofs.Except

/-!
# What is read can be written

Integers of a document have 64 bits with a sign, so a timeout that is read has 63; each reader of
the configuration keeps that. `load_isWritable` says so of a whole configuration.
-/

namespace GatewayDesk

namespace Profile

variable {value : Toml.Value} {profile : Profile}

theorem seconds_lt {n : Seconds} (h : seconds value = .ok n) : n.val < 0x8000000000000000 := by
  unfold seconds at h
  split at h
  case h_1 z =>
    split at h
    case isTrue positive =>
      cases h
      have := z.2.2
      show z.val.toNat < _
      omega
    case isFalse => cases h
  case h_2 => cases h

theorem inside_eq_ok {α : Type} {step : Toml.Step} {fit : Toml.Fit α} {a : α} :
    Toml.Fit.inside step fit = .ok a ↔ fit = .ok a := Except.mapError_eq_ok

/-- A key keeps the timeout that has been read in its bounds. -/
theorem Draft.read_lt {draft next : Draft} {key : String} (h : draft.read key value = .ok next)
    (hd : ∀ n, draft.timeout = some n → n.val < 0x8000000000000000) :
    ∀ n, next.timeout = some n → n.val < 0x8000000000000000 := by
  rw [Draft.read, inside_eq_ok] at h
  split at h
  · obtain ⟨server, -, h⟩ := Except.bind_eq_ok.1 h
    cases h
    exact hd
  · split at h
    · obtain ⟨color, -, h⟩ := Except.bind_eq_ok.1 h
      cases h
      exact hd
    · split at h
      · obtain ⟨n, hn, h⟩ := Except.bind_eq_ok.1 h
        cases h
        rintro _ ⟨⟩
        exact seconds_lt hn
      · cases h
        exact hd

theorem ofMembers_isWritable {members : Toml.Members} (h : ofMembers members = .ok profile) :
    profile.IsWritable := by
  obtain ⟨draft, hd, h⟩ := Except.bind_eq_ok.1 h
  have bound : ∀ n, draft.timeout = some n → n.val < 0x8000000000000000 := by
    refine Except.foldlM_preserves
      (fun draft : Draft => ∀ n, draft.timeout = some n → n.val < 0x8000000000000000)
      (fun m _ b c hb hc => Draft.read_lt hc hb) ?_ hd
    rintro n ⟨⟩
  split at h
  case h_1 =>
    cases h
    exact bound
  case h_2 => cases h

theorem ofItems_isWritable {items : List Toml.Value} (h : ofItems items = .ok profile) :
    profile.IsWritable := by
  unfold ofItems at h
  split at h
  case h_1 => cases h
  case h_2 first more =>
    obtain ⟨server, -, h⟩ := Except.bind_eq_ok.1 h
    split at h
    case h_1 =>
      cases h
      rintro n ⟨⟩
    case h_2 second more =>
      obtain ⟨color, -, h⟩ := Except.bind_eq_ok.1 h
      split at h
      case h_1 =>
        cases h
        rintro n ⟨⟩
      case h_2 third _ =>
        obtain ⟨n, hn, h⟩ := Except.bind_eq_ok.1 h
        cases h
        rintro _ ⟨⟩
        exact seconds_lt (inside_eq_ok.1 hn)

theorem ofToml_isWritable (h : ofToml value = .ok profile) : profile.IsWritable := by
  unfold ofToml at h
  split at h
  case h_1 => exact ofMembers_isWritable h
  case h_2 => cases h
  case h_3 => exact ofItems_isWritable h
  case h_4 => exact ofItems_isWritable h
  case h_5 => cases h

end Profile

namespace Profiles

theorem insert_isWritable {profiles : Profiles} (h : profiles.IsWritable) (name : String)
    {profile : Profile} (hp : profile.IsWritable) : (profiles.insert name profile).IsWritable := by
  intro p hm
  rcases Ordered.eq_or_mem_of_mem_insert hm with rfl | hm
  · exact hp
  · exact h p hm

theorem ofToml_isWritable {value : Toml.Value} {profiles : Profiles}
    (h : ofToml value = .ok profiles) : profiles.IsWritable := by
  unfold ofToml at h
  split at h
  case h_1 =>
    refine Except.foldlM_preserves IsWritable (fun m _ b c hb hc => ?_) ?_ h
    · obtain ⟨profile, hp, hc⟩ := Except.bind_eq_ok.1 hc
      cases hc
      exact insert_isWritable hb _ (Profile.ofToml_isWritable (Profile.inside_eq_ok.1 hp))
    · rintro p ⟨⟩
  case h_2 => cases h
  case h_3 => cases h

end Profiles

namespace Config

theorem ofText_isWritable {text current : String} {profiles : Profiles}
    (h : ofText text = .ok (current, profiles)) : profiles.IsWritable := by
  obtain ⟨members, -, h⟩ := Except.bind_eq_ok.1 h
  split at h
  case h_2 => cases h
  case h_1 result hm =>
    cases h
    obtain ⟨draft, hd, hm⟩ := Except.bind_eq_ok.1 hm
    have kept : ∀ profiles, draft.profiles = some profiles → profiles.IsWritable := by
      refine Except.foldlM_preserves
        (fun draft : Draft => ∀ profiles, draft.profiles = some profiles → profiles.IsWritable)
        (fun m _ b c hb hc => ?_) ?_ hd
      · rw [Draft.read, Profile.inside_eq_ok] at hc
        split at hc
        · obtain ⟨current, -, hc⟩ := Except.bind_eq_ok.1 hc
          cases hc
          exact hb
        · split at hc
          · obtain ⟨profiles, hp, hc⟩ := Except.bind_eq_ok.1 hc
            cases hc
            rintro _ ⟨⟩
            exact Profiles.ofToml_isWritable hp
          · cases hc
            exact hb
      · rintro profiles ⟨⟩
    split at hm
    case h_1 hp =>
      cases hm
      exact kept _ hp
    case h_2 => cases hm
    case h_3 => cases hm

theorem initial_isWritable (path : String) : (initial path).IsWritable := by
  intro p hp
  rw [List.mem_singleton.1 hp]
  rintro n ⟨⟩

/-- A configuration that is read can be written. -/
theorem load_isWritable {files : FileTree} {path : String} {config : Config}
    (h : load files path = .ok config) : config.IsWritable := by
  unfold load at h
  split at h
  case h_1 text _ =>
    obtain ⟨⟨current, profiles⟩, hr, h⟩ := Except.bind_eq_ok.1 h
    have read := Except.mapError_eq_ok.1 (Except.mapError_eq_ok.1 hr)
    dsimp only at h
    split at h
    case isTrue =>
      cases h
      exact ofText_isWritable read
    case isFalse => cases h
  case h_2 =>
    cases h
    exact initial_isWritable path
  case h_3 => cases h

end Config

end GatewayDesk
