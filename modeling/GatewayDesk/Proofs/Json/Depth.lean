import GatewayDesk.Proofs.Json.Event
import Mathlib.Order.Nat

/-!
# The depth of what is read

The reader opens containers no deeper than its limit, and every container that it opens ends up in
the value. So the depth that a run has reached is that of the value it ends with.

* `State.peak`: the depth reached.
* `climbs_apply`, `climbs_step`, `climbs_run`: an event, a step and a whole text never lower it, and
  raise it up to the limit.
* `depth_le_of_read`: the depth of a value that is read.
-/

namespace GatewayDesk

namespace Json

theorem depthOfItems_le_iff {n : Nat} {items : List Json} :
    depthOfItems items ≤ n ↔ ∀ item ∈ items, item.depth ≤ n := by
  induction items with
  | nil => simp [depthOfItems]
  | cons item rest ih => rw [depthOfItems, Nat.max_le, ih, List.forall_mem_cons]

theorem depthOfMembers_le_iff {n : Nat} {members : Members} :
    depthOfMembers members ≤ n ↔ ∀ m ∈ members, m.2.depth ≤ n := by
  induction members with
  | nil => simp [depthOfMembers]
  | cons m rest ih => rw [depthOfMembers, Nat.max_le, ih, List.forall_mem_cons]

theorem depthOfItems_reverse (items : List Json) :
    depthOfItems items.reverse = depthOfItems items :=
  eq_of_forall_ge_iff fun n => by simp only [depthOfItems_le_iff, List.mem_reverse]

theorem depthOfMembers_reverse (members : Members) :
    depthOfMembers members.reverse = depthOfMembers members :=
  eq_of_forall_ge_iff fun n => by simp only [depthOfMembers_le_iff, List.mem_reverse]

namespace Reader

/-! ## The depth reached -/

/-- The depth of what an open container holds. -/
def Frame.depth : Frame → Nat
  | .array items => depthOfItems items
  | .object members _ => depthOfMembers members

/-- The depth that open containers and what they hold have reached. -/
def peakOf : List Frame → Nat
  | [] => 0
  | frame :: rest => max (frame.depth + rest.length + 1) (peakOf rest)

/-- The depth that a run has reached. -/
def State.peak (s : State) : Nat :=
  match s.phase with
  | .done v => v.depth
  | _ => peakOf s.stack

/-- Whether a state can be reached: after the outermost value nothing is open, and no word stands
for a container. -/
structure State.IsSound (s : State) : Prop where
  alone : ∀ value, s.phase = .done value → s.stack = []
  flat : s.phase.IsFlat

variable {shape : Shape} {stack : List Frame} {phase : Phase} {s t : State} {c : Char}

theorem length_le_peakOf (stack : List Frame) : stack.length ≤ peakOf stack := by
  cases stack with
  | nil => exact Nat.le_refl 0
  | cons frame rest =>
    rw [peakOf, List.length_cons]
    omega

theorem peak_of_unfinished (unfinished : ∀ value, phase ≠ .done value) :
    (State.mk stack phase).peak = peakOf stack := by
  cases phase with
  | done value => exact absurd rfl (unfinished value)
  | _ => rfl

/-- A value reaches as deep as it stands. -/
theorem peak_complete (stack : List Frame) (value : Json) :
    (complete stack value).peak = max (value.depth + stack.length) (peakOf stack) := by
  match stack with
  | [] => exact (Nat.max_zero _).symm
  | .array items :: rest =>
    show max (max value.depth (depthOfItems items) + rest.length + 1) (peakOf rest) =
      max (value.depth + (rest.length + 1))
        (max (depthOfItems items + rest.length + 1) (peakOf rest))
    omega
  | .object members key :: rest =>
    show max (max value.depth (depthOfMembers members) + rest.length + 1) (peakOf rest) =
      max (value.depth + (rest.length + 1))
        (max (depthOfMembers members + rest.length + 1) (peakOf rest))
    omega

theorem isSound_complete (stack : List Frame) (value : Json) :
    (complete stack value).IsSound := by
  match stack with
  | [] => exact ⟨fun _ _ => rfl, trivial⟩
  | .array _ :: _ => exact ⟨nofun, trivial⟩
  | .object _ _ :: _ => exact ⟨nofun, trivial⟩

/-! ## Events -/

/-- What a step may do to the depth reached: it is kept or raised, up to the limit. -/
structure Climbs (peak : Nat) (t : State) : Prop where
  sound : t.IsSound
  kept : peak ≤ t.peak
  limited : t.peak ≤ max peak depthLimit

theorem Climbs.of_eq (sound : t.IsSound) (h : t.peak = peakOf stack) : Climbs (peakOf stack) t :=
  ⟨sound, h.ge, h.le.trans (Nat.le_max_left _ _)⟩

theorem Climbs.refl (sound : s.IsSound) : Climbs s.peak s :=
  ⟨sound, Nat.le_refl _, Nat.le_max_left _ _⟩

theorem Climbs.trans {peak : Nat} (first : Climbs peak s) (second : Climbs s.peak t) :
    Climbs peak t :=
  ⟨second.sound, first.kept.trans second.kept,
    second.limited.trans (Nat.max_le.2 ⟨first.limited, Nat.le_max_right _ _⟩)⟩

theorem climbs_openFrame {frame : Frame} {refused : Shape} {found : Found}
    (ht : openFrame shape stack frame phase refused found = .ok t) (empty : frame.depth = 0)
    (unfinished : ∀ value, phase ≠ .done value) (flat : phase.IsFlat) :
    Climbs (peakOf stack) t := by
  unfold openFrame at ht
  split at ht
  · cases ht
  split at ht
  case isTrue room =>
    cases ht
    have peak : (State.mk (frame :: stack) phase).peak = max (stack.length + 1) (peakOf stack) := by
      rw [peak_of_unfinished unfinished, peakOf, empty, Nat.zero_add]
    exact ⟨⟨fun v e => absurd e (unfinished v), flat⟩, by omega, by omega⟩
  case isFalse => cases ht

theorem climbs_completeScalar {value : Json} (flat : value.depth = 0) {past : Nat}
    (ht : completeScalar shape stack value past = .ok t) : Climbs (peakOf stack) t := by
  unfold completeScalar at ht
  split at ht
  · cases ht
  · cases ht
    refine .of_eq (isSound_complete stack value) ?_
    rw [peak_complete, flat, Nat.zero_add, Nat.max_eq_right (length_le_peakOf stack)]

/-- A container reaches in the one below as deep as it did while it was open. -/
theorem climbs_array (items : List Json) :
    Climbs (peakOf (.array items :: stack)) (complete stack (.array items.reverse)) := by
  refine .of_eq (isSound_complete stack _) ?_
  rw [peak_complete, depth, depthOfItems_reverse, peakOf, Frame.depth, Nat.add_right_comm]

theorem climbs_object (members : Members) (key : String) :
    Climbs (peakOf (.object members key :: stack)) (complete stack (.object members.reverse)) := by
  refine .of_eq (isSound_complete stack _) ?_
  rw [peak_complete, depth, depthOfMembers_reverse, peakOf, Frame.depth, Nat.add_right_comm]

theorem climbs_completeText {role : Role} {done : List Char}
    (ht : completeText shape stack role done = .ok t) : Climbs (peakOf stack) t := by
  unfold completeText at ht
  dsimp only at ht
  split at ht
  · cases ht
    exact .of_eq ⟨nofun, trivial⟩ rfl
  · exact climbs_completeScalar rfl ht

theorem climbs_afterValue (ht : afterValue stack c = .ok t) : Climbs (peakOf stack) t := by
  unfold afterValue at ht
  split at ht
  · cases ht
  · split at ht
    · cases ht
      exact climbs_array _
    split at ht
    · cases ht
      exact .of_eq ⟨nofun, trivial⟩ rfl
    · cases ht
  · split at ht
    · cases ht
      exact climbs_object _ _
    split at ht
    · cases ht
      exact .of_eq ⟨nofun, trivial⟩ rfl
    · cases ht

theorem climbs_between (h : s.IsSound) (ht : between s c = .ok t) : Climbs s.peak t := by
  unfold between at ht
  split at ht
  · cases ht
    exact .refl h
  · obtain ⟨stack, phase⟩ := s
    by_cases done : ∃ value, phase = .done value
    · obtain ⟨value, rfl⟩ := done
      obtain rfl : stack = [] := h.alone value rfl
      cases ht
    · rw [peak_of_unfinished (not_exists.1 done)]
      exact climbs_afterValue ht

/-- No event lowers the depth reached, or raises it above the limit. -/
theorem climbs_apply {e : Event} (h : s.IsSound) (he : e.IsFlat)
    (unfinished : ∀ value, s.phase ≠ .done value) (ht : e.apply shape s = .ok t) :
    Climbs s.peak t := by
  obtain ⟨stack, phase⟩ := s
  have peak : (State.mk stack phase).peak = peakOf stack := peak_of_unfinished unfinished
  rw [peak]
  cases e with
  | fault stop => cases ht
  | pass =>
    cases ht
    exact .of_eq h peak
  | turn phase' unfinished' =>
    cases ht
    exact .of_eq ⟨fun v e => absurd e (unfinished' v), he⟩ (peak_of_unfinished unfinished')
  | openArray => exact climbs_openFrame ht rfl nofun trivial
  | openObject => exact climbs_openFrame ht rfl nofun trivial
  | endArray =>
    match stack, ht with
    | .array items :: rest, ht => cases ht; exact climbs_array items
  | endObject =>
    match stack, ht with
    | .object members key :: rest, ht => cases ht; exact climbs_object members key
  | key text => exact climbs_completeText ht
  | scalar value past => exact climbs_completeScalar he ht
  | after c =>
    rw [← peak]
    exact climbs_between h ht
  | number n c =>
    obtain ⟨u, hu, ht⟩ := Except.bind_eq_ok.1 ht
    have first : Climbs (peakOf stack) u := climbs_completeScalar rfl hu
    exact first.trans (climbs_between first.sound ht)

/-! ## Steps and runs -/

theorem climbs_step (h : s.IsSound) (ht : step shape s c = .ok t) : Climbs s.peak t := by
  obtain ⟨stack, phase⟩ := s
  by_cases done : ∃ value, phase = .done value
  · obtain ⟨value, rfl⟩ := done
    exact climbs_between h ht
  · obtain ⟨e, flat, he⟩ := exists_event phase c
    rw [he] at ht
    exact climbs_apply h (flat h.flat) (not_exists.1 done) ht

/-- No text lowers the depth reached, or raises it above the limit. -/
theorem climbs_run {text : List Char} {offset : Nat} (h : s.IsSound)
    (ht : run shape s text offset = .ok t) : Climbs s.peak t := by
  induction text generalizing s offset with
  | nil =>
    cases ht
    exact .refl h
  | cons c cs ih =>
    rw [run] at ht
    split at ht
    case h_1 u hu =>
      have first := climbs_step h hu
      exact first.trans (ih first.sound ht)
    case h_2 => cases ht

theorem isSound_start : start.IsSound := ⟨nofun, trivial⟩

/-- A value that a text ends with has the depth that was reached. -/
theorem depth_le_of_finish {value : Json} (hv : finish shape s = .ok value) :
    value.depth ≤ s.peak := by
  obtain ⟨stack, phase⟩ := s
  unfold finish at hv
  cases phase with
  | done value' =>
    cases hv
    exact Nat.le_refl _
  | numeral negative n =>
    obtain ⟨number, -, hv⟩ := Except.bind_eq_ok.1 hv
    split at hv <;> cases hv
    exact Nat.zero_le _
  | comma => dsimp only at hv; split at hv <;> cases hv
  | _ => cases hv

end Reader

/-! ## Values -/

/-- What is read is no deeper than the limit. -/
theorem depth_le_of_read {shape : Shape} {text : String} {value : Json}
    (h : read shape text = .ok value) : value.depth ≤ Reader.depthLimit := by
  unfold read at h
  dsimp only at h
  split at h
  · cases h
  case h_2 state hs =>
    exact (Reader.depth_le_of_finish (Except.mapError_eq_ok.1 h)).trans
      ((Reader.climbs_run Reader.isSound_start hs).limited.trans (by decide))

/-! ## Canonical forms -/

theorem depthOfMembers_insertOlder (key : String) (value : Json) (members : Members) :
    depthOfMembers (Ordered.insertOlder key value members) ≤
      max value.depth (depthOfMembers members) := by
  induction members with
  | nil => exact Nat.le_refl _
  | cons m rest ih =>
    rw [Ordered.insertOlder]
    split
    · exact Nat.le_refl _
    · split
      · exact Nat.le_max_right _ _
      · rw [depthOfMembers, depthOfMembers]
        omega

mutual

theorem depth_canonical_le : (value : Json) → value.canonical.depth ≤ value.depth
  | .null => Nat.le_refl _
  | .boolean _ => Nat.le_refl _
  | .number _ => Nat.le_refl _
  | .string _ => Nat.le_refl _
  | .array items => Nat.succ_le_succ (depthOfItems_canonical_le items)
  | .object members => Nat.succ_le_succ (depthOfMembers_canonical_le members)

theorem depthOfItems_canonical_le : (items : List Json) →
    depthOfItems (canonicalItems items) ≤ depthOfItems items
  | [] => Nat.le_refl _
  | item :: rest => by
    have := depth_canonical_le item
    have := depthOfItems_canonical_le rest
    rw [canonicalItems, depthOfItems, depthOfItems]
    omega

theorem depthOfMembers_canonical_le : (members : Members) →
    depthOfMembers (canonicalMembers members) ≤ depthOfMembers members
  | [] => Nat.le_refl _
  | (key, value) :: rest => by
    have := depth_canonical_le value
    have := depthOfMembers_canonical_le rest
    have := depthOfMembers_insertOlder key value.canonical (canonicalMembers rest)
    rw [canonicalMembers, depthOfMembers]
    omega

end

end Json

end GatewayDesk
