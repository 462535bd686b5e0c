import GatewayDesk.Proofs.Json.Layout
import GatewayDesk.Proofs.Json.Reading

/-!
# Values read back

The printer writes a value as a tree, the reader takes it in with a stack. `reads_value` relates
the two by induction on the value, with one lemma for each of the three ways in which the printer
recurses; what is open so far and what may be opened still stay below the reader's limit together.
The layout does not matter, so both printers are read back at once.

Each number may read as another one; the value is then read with the other numbers.

* `read_record`: the text of an object whose numbers read back, read as a whole, is that object.
* `read_layout`: the text of any such value, in any layout, with white space around it.
-/

namespace GatewayDesk

namespace Json

namespace Reader

section Containers

variable {shape : Shape} {stack : List Frame} {phase : Phase}

/-- The bracket that opens an array. -/
theorem step_array (hp : Awaits phase) (hw : wanted shape stack ≠ some .record)
    (room : stack.length < depthLimit) :
    step shape ⟨stack, phase⟩ '[' = .ok ⟨.array [] :: stack, .firstItem⟩ := by
  rw [step_awaits hp (by decide) (by decide)]
  simp [startValue, openFrame, hw, room]

/-- The brace that opens an object. -/
theorem step_object (hp : Awaits phase) (hw : wanted shape stack ≠ some .records)
    (room : stack.length < depthLimit) :
    step shape ⟨stack, phase⟩ '\x7b' = .ok ⟨.object [] "" :: stack, .firstKey⟩ := by
  rw [step_awaits hp (by decide) (by decide)]
  simp [startValue, openFrame, hw, room]

/-- The bracket that closes an array with items. -/
theorem step_array_end (items : List Json) :
    step shape ⟨.array items :: stack, .comma⟩ ']' =
      .ok (complete stack (.array items.reverse)) := rfl

/-- The brace that closes an object with members. -/
theorem step_object_end (members : Members) (key : String) :
    step shape ⟨.object members key :: stack, .comma⟩ '\x7d' =
      .ok (complete stack (.object members.reverse)) := rfl

/-- The white space before an item or a member, and before the end of a container. -/
theorem reads_line (layout : Printer.Layout) (shape : Shape) (s : State) (h : s.phase.Skips)
    (level : Nat) : Reads shape s (layout.line level) s :=
  reads_spaces h (layout.isSpace_line level)

/-- A key with its colon. -/
theorem reads_key_colon (layout : Printer.Layout) (shape : Shape) (stack : List Frame)
    {phase : Phase} (hp : phase = .firstKey ∨ phase = .nextKey) (members : Members)
    (old key : String) :
    Reads shape ⟨.object members old :: stack, phase⟩ (Printer.text key ++ ':' :: layout.gap)
      ⟨.object members key :: stack, .value⟩ :=
  (reads_key hp members old key).append (.cons rfl (reads_spaces trivial layout.isSpace_gap))

end Containers

section Values

variable {f : Number → Number} {layout : Printer.Layout}

mutual

/-- The text of a value leads to a state that settles the value with the numbers that are read. -/
theorem reads_value : (value : Json) → value.EachNumber (fun n => ReadsAs n (f n)) →
    ∀ {shape : Shape} {stack : List Frame} {phase : Phase} (level : Nat), Awaits phase →
      wanted shape stack = none → stack.length + value.depth ≤ depthLimit →
      ∃ s, Reads shape ⟨stack, phase⟩ (layout.value level value) s ∧
        Settles shape stack (value.mapNumbers f) s
  | .null, _, _, _, _, _, hp, hw, _ =>
    ⟨_, reads_word hp hw (by decide) (by decide) rfl, settles_complete _ _⟩
  | .boolean true, _, _, _, _, _, hp, hw, _ =>
    ⟨_, reads_word hp hw (by decide) (by decide) rfl, settles_complete _ _⟩
  | .boolean false, _, _, _, _, _, hp, hw, _ =>
    ⟨_, reads_word hp hw (by decide) (by decide) rfl, settles_complete _ _⟩
  | .number n, hn, shape, stack, phase, _, hp, hw, _ => by
    rw [Printer.Layout.value]
    exact hn shape stack phase hp hw
  | .string s, _, _, _, _, _, hp, hw, _ => by
    rw [Printer.Layout.value]
    exact ⟨_, reads_string hp hw s, settles_complete _ _⟩
  | .array [], _, _, _, _, _, hp, hw, hd => by
    rw [depth] at hd
    rw [Printer.Layout.value]
    refine ⟨_, .cons (step_array hp (by simp [hw]) (by omega)) (Reads.single rfl),
      settles_complete _ _⟩
  | .array (first :: rest), hn, shape, stack, phase, level, hp, hw, hd => by
    rw [depth, depthOfItems] at hd
    obtain ⟨hfirst, hrest⟩ := hn
    have inner := wanted_cons hw (.array [])
    have awaits : Awaits .firstItem := .inr (.inl rfl)
    obtain ⟨s, hs, settled⟩ :=
      reads_value first hfirst (level + 1) awaits inner (by rw [List.length_cons]; omega)
    have hr := reads_items rest hrest level hw settled (by omega)
    have blank := reads_line layout shape ⟨.array [] :: stack, .firstItem⟩ trivial (level + 1)
    rw [Printer.Layout.value]
    exact ⟨_, .cons (step_array hp (by simp [hw]) (by omega)) (blank.append (hs.append hr)),
      settles_complete _ _⟩
  | .object members, hn, _, _, _, level, hp, hw, hd => by
    rw [depth] at hd
    exact ⟨_, reads_object members hn level hp (by simp [hw]) (wanted_cons hw) (by omega),
      settles_complete _ _⟩

/-- The items after one that is settled, and the end of the array. -/
theorem reads_items : (items : List Json) → EachNumberOfItems (fun n => ReadsAs n (f n)) items →
    ∀ {shape : Shape} {stack : List Frame} {done : List Json} {last : Json} {s : State}
      (level : Nat), wanted shape stack = none → Settles shape (.array done :: stack) last s →
      stack.length + 1 + depthOfItems items ≤ depthLimit →
      Reads shape s (layout.items level items)
        (complete stack (.array ((last :: done).reverse ++ mapNumbersOfItems f items)))
  | [], _, _, _, done, last, _, level, _, settled, _ => by
    rw [Printer.Layout.items, mapNumbersOfItems, List.append_nil]
    exact settled.reads_follower (layout.isSpace_line level) (by decide) (step_array_end _)
  | item :: rest, hn, shape, stack, done, last, s, level, hw, settled, hd => by
    rw [depthOfItems] at hd
    have awaits : Awaits .nextItem := .inr (.inr rfl)
    obtain ⟨t, ht, settled'⟩ := reads_value item hn.1 (level + 1) awaits
      (wanted_cons hw (.array (last :: done))) (by rw [List.length_cons]; omega)
    have hr := reads_items rest hn.2 level hw settled' (by omega)
    have blank := reads_line layout shape ⟨.array (last :: done) :: stack, .nextItem⟩ trivial
      (level + 1)
    rw [List.reverse_cons, List.append_assoc, List.singleton_append] at hr
    rw [Printer.Layout.items]
    exact .cons (by rw [settled.next _ (by decide)]; rfl) (blank.append (ht.append hr))

/-- The text of an object, also where the shape asks for one. -/
theorem reads_object : (members : Members) →
    EachNumberOfMembers (fun n => ReadsAs n (f n)) members →
    ∀ {shape : Shape} {stack : List Frame} {phase : Phase} (level : Nat), Awaits phase →
      wanted shape stack ≠ some .records → (∀ frame, wanted shape (frame :: stack) = none) →
      stack.length + 1 + depthOfMembers members ≤ depthLimit →
      Reads shape ⟨stack, phase⟩ (layout.value level (.object members))
        (complete stack ((Json.object members).mapNumbers f))
  | [], _, _, _, _, _, hp, hw, _, hd => by
    rw [Printer.Layout.value]
    exact .cons (step_object hp hw (by omega)) (Reads.single rfl)
  | (key, first) :: rest, hn, shape, stack, phase, level, hp, hw, inner, hd => by
    rw [depthOfMembers] at hd
    have awaits : Awaits .value := .inl rfl
    obtain ⟨s, hs, settled⟩ := reads_value first hn.1 (level + 1) awaits
      (inner (.object [] key)) (by rw [List.length_cons]; omega)
    have hr := reads_members rest hn.2 level inner settled (by omega)
    have blank := reads_line layout shape ⟨.object [] "" :: stack, .firstKey⟩ trivial (level + 1)
    have hk := reads_key_colon layout shape stack (.inl rfl) [] "" key
    rw [Printer.Layout.value]
    exact .cons (step_object hp hw (by omega)) (blank.append (hk.append (hs.append hr)))

/-- The members after one that is settled, and the end of the object. -/
theorem reads_members : (members : Members) →
    EachNumberOfMembers (fun n => ReadsAs n (f n)) members →
    ∀ {shape : Shape} {stack : List Frame} {done : Members} {key : String} {last : Json}
      {s : State} (level : Nat), (∀ frame, wanted shape (frame :: stack) = none) →
      Settles shape (.object done key :: stack) last s →
      stack.length + 1 + depthOfMembers members ≤ depthLimit →
      Reads shape s (layout.members level members)
        (complete stack (.object (((key, last) :: done).reverse ++ mapNumbersOfMembers f members)))
  | [], _, _, _, done, key, last, _, level, _, settled, _ => by
    rw [Printer.Layout.members, mapNumbersOfMembers, List.append_nil]
    exact settled.reads_follower (layout.isSpace_line level) (by decide) (step_object_end _ _)
  | (next, value) :: rest, hn, shape, stack, done, key, last, s, level, inner, settled, hd => by
    rw [depthOfMembers] at hd
    have awaits : Awaits .value := .inl rfl
    obtain ⟨t, ht, settled'⟩ := reads_value value hn.1 (level + 1) awaits
      (inner (.object ((key, last) :: done) next)) (by rw [List.length_cons]; omega)
    have hr := reads_members rest hn.2 level inner settled' (by omega)
    have blank := reads_line layout shape ⟨.object ((key, last) :: done) key :: stack, .nextKey⟩
      trivial (level + 1)
    have hk := reads_key_colon layout shape stack (.inr rfl) ((key, last) :: done) key next
    rw [List.reverse_cons, List.append_assoc, List.singleton_append] at hr
    rw [Printer.Layout.members]
    exact .cons (by rw [settled.next _ (by decide)]; rfl) (blank.append (hk.append (ht.append hr)))

end

end Values

end Reader

theorem mapNumbers_id (value : Json) : value.mapNumbers id = value :=
  (mapNumbers_eq_self_iff id value).2 (EachNumber.of_forall (fun _ => rfl) value)

/-- The text of a value whose numbers read back, in any layout and with white space after it. -/
theorem read_layout (layout : Printer.Layout) {value : Json} {blank : List Char}
    (hn : value.EachNumber Reader.ReadsBack) (hd : value.depth ≤ Reader.depthLimit)
    (hb : ∀ c ∈ blank, Reader.isSpace c = true) :
    read .any (String.ofList (layout.value 0 value ++ blank)) = .ok value := by
  obtain ⟨s, hs, settled⟩ : ∃ s, Reader.Reads .any ⟨[], .value⟩ (layout.value 0 value) s ∧
      Reader.Settles .any [] (value.mapNumbers id) s :=
    Reader.reads_value value hn 0 (.inl rfl) rfl (by rw [List.length_nil]; omega)
  rw [mapNumbers_id] at settled
  obtain ⟨t, ht, settled⟩ := settled.skip hb
  unfold read
  rw [String.toList_ofList]
  simp only [Reader.start, (hs.append ht) 0, settled.ends]
  rfl

/-- The text of an object whose numbers read back, read as a record, is that object. -/
theorem read_record {members : Members} (hn : EachNumberOfMembers Reader.ReadsBack members)
    (hd : depth (.object members) ≤ Reader.depthLimit) :
    read .record (compact (.object members)) = .ok (.object members) := by
  rw [depth] at hd
  have hr : Reader.Reads .record ⟨[], .value⟩ (Printer.Layout.tight.value 0 (.object members))
      (Reader.complete [] ((Json.object members).mapNumbers id)) :=
    Reader.reads_object members hn 0 (.inl rfl) (by decide) (fun _ => rfl)
      (by rw [List.length_nil]; omega)
  rw [mapNumbers_id, Printer.value_tight] at hr
  unfold read compact
  rw [String.toList_ofList]
  simp only [Reader.start, hr 0]
  rfl

end Json

end GatewayDesk
