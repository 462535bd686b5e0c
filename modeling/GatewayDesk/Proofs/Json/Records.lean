import GatewayDesk.Proofs.Json.Numbers
import GatewayDesk.Proofs.Json.RoundTrip

/-!
# Lists of records read back

The text of a list of objects is read as that list, with the numbers that their texts are read as.

* `reads_list`: what the reader makes of the objects of a list.
* `compact_array`, `compact_object`: the text of a list and of an object.
* `read_records`: what the line of a list is read as.
-/

namespace GatewayDesk

namespace Json

namespace Reader

/-- An object in the list of the shape. -/
theorem reads_row (members : Members) {phase : Phase} (hp : Awaits phase)
    (room : depthOfMembers members + 2 ≤ depthLimit) (done : List Json) :
    Reads .records ⟨[.array done], phase⟩ (Printer.value (.object members))
      ⟨[.array ((Json.object members).mapNumbers Number.reread :: done)], .comma⟩ := by
  rw [← Printer.value_tight 0]
  exact reads_object members (EachNumberOfMembers.of_forall readsAs_reread members) 0 hp
    (by simp [wanted]) (fun frame => by cases frame <;> rfl) (by rw [List.length_singleton]; omega)

/-- The objects of a list after the first, and the end of the list. -/
theorem reads_rows : (objects : List Members) →
    depthOfItems (objects.map .object) + 1 ≤ depthLimit → ∀ done : List Json,
      Reads .records ⟨[.array done], .comma⟩ (Printer.items (objects.map .object))
        ⟨[], .done (.array (done.reverse ++
          mapNumbersOfItems Number.reread (objects.map .object)))⟩
  | [], _, done => by
    rw [List.map_nil, Printer.items, mapNumbersOfItems, List.append_nil]
    exact Reads.single rfl
  | members :: rest, hd, done => by
    rw [List.map_cons, depthOfItems, depth] at hd
    have row := reads_row members (.inr (.inr rfl)) (by omega) done
    have later := reads_rows rest (by omega)
      ((Json.object members).mapNumbers Number.reread :: done)
    rw [List.reverse_cons, List.append_assoc, List.singleton_append] at later
    exact .cons rfl (row.append later)

/-- The text of a list of objects. -/
theorem reads_list (objects : List Members)
    (hd : (Json.array (objects.map .object)).depth ≤ depthLimit) :
    Reads .records start (Printer.value (.array (objects.map .object)))
      ⟨[], .done ((Json.array (objects.map .object)).mapNumbers Number.reread)⟩ := by
  cases objects with
  | nil => exact .cons rfl (Reads.single rfl)
  | cons members rest =>
    rw [List.map_cons, depth, depthOfItems, depth] at hd
    have row := reads_row members (.inr (.inl rfl)) (by omega) []
    exact .cons rfl (row.append (reads_rows rest (by omega) _))

end Reader

/-! ## Lines -/

theorem toList_compact (value : Json) : value.compact.toList = Printer.value value :=
  String.toList_ofList

theorem value_append_items (first : Json) (items : List Json) :
    Printer.value first ++ Printer.items items =
      [','].intercalate ((first :: items).map Printer.value) ++ [']'] := by
  induction items generalizing first with
  | nil => rw [Printer.items, List.map_singleton, List.intercalate_singleton]
  | cons item rest ih =>
    rw [Printer.items, ih, List.map_cons, List.map_cons, List.map_cons,
      List.intercalate_cons_cons, List.append_assoc, List.append_assoc]
    rfl

/-- The items of an array stand between brackets, with commas between them. -/
theorem compact_array (items : List Json) :
    (Json.array items).compact = "[" ++ ",".intercalate (items.map compact) ++ "]" := by
  have texts : (items.map compact).map String.toList = items.map Printer.value := by
    rw [List.map_map]
    exact List.map_congr_left fun _ _ => toList_compact _
  rw [← String.toList_inj, toList_compact, String.toList_append,
    String.toList_append, String.toList_intercalate, texts]
  cases items with
  | nil => rfl
  | cons first rest =>
    rw [Printer.value, value_append_items]
    rfl

/-- A member as it is written. -/
def entry (member : String × Json) : String :=
  (Json.string member.1).compact ++ ":" ++ member.2.compact

theorem toList_entry (member : String × Json) :
    (entry member).toList = Printer.text member.1 ++ ':' :: Printer.value member.2 := by
  rw [entry, String.toList_append, String.toList_append, toList_compact, toList_compact,
    List.append_assoc]
  rfl

theorem entry_append_members (first : String × Json) (members : Members) :
    Printer.text first.1 ++ ':' :: (Printer.value first.2 ++ Printer.members members) =
      [','].intercalate ((first :: members).map fun m => (entry m).toList) ++ ['\x7d'] := by
  induction members generalizing first with
  | nil =>
    rw [Printer.members, List.map_singleton, List.intercalate_singleton, toList_entry,
      List.append_assoc]
    rfl
  | cons next rest ih =>
    rw [Printer.members, ih, List.map_cons, List.map_cons, List.map_cons,
      List.intercalate_cons_cons, toList_entry first, List.append_assoc, List.append_assoc,
      List.append_assoc]
    rfl

/-- The members of an object stand between braces, with commas between them. -/
theorem compact_object (members : Members) :
    (Json.object members).compact = "\x7b" ++ ",".intercalate (members.map entry) ++ "\x7d" := by
  rw [← String.toList_inj, toList_compact, String.toList_append, String.toList_append,
    String.toList_intercalate, List.map_map]
  cases members with
  | nil => rfl
  | cons first rest =>
    rw [Printer.value, entry_append_members]
    rfl

/-- The line of a list of objects is read as the list with the numbers that they are read as. -/
theorem read_records {objects : List Members}
    (hd : (Json.array (objects.map .object)).depth ≤ Reader.depthLimit) :
    read .records ((Json.array (objects.map .object)).compact ++ "\n") =
      .ok ((Json.array (objects.map .object)).mapNumbers Number.reread) := by
  have text : ((Json.array (objects.map .object)).compact ++ "\n").toList =
      Printer.value (.array (objects.map .object)) ++ ['\n'] := by
    rw [String.toList_append, compact, String.toList_ofList]
    rfl
  have line : Reader.Reads .records Reader.start
      (Printer.value (.array (objects.map .object)) ++ ['\n']) _ :=
    (Reader.reads_list objects hd).append (Reader.Reads.single rfl)
  unfold read
  simp only [text, line 0]
  rfl

end Json

end GatewayDesk
