import GatewayDesk.Json.Printer
import GatewayDesk.Json.Reader

/-!
# Layouts

Two printers write the same values: one without white space, one with an item or a member to a line.
They differ in a `Layout`, that is, in the white space that stands between the same tokens.

* `Layout.value`: a value in a layout.
* `value_tight`, `value_lined`: the two printers.
-/

namespace GatewayDesk

namespace Json

namespace Printer

/-- White space between the tokens of a value. -/
structure Layout where
  /-- What stands before an item, a member or the end of a container, at a level. -/
  line : Nat → List Char
  /-- What stands after a colon. -/
  gap : List Char
  isSpace_line : ∀ level, ∀ c ∈ line level, Reader.isSpace c = true
  isSpace_gap : ∀ c ∈ gap, Reader.isSpace c = true

namespace Layout

/-- No white space. -/
def tight : Layout := ⟨fun _ => [], [], nofun, nofun⟩

/-- An item or a member to a line. -/
def lined : Layout where
  line := Printer.line
  gap := [' ']
  isSpace_line level c h := by
    rcases List.mem_cons.1 h with rfl | h
    · rfl
    · rw [List.eq_of_mem_replicate h]
      rfl
  isSpace_gap c h := by
    rw [List.mem_singleton.1 h]
    rfl

variable (layout : Layout)

mutual

/-- A value at a level. -/
def value (level : Nat) : Json → List Char
  | .null => ['n', 'u', 'l', 'l']
  | .boolean true => ['t', 'r', 'u', 'e']
  | .boolean false => ['f', 'a', 'l', 's', 'e']
  | .number n => n.text
  | .string s => text s
  | .array [] => ['[', ']']
  | .array (first :: rest) =>
    '[' :: (layout.line (level + 1) ++ (value (level + 1) first ++ items level rest))
  | .object [] => ['\x7b', '\x7d']
  | .object ((key, first) :: rest) =>
    '\x7b' :: (layout.line (level + 1) ++ ((text key ++ ':' :: layout.gap) ++
      (value (level + 1) first ++ members level rest)))

/-- The items after the first, and the end of the array. -/
def items (level : Nat) : List Json → List Char
  | [] => layout.line level ++ [']']
  | item :: rest =>
    ',' :: (layout.line (level + 1) ++ (value (level + 1) item ++ items level rest))

/-- The members after the first, and the end of the object. -/
def members (level : Nat) : Members → List Char
  | [] => layout.line level ++ ['\x7d']
  | (key, item) :: rest =>
    ',' :: (layout.line (level + 1) ++ ((text key ++ ':' :: layout.gap) ++
      (value (level + 1) item ++ members level rest)))

end

end Layout

/-! ## The two printers -/

mutual

theorem value_tight (level : Nat) : (v : Json) → Layout.tight.value level v = value v
  | .null => rfl
  | .boolean true => rfl
  | .boolean false => rfl
  | .number _ => rfl
  | .string _ => rfl
  | .array [] => rfl
  | .array (first :: rest) => by
    rw [Layout.value, value, value_tight (level + 1) first, items_tight level rest]
    rfl
  | .object [] => rfl
  | .object ((key, first) :: rest) => by
    rw [Layout.value, value, value_tight (level + 1) first, members_tight level rest,
      List.append_assoc (text key)]
    rfl

theorem items_tight (level : Nat) : (is : List Json) → Layout.tight.items level is = items is
  | [] => rfl
  | item :: rest => by
    rw [Layout.items, items, value_tight (level + 1) item, items_tight level rest]
    rfl

theorem members_tight (level : Nat) : (ms : Members) → Layout.tight.members level ms = members ms
  | [] => rfl
  | (key, item) :: rest => by
    rw [Layout.members, members, value_tight (level + 1) item, members_tight level rest,
      List.append_assoc (text key)]
    rfl

end

mutual

theorem value_lined (level : Nat) : (v : Json) → Layout.lined.value level v = valueAt level v
  | .null => rfl
  | .boolean true => rfl
  | .boolean false => rfl
  | .number _ => rfl
  | .string _ => rfl
  | .array [] => rfl
  | .array (first :: rest) => by
    rw [Layout.value, valueAt, value_lined (level + 1) first, items_lined level rest,
      List.append_assoc]
    rfl
  | .object [] => rfl
  | .object ((key, first) :: rest) => by
    rw [Layout.value, valueAt, value_lined (level + 1) first, members_lined level rest,
      List.append_assoc (text key), List.append_assoc (line (level + 1))]
    rfl

theorem items_lined (level : Nat) : (is : List Json) →
    Layout.lined.items level is = itemsAt level is
  | [] => rfl
  | item :: rest => by
    rw [Layout.items, itemsAt, value_lined (level + 1) item, items_lined level rest,
      List.append_assoc]
    rfl

theorem members_lined (level : Nat) : (ms : Members) →
    Layout.lined.members level ms = membersAt level ms
  | [] => rfl
  | (key, item) :: rest => by
    rw [Layout.members, membersAt, value_lined (level + 1) item, members_lined level rest,
      List.append_assoc (text key), List.append_assoc (line (level + 1))]
    rfl

end

end Printer

end Json

end GatewayDesk
