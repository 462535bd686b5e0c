import GatewayDesk.Log.Event

/-!
# Which events are told

A filter is a list of rules. A rule speaks of the events of those parts of the program whose names
start with a text, or of all events, and maybe only of those with a certain field; it says how grave
they have to be. Of the rules that speak of an event the most special one decides; an event of which
no rule speaks is not told.
-/

namespace GatewayDesk

namespace Log

/-- A rule: the least grave level that is told for some events. -/
structure Rule where
  /-- The text at the start of the names of parts; none if the parts do not matter. -/
  source : Option String
  /-- The field that the events have; none if the fields do not matter. -/
  field : Option String
  /-- The level, or none if nothing is told. -/
  level : Option Level
  deriving DecidableEq, Repr

namespace Rule

/-- Whether a rule speaks of an event. -/
def covers (rule : Rule) (event : Event) : Bool :=
  rule.source.all (fun s => s.toList.isPrefixOf event.source.toList) &&
    rule.field.all event.hasField

/-- Whether a rule lets an event through. -/
def passes (rule : Rule) (event : Event) : Bool :=
  rule.level.any fun level => event.level.rank ≤ level.rank

/-- How special a rule is about parts of the program: the longer the text, the more. -/
def reach (rule : Rule) : Nat := rule.source.elim 0 fun s => s.utf8ByteSize + 1

/-- Whether a rule is at least as special about fields as another: one field is more than none, and
of two fields the later in the alphabet. -/
def isAsNarrow (rule other : Rule) : Bool :=
  match other.field, rule.field with
  | none, _ => true
  | some _, none => false
  | some a, some b => !(b < a)

/-- The one of two rules that decides: the more special one, and of equals the later. -/
def closer (earlier : Option Rule) (later : Rule) : Option Rule :=
  match earlier with
  | none => some later
  | some rule =>
    if rule.reach < later.reach then some later
    else if rule.reach = later.reach && later.isAsNarrow rule then some later
    else some rule

end Rule

/-- A list of rules. -/
abbrev Filter := List Rule

namespace Filter

/-- The filter that tells all events of a level and graver ones. -/
def always (level : Level) : Filter := [⟨none, none, some level⟩]

/-- The rule that decides about an event. -/
def deciding? (filter : Filter) (event : Event) : Option Rule :=
  (filter.filter (·.covers event)).foldl Rule.closer none

/-- Whether an event is told. -/
def allows (filter : Filter) (event : Event) : Bool :=
  (filter.deciding? event).any (·.passes event)

end Filter

end Log

end GatewayDesk
