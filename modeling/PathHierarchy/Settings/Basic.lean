import PathHierarchy.Forest.Build
import PathHierarchy.Json.Write

/-!
# Builder settings

The settings a builder is made from, as they are stored: a delimiter choice (`auto` detects it
per path, or slash, dot, or a custom character), the ordering, the policy for raw paths made
only of delimiters, and whether nodes are selectable. Every field has a default.

A custom delimiter may be any character but a blank one. On the command line a delimiter is
written `auto`, `slash` or `/`, `dot` or `.`, or as a single character.

Stored settings are JSON objects with the fields `delimiter`, `ordering`, `empty_paths` and
`selectable`, in that order; a custom delimiter is written `{"custom": c}`.
-/

set_option autoImplicit false

namespace PathHierarchy.Settings

open Forest Json

/-- The delimiter as it is chosen in settings. -/
inductive DelimiterChoice where
  | auto
  | slash
  | dot
  | custom (c : Char)
  deriving Repr, DecidableEq, Inhabited

end PathHierarchy.Settings

namespace PathHierarchy

/-- Builder settings. -/
structure Settings where
  delimiter : Settings.DelimiterChoice := .auto
  ordering : Forest.OrderingPolicy := .insertionOrder
  emptyPaths : Forest.EmptyPathPolicy := .skip
  selectable : Bool := false
  deriving Repr, DecidableEq, Inhabited

end PathHierarchy

namespace PathHierarchy.Settings

open Forest Json

/-- Why settings could not be had. -/
inductive SettingsError where
  /-- The file could not be read or written. -/
  | io (message : String)
  /-- The text is not JSON settings. -/
  | parse (message : String)
  /-- The settings are JSON but break a rule. -/
  | validation (message : String)
  deriving Repr, DecidableEq, Inhabited

/-- The wording of a settings error. -/
def SettingsError.message : SettingsError → String
  | .io m => "IO error: " ++ m
  | .parse m => "Parse error: " ++ m
  | .validation m => "Validation error: " ++ m

namespace DelimiterChoice

/-- The delimiter every path is split on, or `none` to detect it per path. -/
def resolve : DelimiterChoice → Option Delimiter
  | .auto => none
  | .slash => some .slash
  | .dot => some .dot
  | .custom c => some (Delimiter.ofChar c)

/-- Read a delimiter as written on the command line. -/
def parse (s : String) : Except SettingsError DelimiterChoice :=
  if s = "auto" then .ok .auto
  else if s = "slash" ∨ s = "/" then .ok .slash
  else if s = "dot" ∨ s = "." then .ok .dot
  else match s.toList with
    | [c] => .ok (.custom c)
    | _ => .error (.validation
        ("delimiter must be auto, slash, dot or a single character, got " ++ Text.quote s))

/-- The stored form: a name, or an object holding the custom character. -/
def toJson : DelimiterChoice → Value
  | .auto => .string "auto"
  | .slash => .string "slash"
  | .dot => .string "dot"
  | .custom c => .object [("custom", .string c.toString)]

end DelimiterChoice

/-- The stored name of an ordering. -/
def orderingName : OrderingPolicy → String
  | .insertionOrder => "insertion_order"
  | .sorted => "sorted"

/-- The stored name of an empty-path policy. -/
def emptyPathsName : EmptyPathPolicy → String
  | .skip => "skip"
  | .degenerateRoot => "degenerate_root"

/-- How one choice of a setting is stored: by name alone, or by name with a character. -/
inductive Variant (α : Type) where
  | unit (name : String) (value : α)
  | char (name : String) (make : Char → α)

/-- The stored name of a variant. -/
def Variant.name {α : Type} : Variant α → String
  | .unit n _ => n
  | .char n _ => n

/-- The stored choices of a delimiter. -/
def delimiterVariants : List (Variant DelimiterChoice) :=
  [.unit "auto" .auto, .unit "slash" .slash, .unit "dot" .dot, .char "custom" .custom]

/-- The stored choices of an ordering. -/
def orderingVariants : List (Variant OrderingPolicy) :=
  [.unit "insertion_order" .insertionOrder, .unit "sorted" .sorted]

/-- The stored choices of an empty-path policy. -/
def emptyPathsVariants : List (Variant EmptyPathPolicy) :=
  [.unit "skip" .skip, .unit "degenerate_root" .degenerateRoot]

/-- The stored field names, in order. -/
def fieldNames : List String := ["delimiter", "ordering", "empty_paths", "selectable"]

/-- The name under which settings are described when they have the wrong shape. -/
def typeName : String := "struct BuilderConfig"

/-- Refuse a blank custom delimiter. -/
def validate (s : Settings) : Except SettingsError Unit :=
  match s.delimiter with
  | .custom c =>
    if Text.isBlank c then .error (.validation "custom delimiter cannot be whitespace")
    else .ok ()
  | _ => .ok ()

/-- The builder these settings describe. -/
def builder (s : Settings) : Builder :=
  { delimiter := s.delimiter.resolve, ordering := s.ordering, emptyPaths := s.emptyPaths,
    selectable := s.selectable }

/-- The stored form of settings. -/
def toJson (s : Settings) : Value :=
  .object [("delimiter", s.delimiter.toJson), ("ordering", .string (orderingName s.ordering)),
    ("empty_paths", .string (emptyPathsName s.emptyPaths)), ("selectable", .bool s.selectable)]

/-- The text a settings file holds: the stored form, indented. -/
def save (s : Settings) : String := s.toJson.writePretty


end PathHierarchy.Settings
