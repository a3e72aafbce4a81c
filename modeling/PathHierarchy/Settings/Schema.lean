import PathHierarchy.Json.Value

/-!
# The JSON Schema of stored settings

A draft 2020-12 schema of the settings object: its four properties with their descriptions and
defaults, and the definitions of the three choices. A delimiter is one of three names or an
object holding one custom character; an ordering and an empty-path policy are one of their
names.
-/

set_option autoImplicit false

namespace PathHierarchy.Settings

open Json

/-- A string value. -/
private def str (s : String) : Value := .string s

/-- A choice stored as a constant name, with what it means. -/
private def constChoice (description name : String) : Value :=
  .object [("description", str description), ("type", str "string"), ("const", str name)]

/-- A property that refers to a definition. -/
private def refProperty (description definition default : String) : Value :=
  .object [("description", str description), ("$ref", str ("#/$defs/" ++ definition)),
    ("default", str default)]

/-- The schema of stored settings. -/
def schema : Value :=
  .object [
    ("$schema", str "https://json-schema.org/draft/2020-12/schema"),
    ("title", str "BuilderConfig"),
    ("description", str "Builder configuration, stored as JSON"),
    ("type", str "object"),
    ("properties", .object [
      ("delimiter", refProperty "Delimiter used to split paths (\"auto\" detects it per entry)"
        "DelimiterSetting" "auto"),
      ("ordering", refProperty "Child ordering: \"insertion_order\" or \"sorted\""
        "OrderingPolicy" "insertion_order"),
      ("empty_paths", refProperty "Handling of raw paths that contain only delimiters"
        "EmptyPathPolicy" "skip"),
      ("selectable", .object [("description", str "Emit `selectable: true` on every node"),
        ("type", str "boolean"), ("default", .bool false)])]),
    ("$defs", .object [
      ("DelimiterSetting", .object [
        ("description", str "Delimiter choice as written in the config file"),
        ("oneOf", .array [
          .object [("type", str "string"),
            ("enum", .array [str "auto", str "slash", str "dot"])],
          .object [("type", str "object"),
            ("properties", .object [("custom", .object [("type", str "string"),
              ("minLength", .number (.int 1)), ("maxLength", .number (.int 1))])]),
            ("required", .array [str "custom"]),
            ("additionalProperties", .bool false)]])]),
      ("OrderingPolicy", .object [
        ("description", str "How children are ordered under each parent"),
        ("oneOf", .array [
          constChoice "Order in which each prefix was first encountered" "insertion_order",
          constChoice "Lexicographic by node value, applied at every level" "sorted"])]),
      ("EmptyPathPolicy", .object [
        ("description",
          str "What to do with a non-blank raw path that has no segments, such as `\"//\"`"),
        ("oneOf", .array [
          constChoice "Drop the entry" "skip",
          constChoice "Emit a single root node keyed by the whole trimmed string"
            "degenerate_root"])])])]

end PathHierarchy.Settings
