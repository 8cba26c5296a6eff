import LineLimit.Json.Structure
import LineLimit.Rule.Check
/-!
Options and settings of the rule as JSON. Options that are not given keep their usual values; a member of
another name is refused.
-/

namespace LineLimit

open Json (Reading Shape)

namespace Options

def toJson (o : Options) : Json :=
  .obj [("ignore_code_blocks", .bool o.ignoreCodeBlocks),
    ("ignore_link_punctuation", .bool o.ignoreLinkPunctuation), ("ignore_links", .bool o.ignoreLinks),
    ("ignore_tables", .bool o.ignoreTables), ("line_length", .int o.lineLength.toNat)]

def memberNames : List String :=
  ["line_length", "ignore_code_blocks", "ignore_tables", "ignore_links", "ignore_link_punctuation"]

def shape : Shape Options where
  name := "LineLengthOptions"
  members := memberNames
  needed := 0
  visit
    | "line_length", v, o => do return { o with lineLength := ← Json.readSize v }
    | "ignore_code_blocks", v, o => do return { o with ignoreCodeBlocks := ← Json.readBool v }
    | "ignore_tables", v, o => do return { o with ignoreTables := ← Json.readBool v }
    | "ignore_links", v, o => do return { o with ignoreLinks := ← Json.readBool v }
    | "ignore_link_punctuation", v, o => do return { o with ignoreLinkPunctuation := ← Json.readBool v }
    | name, _, _ => .error (.unknownMember name memberNames)

def ofJson (v : Json) : Reading Options := shape.read {} v

end Options

def Settings.toJson (s : Settings) : Json :=
  .obj [("options", s.options.toJson), ("severity", .str s.severity.name)]

end LineLimit
