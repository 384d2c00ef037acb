import ZigDecl.Rename
import ZigDecl.Text.Block
import ZigDecl.Zig.Literal

/-! # The text of Zig declarations

Every piece of a generated file as text with a line feed after each line. A declaration starts with
its description as doc comments; records and enumerations end with the blocks that map renamed
members back to their external names. -/

namespace ZigDecl.Zig.Layout

/-- The header comment, which shows how to read a value of the first top-level. -/
def header (topLevel : String) : String :=
  "// Example code showing how to deserialize a model using \"getty-zig/json\".\n" ++
  "//\n" ++
  "// const std = @import(\"std\");\n" ++
  "// const json = @import(\"json\");\n" ++
  "//\n" ++
  "// pub fn main() anyerror!void \x7b\n" ++
  "//    const json_string = \"...\";\n" ++
  "//    const model = try json.fromSlice(null, " ++ topLevel ++ ", json_string);\n" ++
  "//    std.debug.print(\"\x7bany\x7d\\n\", .\x7bmodel\x7d);\n" ++
  "// \x7d\n"

def leadingComments (lines : List String) : String :=
  String.join (lines.map fun line => Text.comment "//" line ++ "\n")

/-- What every file starts with after its header. -/
def prelude : String := "const std = @import(\"std\");\n"

/-- The import of one declaration from its file. -/
def importLine (name file : String) : String :=
  "const " ++ name ++ " = @import(" ++ stringLiteral file ++ ")." ++ name ++ ";\n"

def imports (items : List (String × String)) : String :=
  String.join (items.map fun (name, file) => importLine name file)

def description (lines : List String) : String :=
  String.join (lines.map fun line => "/// " ++ line ++ "\n")

/-- The declaration of a name for a type. -/
def typeAlias (description leader name type : String) : String :=
  description ++ leader ++ "const " ++ name ++ " = " ++ type ++ ";\n"

/-- The entry that gives a member its external name. -/
def renameEntry (identifier externalName : String) : String :=
  "            ." ++ identifier ++ " = .\x7b .rename = " ++ stringLiteral externalName ++ ", \x7d,\n"

def renameBlock (leader extension : String) (entries : List (String × String)) : String :=
  "\n    " ++ leader ++ "const @\"getty." ++ extension ++ "\" = struct \x7b\n" ++
  "        " ++ leader ++ "const attributes = .\x7b\n" ++
  String.join (entries.map fun (identifier, name) => renameEntry identifier name) ++
  "        \x7d;\n    \x7d;\n"

/-- The blocks of renamed members of a declaration. -/
def renameBlocks (leader : String) (blocks : List (String × List (String × String))) : String :=
  String.join (blocks.map fun (extension, entries) => renameBlock leader extension entries)

/-- A field of a record or an arm of a union. -/
def member (name type : String) : String := "    " ++ name ++ ": " ++ type ++ ",\n"

def field (description name type : String) : String :=
  Text.indent 4 description ++ member name type

def record (description leader name : String) (fields : String) (renames : String) : String :=
  description ++ leader ++ "const " ++ name ++ " = struct \x7b\n" ++ fields ++ renames ++ "\x7d;\n"

def enumeration (description leader name : String) (cases : List String) (renames : String) :
    String :=
  description ++ leader ++ "const " ++ name ++ " = enum \x7b\n" ++
  String.join (cases.map fun case => "    " ++ case ++ ",\n") ++ renames ++ "\x7d;\n"

def union (description leader name : String) (arms : List (String × String)) : String :=
  description ++ leader ++ "const " ++ name ++ " = union(enum) \x7b\n" ++
  String.join (arms.map fun (name, type) => member name type) ++ "\x7d;\n"

/-- The word for a direction in the name of its block. -/
def extension : Rename.Direction → String
  | .deserialize => "db"
  | .serialize => "sb"

end ZigDecl.Zig.Layout
