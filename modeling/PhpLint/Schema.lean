import PhpLint.Files.Disk
import PhpLint.Json

namespace PhpLint

/-!
# The JSON schema of configuration files

The schema is written to a file of its own.
-/

namespace Schema

/-- A text with a description. -/
def described (kind description : String) : Json :=
  .object [
    (utf8 "type", .text (utf8 kind)),
    (utf8 "description", .text (utf8 description))]

/-- An object that has no other than the given members. -/
def closedObject (members : List (Bytes × Json)) (required : List Bytes) : Json :=
  let requirement : List (Bytes × Json) :=
    if required.isEmpty then [] else [(utf8 "required", .array (required.map .text))]
  .object ([
    (utf8 "properties", .object members),
    (utf8 "additionalProperties", .boolean false),
    (utf8 "type", .text (utf8 "object"))] ++ requirement)

def configSchema : Json :=
  closedObject [
    (utf8 "root", described "string"
      "A directory searched recursively when no file is passed. The default is app"),
    (utf8 "extension", described "string"
      "A file name suffix of target files. The default is .php"),
    (utf8 "ignore_files", .object [
      (utf8 "items", .object [(utf8 "$ref", .text (utf8 "#/$defs/IgnoreFile"))]),
      (utf8 "type", .text (utf8 "array")),
      (utf8 "description", .text (utf8 (
        "Files excluded from the directory search. " ++
        "If files are passed via positional command line arguments")))])] []

def patternSchema : Json :=
  closedObject [
    (utf8 "pattern", described "string"
      "A pattern matched against a slash separated file path"),
    (utf8 "pattern_format", .object [
      (utf8 "type", .text (utf8 "string")),
      (utf8 "enum", .array (["fixed_string", "glob", "regexp"].map fun name =>
        .text (utf8 name)))])]
    [utf8 "pattern", utf8 "pattern_format"]

def schema : Json :=
  .object [
    (utf8 "$schema", .text (utf8 "https://json-schema.org/draft/2020-12/schema")),
    (utf8 "$id", .text (utf8 "https://github.com/phpsanity/phpsanity/pkg/config/config")),
    (utf8 "$ref", .text (utf8 "#/$defs/Config")),
    (utf8 "$defs", .object [
      (utf8 "Config", configSchema),
      (utf8 "IgnoreFile", patternSchema)])]

/-- Where the schema is kept. -/
def path : Bytes :=
  utf8 "json-schema/phpsanity.json"

/-- Writes the schema to its file. -/
def save (disk : Disk) : Except FileError Disk :=
  disk.write path schema.document

/-- What is written about a failure. -/
def failureText (error : FileError) : Bytes :=
  utf8 "write JSON Schema to " ++ path ++ utf8 ": " ++ error.message ++ utf8 "\n"

end Schema
end PhpLint
