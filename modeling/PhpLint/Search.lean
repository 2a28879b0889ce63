import PhpLint.Config.Basic
import PhpLint.Files.Walk
import PhpLint.Log

namespace PhpLint

/-!
# Searching the files to check

They are those below the root of the configuration whose names end with its
extension and that are not ignored.

Only files with the right extension are looked up in the list of ignored files. If
that fails, the search ends there.
-/

/-- Where and why a search failed. -/
structure SearchFailure where
  path : Bytes
  failure : IgnoreFailure
deriving DecidableEq

/-- The files found, and what the search has to log, also when it fails. -/
structure SearchResult where
  files : List Bytes := []
  entries : List LogEntry := []
  failure? : Option SearchFailure := none

namespace SearchResult

def withFile (path : Bytes) (later : SearchResult) : SearchResult :=
  { later with files := path :: later.files }

def withEntry (entry : LogEntry) (later : SearchResult) : SearchResult :=
  { later with entries := entry :: later.entries }

end SearchResult

def skippedEntry (path : Bytes) (error : FileError) : LogEntry where
  level := .debug
  message := utf8 "skip a path"
  fields := [(utf8 "path", .text path), (utf8 "error", .text error.message)]

def ignoredEntry (path : Bytes) : LogEntry where
  level := .debug
  message := utf8 "ignore a file"
  fields := [(utf8 "path", .text path)]

namespace Config

/-- Whether the name of the file at a path ends with the extension. -/
def hasExtension (config : Config) (path : Bytes) : Bool :=
  config.extension.isSuffixOf (Location.ofPath path).base

/-- Goes through the visits of a walk. -/
def select (config : Config) : List Visit → SearchResult
  | [] => {}
  | .unreachable path error :: rest => (select config rest).withEntry (skippedEntry path error)
  | .directory _ :: rest => select config rest
  | .file path :: rest =>
    if config.hasExtension path then
      match config.isIgnored path with
      | .error failure => { failure? := some ⟨path, failure⟩ }
      | .ok true => (select config rest).withEntry (ignoredEntry path)
      | .ok false => (select config rest).withFile path
    else
      select config rest

/-- Searches the files of a view. -/
def search (config : Config) (files : Files) : SearchResult :=
  config.select (files.walk config.root)

end Config
end PhpLint
