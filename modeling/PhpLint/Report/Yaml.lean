import PhpLint.Finding
import PhpLint.Report.Scalar

namespace PhpLint
namespace Report

/-!
# The report as YAML

There are the number of checked files, and the findings of every file that has
some.
-/

def yamlFinding (finding : Finding) : Bytes :=
  utf8 "  - rule: " ++ scalar finding.rule.id ++ utf8 "\n" ++
    (if 0 < finding.line then utf8 "    line: " ++ decimal finding.line ++ utf8 "\n" else []) ++
    utf8 "    message: " ++ scalar finding.message ++ utf8 "\n"

def yamlFile (result : FileResult) : Bytes :=
  utf8 "- path: " ++ scalar result.file ++ utf8 "\n  findings:\n" ++
    result.findings.flatMap yamlFinding

def yaml (results : List FileResult) : Bytes :=
  let failed := results.filter fun result => !result.clean
  utf8 "checked: " ++ decimal results.length ++ utf8 "\n" ++
    (if failed.isEmpty then utf8 "files: []\n" else utf8 "files:\n" ++ failed.flatMap yamlFile)

end Report
end PhpLint
