/-!
# The configuration for new users

It holds every setting with its standard value, and says what each one is for.
-/

namespace LiteralAudit.Template

def lines : List String := [
  "# exhaustruct configuration",
  "#",
  "# Type patterns are regular expressions matched against the full type name,",
  "# \"<package path>.<TypeName>\". A pattern must match the entire name.",
  "",
  "# Only check these types (empty: check every struct type).",
  "include: []",
  "#  - 'example\\.com/project/.*'",
  "",
  "# Never check these types.",
  "exclude: []",
  "#  - '.*\\.Options'",
  "#  - '.*\\.<anonymous>'",
  "",
  "# Allow empty literals (T\x7b\x7d) of every type.",
  "allow_empty: false",
  "",
  "# Allow empty literals of types matching these patterns.",
  "allow_empty_include: []",
  "",
  "# Allow empty literals returned from functions, e.g. `return T\x7b\x7d`.",
  "allow_empty_returns: false",
  "",
  "# Allow empty literals in declarations: `x := T\x7b\x7d` and `var x = T\x7b\x7d`.",
  "allow_empty_declarations: false",
  "",
  "# Honor //exhaustruct:ignore and //exhaustruct:enforce comments.",
  "directives: true",
  "",
  "# Source files whose literals are never reported (glob patterns).",
  "excluded_files: []",
  "#  - '**/*_gen.go'"]

def text : String :=
  String.join (lines.map (· ++ "\n"))

end LiteralAudit.Template
