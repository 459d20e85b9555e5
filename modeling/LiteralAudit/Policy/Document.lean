import LiteralAudit.Json.Decode
import LiteralAudit.Policy.Configuration

/-!
# Configurations in JSON documents
-/

namespace LiteralAudit.Configuration

open Json

def texts : Decoder (List String) := Decoder.list Decoder.string

def shape : Shape Configuration where
  name := "Config"
  blank := standard
  fields := [
    .defaulted "include" texts fun configuration includes => { configuration with includes },
    .defaulted "exclude" texts fun configuration excludes => { configuration with excludes },
    .defaulted "allow_empty" Decoder.boolean fun configuration allowEmpty =>
      { configuration with allowEmpty },
    .defaulted "allow_empty_include" texts fun configuration allowEmptyIncludes =>
      { configuration with allowEmptyIncludes },
    .defaulted "allow_empty_returns" Decoder.boolean fun configuration allowEmptyReturns =>
      { configuration with allowEmptyReturns },
    .defaulted "allow_empty_declarations" Decoder.boolean
      fun configuration allowEmptyDeclarations => { configuration with allowEmptyDeclarations },
    .defaulted "directives" Decoder.boolean fun configuration directives =>
      { configuration with directives },
    .defaulted "excluded_files" texts fun configuration excludedFiles =>
      { configuration with excludedFiles }]

def textList (values : List String) : Json :=
  .list (values.map Json.text)

def toJson (configuration : Configuration) : Json :=
  .object [("include", textList configuration.includes),
    ("exclude", textList configuration.excludes),
    ("allow_empty", .bool configuration.allowEmpty),
    ("allow_empty_include", textList configuration.allowEmptyIncludes),
    ("allow_empty_returns", .bool configuration.allowEmptyReturns),
    ("allow_empty_declarations", .bool configuration.allowEmptyDeclarations),
    ("directives", .bool configuration.directives),
    ("excluded_files", textList configuration.excludedFiles)]

end LiteralAudit.Configuration
