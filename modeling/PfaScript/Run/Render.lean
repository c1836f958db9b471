import PfaScript.Json.Printer
import PfaScript.Run.Config
import PfaScript.Yaml.Printer

/-!
# Texts of documents

A document is written as one JSON text or one YAML text, each ending with a line feed. Neither has a
place for integers with too many digits, and the indent of a JSON text has to fit.
-/

namespace PfaScript

/-- Why a document has no text in a format. -/
inductive RenderError where
  /-- There is no such format. -/
  | format (error : ConfigError)
  /-- The document cannot be written. -/
  | write (error : Json.WriteError)
deriving DecidableEq, Repr

namespace Document

/-- The text of a document. The indent counts for JSON only. -/
def render (format : Format) (style : Json.Style) (document : Entries String Json) :
    Except Json.WriteError String :=
  match format with
  | .json => (Json.obj document).page style
  | .yaml =>
    if (Json.obj document).hasLong then .error .longInteger
    else .ok (Yaml.render (if style.sortKeys then Json.sortEntries document else document))

/-- The text of a document in the format with the given name. -/
def renderNamed (format : String) (style : Json.Style) (document : Entries String Json) :
    Except RenderError String :=
  match Format.ofName? format with
  | some format => (render format style document).mapError .write
  | none => .error (.format (.unsupportedFormat format))

end Document

/-- How JSON is laid out under these options. -/
def OutputOptions.style (options : OutputOptions) : Json.Style :=
  { indent := options.indent, sortKeys := options.sortKeys }

end PfaScript
