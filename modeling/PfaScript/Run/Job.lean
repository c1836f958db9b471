import PfaScript.Compile.Document
import PfaScript.Run.Render
import PfaScript.Run.Session
import PfaScript.Yaml.Reader

/-!
# Jobs

What a run can do with files: read its configuration, compile a script, write the document of a
script, and take the location markers out of a document. Hooks are told when a script has been
compiled or not, and when a document has been written.
-/

namespace PfaScript

/-- The outcome of compiling a script. -/
structure Report where
  source : Path
  document : Entries String Json
  withLocations : Bool
deriving Repr

/-- Where a document was written, and in which format. -/
structure Exported where
  path : Path
  format : Format
deriving DecidableEq, Repr

namespace Report

/-- The fields of the document, in order. -/
def fields (report : Report) : List String :=
  report.document.keys

/-- One line about a report. No time is taken. -/
def summary (report : Report) : String :=
  s!"source={report.source.name} fields={report.fields.length} duration=0.0ms"

/-- What hooks are told of a report. -/
def payload (report : Report) : Entries Key Setting :=
  [(.str "source", .str report.source.toText),
    (.str "fields", .list (report.fields.map .str)),
    (.str "with_locations", .bool report.withLocations)]

end Report

/-- What hooks are told of a fault. -/
def Fault.payload (source : Path) (fault : Fault) : Entries Key Setting :=
  [(.str "source", .str source.toText),
    (.str "kind", .str fault.cause.kind.name),
    (.str "message", .str fault.cause.message),
    (.str "location", fault.location.elim .null .str)]

/-- What hooks are told of a written document. -/
def Exported.payload (exported : Exported) : Entries Key Setting :=
  [(.str "path", .str exported.path.toText), (.str "format", .str exported.format.name)]

namespace Run

/-- The entries that a configuration file with this text gives; an empty file has none. -/
def entriesOf (path : Path) (text : String) : Except Failure (Entries Key Setting) :=
  match Yaml.read text with
  | .error .malformed => .error (.notYaml path)
  | .error problem => .error (.scalar problem)
  | .ok .null => .ok []
  | .ok (.map entries) => .ok entries
  | .ok _ => .error .configRoot

/-- The script that a file with this text holds. -/
def scriptOf (path : Path) (text : String) : Except Failure Program :=
  match Json.read? text with
  | .error error =>
    if error.isFormal then .error (.fault ⟨.malformed (.invalidJson path.toText error), none⟩)
    else .error (.notJson error)
  | .ok tree =>
    match Program.load tree with
    | .ok program => .ok program
    | .error (.malformed cause) => .error (.fault ⟨.malformed cause, none⟩)
    | .error .infinitePosition => .error .infinitePosition

end Run

/-! ### What files give -/

namespace Disk

/-- The entries of a configuration file; there are none without a file. -/
def entries (disk : Disk) : Option Path → Except Failure (Entries Key Setting)
  | none => .ok []
  | some path => do Run.entriesOf path (← disk.text .configuration path)

/-- The configuration that a file gives, if there is one, with overrides laid over it. -/
def config (disk : Disk) (path : Option Path) (overrides : Setting) : Except Failure Config := do
  let config ← (Config.ofEntries (← disk.entries path)).mapError .config
  (config.override overrides).mapError .config

/-- The script in a file. -/
def script (disk : Disk) (path : Path) : Except Failure Program := do
  Run.scriptOf path (← disk.text .script path)

/-- The value in a JSON file without its location markers. -/
def stripped (disk : Disk) (path : Path) : Except Failure Json := do
  let value ← (Json.read? (← disk.text .document path)).mapError .notJson
  return value.strip

end Disk

namespace Run

/-! ### Compiling -/

/-- The document of a script; every compiled field is logged. -/
def compileScript (program : Program) (withLocations : Bool) : Run (Entries String Json) := do
  program.fieldsCompiled.forM fun key =>
    record .debug "pfajs.translator" s!"field {key} translated"
  let document ← ofExcept .fault (program.document withLocations)
  let names := ", ".intercalate document.keys
  record .info "pfajs.translator" s!"translated {document.length} fields: {names}"
  return document

/-- Compiles the script in a file. Hooks are told of the report or of the fault. -/
def compileFile (behaviour : Hook.Behaviour) (config : Config) (path : Path) : Run Report := do
  let document ← tryCatch
    (do compileScript (← ask (·.script path)) config.withLocations)
    (fun failure => do
      if let .fault fault := failure then
        record .warning "pfajs.runner" s!"translation of {path.toText} failed: {fault.text}"
        notify behaviour "translator.run.failed" (fault.payload path)
      throw failure)
  let report : Report := { source := path, document, withLocations := config.withLocations }
  record .info "pfajs.runner" s!"translated {report.summary}"
  notify behaviour "translator.run.completed" report.payload
  return report

/-! ### Writing -/

/-- Where a document goes. A directory, or a path without ending, gets a file that is named after
the script and the format. -/
def exportPath (disk : Disk) (source : Path) (format : Format) (destination : Path) :
    Except DiskError Path := do
  if (← disk.isDirectory destination) || destination.suffix.isEmpty then
    return destination.child s!"{source.stem}.{format.name}"
  else return destination

/-- Writes the document of a report. -/
def exportReport (behaviour : Hook.Behaviour) (options : OutputOptions) (report : Report)
    (destination : Path) : Run Exported := do
  let path ← ask fun disk =>
    (exportPath disk report.source options.format destination).mapError .disk
  put path ((Document.render options.format options.style report.document).mapError .unwritable)
  let exported : Exported := { path, format := options.format }
  notify behaviour "translator.document.exported" exported.payload
  return exported

end Run

end PfaScript
