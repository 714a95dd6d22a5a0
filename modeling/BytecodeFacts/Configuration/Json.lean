import BytecodeFacts.Configuration
import BytecodeFacts.Json
import BytecodeFacts.Plan

/-!
# Configurations and plans as JSON

A configuration is written as an object of its twelve fields, with the members of enumerations by
name. The report of a run adds the fields of its plan.
-/

namespace BytecodeFacts

def Settings.json (settings : Settings) : Field → Json
  | .mode => .text (Enumeration.name settings.mode)
  | .mainClass => (settings.mainClass.map Json.text).getD .null
  | .flag f => .bool (settings.flags.get f)
  | .targetKind => .text (Enumeration.name settings.targetKind)
  | .inputs => .texts settings.inputs
  | .dependencies => .texts settings.dependencies
  | .outputDir => .text settings.outputDir

def Configuration.json (config : Configuration) : Json :=
  .object (Field.all.map fun field => (field.name, config.settings.json field))

def Configuration.report (config : Configuration) : Json :=
  .object
    [("config", config.json),
      ("stages", .texts config.plan.stageNames),
      ("classpath", .texts config.plan.classpath),
      ("entry_points", .texts config.plan.entryPoints),
      ("sink", .text config.plan.sink),
      ("on_staticness_mismatch", .text config.plan.onStaticnessMismatch)]

end BytecodeFacts
