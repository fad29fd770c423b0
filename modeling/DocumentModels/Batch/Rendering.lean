/-
Everything that follows from one entity: its document model, indexes and module.
-/
import DocumentModels.Batch.Source
import DocumentModels.Digest.Sha256
import DocumentModels.Emit.Module
import DocumentModels.Schema.Translation
import DocumentModels.Settings.Basic

namespace DocumentModels.Batch

open Files

/-- a rendered entity; the module is not written yet -/
structure Rendering where
  entity : String
  translation : Translation
  indexes : List Index
  /-- path of the module -/
  path : String
  /-- text of the module -/
  code : String

namespace Rendering

def modelName (rendering : Rendering) : String := Emit.modelName rendering.entity

def checksum (rendering : Rendering) : String := Digest.checksum rendering.code

def ofEntity (settings : Settings) (entity : Entity) : Rendering :=
  let translation := entity.translate
  let indexes := Index.infer translation.schema settings.textFields
  { entity := entity.name, translation, indexes
    path := settings.outputPath entity.name
    code := Emit.moduleText entity.name translation.schema.fields indexes settings.timestamps }

def ofName (files : FileTree) (settings : Settings) (entity : String) : Except Failure Rendering := do
  let path := settings.inputPath entity
  if files.isFile path then return ofEntity settings (← loadFile files entity path)
  else throw (.entityNotFound entity)

end Rendering

end DocumentModels.Batch
