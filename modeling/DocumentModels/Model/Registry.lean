/-
Live models by name, in the order in which they were registered.
-/
import DocumentModels.Model.Collection

namespace DocumentModels

/-- the registered models; `timestamps` is handed to each new one -/
structure Registry where
  timestamps : Bool := true
  models : List Collection := []

namespace Registry

def find? (registry : Registry) (name : String) : Option Collection := registry.models.find? (·.name == name)

/-- names of the models, in order of registration -/
def names (registry : Registry) : List String := registry.models.map Collection.name

/-- make the model of an entity and register it under its name, which may not be taken -/
def register (registry : Registry) (entity : String) (schema : Schema) (indexes : List Index) :
    Except ConstructionError (Registry × Collection) := do
  let name := Emit.modelName entity
  if (registry.find? name).isSome then throw .nameTaken
  let model ← Collection.make name entity schema indexes registry.timestamps
  return ({ registry with models := registry.models ++ [model] }, model)

/-- put a new state of a model in place of the one of the same name -/
def replace (registry : Registry) (model : Collection) : Registry :=
  { registry with models := registry.models.map fun old => if old.name = model.name then model else old }

end Registry

end DocumentModels
