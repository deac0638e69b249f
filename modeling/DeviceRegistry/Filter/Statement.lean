import DeviceRegistry.Filter.Containment
import DeviceRegistry.Filter.Name

/-! Filters as parts of statements for an engine that searches names and documents by itself. What a
filter looks for is handed over beside the statement and is never part of it. -/
namespace DeviceRegistry.Filter

/-- A part of a statement, and the values that its marks stand for. -/
structure Statement where
  text : String
  parameters : List (String × Value)

def NamePart.statement (table : String) (part : NamePart) : Statement where
  text := table ++ ".name ILIKE '%%' || %(name_1)s || '%%' ESCAPE '/'"
  parameters := [("name_1", .text (String.ofList part.escaped))]

def metadataStatement (table : String) (filter : Value) : Statement where
  text := table ++ ".metadata @> %(param_1)s"
  parameters := [("param_1", filter)]

def nameStatement (table : String) (filter : Value) : Except Failure (Option Statement) :=
  (NamePart.ofValue filter).map fun part => part.map (NamePart.statement table)

def containmentStatement (table : String) (filter : Value) : Option Statement :=
  if filter.isBlank then none else some (metadataStatement table filter)

end DeviceRegistry.Filter
