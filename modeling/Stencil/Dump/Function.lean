import Stencil.Dump.Basic
import Stencil.Function.Basic

/-!
Dumps of values and functions.
-/

namespace Stencil

namespace Value

mutual

def dump : Value → Dump
  | null => .leaf "Null"
  | boolean b => .tuple "Boolean" [.ofBool b]
  | integer n => .tuple "Integer" [.leaf (.ofList (Decimal.write n.toInt))]
  | float x => .tuple "Float" [.leaf (Decimal.floatDump x)]
  | text s => .tuple "Text" [.quoted s]
  | dateTime m => .tuple "DateTime" [.leaf (.ofList m.isoExact)]
  | sequence items => .tuple "Sequence" [.list (dumpItems items)]
  | mapping entries => .tuple "Mapping" [.entries (dumpEntries entries)]
  | record name fields =>
    .tuple "Record"
      [.fields "Record" [("name", .quoted name), ("fields", .list (dumpFields fields))] false]

def dumpItems : List Value → List Dump
  | [] => []
  | v :: vs => dump v :: dumpItems vs

def dumpEntries : List (String × Value) → List (String × Dump)
  | [] => []
  | (key, v) :: es => ((Dump.quoted key).line, dump v) :: dumpEntries es

def dumpFields : List (String × Value) → List Dump
  | [] => []
  | (name, v) :: fs => .tuple "" [.quoted name, dump v] :: dumpFields fs

end

end Value

def Parameter.dump (p : Parameter) : Dump :=
  .fields "ParameterDefinition"
    [("name", .quoted p.name), ("description", .quoted p.description),
      ("kind", .leaf p.kind.name), ("default", .option Value.dump p.default?)] false

def Function.dump (f : Function) : Dump :=
  .fields "Function"
    [("name", .quoted f.name), ("parameters", .list (f.parameters.map Parameter.dump))] true

end Stencil
