import Stencil.Decimal.Shortest
import Stencil.Dump.Basic
import Stencil.Template.Block

/-!
Dumps of templates.
-/

namespace Stencil

def Span.dump (s : Span) : Dump := .leaf s!"{s.start}..{s.stop}"

def Flag.dump : Flag → Dump
  | debug => .leaf "DebugMode"

def Literal.dump : Literal → Dump
  | null => .leaf "Null"
  | boolean b => .tuple "Boolean" [.ofBool b]
  | integer n => .tuple "Integer" [.leaf (.ofList (Decimal.write n.toInt))]
  | float x => .tuple "Float" [.leaf (Decimal.floatDump x)]
  | text s => .tuple "Text" [.quoted s]

def Root.dump : Root → Dump
  | scope => .leaf "Scope"
  | model => .leaf "Model"

def Path.dump (p : Path) : Dump :=
  .fields "BindingPath"
    [("root", p.root.dump), ("segments", .list (p.segments.map .quoted))] false

def Operator.dump : Operator → Dump
  | and => .leaf "LogicalAnd"
  | or => .leaf "LogicalOr"
  | equal => .leaf "Equality"
  | notEqual => .leaf "Inequality"
  | greater => .leaf "GreaterThan"
  | less => .leaf "LessThan"
  | greaterEqual => .leaf "GreaterThanOrEqual"
  | lessEqual => .leaf "LessThanOrEqual"

namespace Expression

mutual

def dump : Expression → Dump
  | literal l => .tuple "Literal" [l.dump]
  | path p => .tuple "Path" [p.dump]
  | call name arguments =>
    .fields "FunctionCall" [("name", .quoted name), ("arguments", .list (dumps arguments))] false
  | not operand =>
    .fields "UnaryOperation" [("operator", .leaf "LogicalNot"), ("operand", dump operand)] false
  | binary operator left right =>
    .fields "BinaryOperation"
      [("operator", operator.dump), ("left", dump left), ("right", dump right)] false

def dumps : List Expression → List Dump
  | [] => []
  | e :: es => dump e :: dumps es

end

end Expression

mutual

def Block.dump : Block → Dump
  | .mk signature span content =>
    .fields "Block"
      [("signature", .quoted signature), ("span", span.dump), ("kind", content.dump)] false

def Content.dump : Content → Dump
  | .literal => .leaf "Literal"
  | .comment text => .fields "Comment" [("text", .quoted text)] false
  | .directive flag => .fields "Directive" [("flag", flag.dump)] false
  | .inclusion name => .fields "Partial" [("name", .quoted name)] false
  | .binding value => .fields "ModelBinding" [("expression", value.dump)] false
  | .call name arguments =>
    .fields "FunctionCall"
      [("name", .quoted name), ("arguments", .list (arguments.map Expression.dump))] false
  | .declaration name value =>
    .fields "VariableDeclaration" [("name", .quoted name), ("value", value.dump)] false
  | .reassignment name value =>
    .fields "VariableReassignment" [("name", .quoted name), ("value", value.dump)] false
  | .conditional branches otherwise =>
    .fields "Conditional"
      [("branches", .list (dumpBranches branches)), ("default", dumpPart? otherwise)] false
  | .iteration item index collection body empty =>
    .fields "Iteration"
      [("variable", .quoted item), ("index", .option .quoted index),
        ("collection", collection.dump), ("body", body.dump), ("empty", dumpPart? empty)] false

def Branch.dump : Branch → Dump
  | .mk condition part =>
    .fields "ConditionalBranch" [("condition", condition.dump), ("section", part.dump)] false

def Part.dump : Part → Dump
  | .mk body children span =>
    .fields "Section"
      [("body", .quoted body), ("children", .list (dumpBlocks children)), ("span", span.dump)] false

def dumpPart? : Option Part → Dump
  | none => .leaf "None"
  | some p => .tuple "Some" [p.dump]

def dumpBranches : List Branch → List Dump
  | [] => []
  | b :: bs => b.dump :: dumpBranches bs

def dumpBlocks : List Block → List Dump
  | [] => []
  | b :: bs => b.dump :: dumpBlocks bs

end

def Template.dump (t : Template) : Dump :=
  .fields "Template"
    [("blocks", .list (t.blocks.map Block.dump)), ("flags", .list (t.flags.map Flag.dump)),
      ("source_id", .ofNat t.source)] false

end Stencil
