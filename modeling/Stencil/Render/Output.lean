import Stencil.Render.Blocks

/-!
The output of a template.
-/

namespace Stencil.Template

/-- The output of a template for a model, with these flags set. With the debug flag a report follows
after a blank line, which says how many microseconds the rendering took. -/
def renderWith (t : Template) (flags : List Flag) (functions : Registry) (library : Library)
    (model : Value) (micros : Nat) : Except Render.Fault String :=
  let start : Progress := ⟨.initial model flags, ""⟩
  let (result, s) := (Rendering.blocksAt functions library 0 t.source t.blocks).run.run start
  result.map fun _ =>
    if flags.contains .debug then s.output ++ "\n\n" ++ s.context.debugInfo micros else s.output

/-- The output of a template for a model, with the flags that the template sets. -/
def render (t : Template) (functions : Registry) (library : Library) (model : Value)
    (micros : Nat) : Except Render.Fault String :=
  t.renderWith t.flags functions library model micros

end Stencil.Template
