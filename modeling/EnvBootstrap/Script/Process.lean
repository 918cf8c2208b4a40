import EnvBootstrap.Script.Shell
import EnvBootstrap.Script.Tool

/-!
# Running programs

What the programs of a system do.  Commands that run others are bounded by a depth that no finished
script comes near; where it is reached, the process ends as if its stack were full.
-/

namespace EnvBootstrap.Script

open Files (Image)

section

-- How this program itself behaves when another one starts it.
variable (own : Call → Finish)

def perform (runner : Runner) (image : Image) (call : Call) : Finish :=
  let call : Call :=
    { call with
      place := image.place
      name := (image.name.map ofBytes).getD call.name
      arguments := image.front.map ofBytes ++ call.arguments }
  match image.tool with
  | .shell => runner.shell call
  | .echo => call.echo
  | .printf => call.printf
  | .cat => call.cat
  | .succeed => { status := .code 0, world := call.world }
  | .fail => { status := .code 1, world := call.world }
  | .bootstrap => own call

def Runner.within : Nat → Runner
  | 0 =>
    { run := fun _ _ => throw (.replaced (.signal 11))
      start := fun _ call => { status := .signal 11, world := call.world } }
  | depth + 1 =>
    { run := fun position command => (Runner.within depth).step position command
      start := fun image call => perform own (Runner.within depth) image call }

end

end EnvBootstrap.Script
