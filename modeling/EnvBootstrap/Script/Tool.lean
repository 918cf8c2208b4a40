import EnvBootstrap.Script.Copy
import EnvBootstrap.Script.Format

/-!
# Tools

Programs that start no others, by what they write.
-/

namespace EnvBootstrap.Script.Call

/-- The end of a program that has something to write to standard output.  If that is not possible,
the program says so. -/
def ended (call : Call) (status : UInt8) (world : World) (text : List Char) : Finish :=
  if text = [] then { status := .code status, world }
  else match world.write (call.descriptors.lookup 1) text with
    | .done world => { status := .code status, world }
    | result => call.unwritten world result

def echo (call : Call) : Finish := call.ended 0 call.world (echoedByProgram call.arguments)

/-- With what a format comes to written.  A complaint stands behind all that is written in front of
it. -/
def printed (call : Call) (status : UInt8) :
    World → List Char → List Piece → Finish
  | world, written, [] => call.ended status world written
  | world, written, .text text :: rest => printed call status world (written ++ text) rest
  | world, written, .lost :: rest => printed call status world written rest
  | world, written, .complaint complaint :: rest =>
    let told (world : World) : World :=
      call.complained world (complaint.message .printfProgram)
    if written = [] then printed call status (told world) [] rest
    else match world.write (call.descriptors.lookup 1) written with
      | .done world => printed call status (told world) [] rest
      | .refused => printed call status (told world) written rest
      | result => call.unwritten world result

def printf (call : Call) : Finish :=
  let arguments := if call.arguments.head? = some ['-', '-'] then call.arguments.drop 1
    else call.arguments
  match arguments with
  | [] =>
    let world := call.complained call.world "missing operand".toList
    let hint := "Try '".toList ++ call.name ++ " --help' for more information.\n".toList
    { status := .code 1, world := call.told world hint }
  | format :: arguments =>
    let found := Script.printed .printfProgram format arguments
    let isCut := found.ending = some .cut && !found.pieces.any Piece.isLost
    let isFine := isCut || found.complaints.all Complaint.isHarmless
    call.printed (if isFine then 0 else 1) call.world [] found.pieces

end EnvBootstrap.Script.Call
