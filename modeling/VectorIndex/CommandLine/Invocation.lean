/-!
# Arguments of the program

The program is given the path of a request and, if wanted, the path of a settings file.
The option may stand anywhere; when it is repeated, the last one counts.
-/

set_option autoImplicit false

namespace VectorIndex

/-- What the program was asked to do. -/
structure Invocation where
  /-- The path of the request. -/
  request : String
  /-- The path of the settings file. -/
  settings : Option String := none
  deriving DecidableEq, Repr

namespace Invocation

/-- How the program is to be called. -/
def usage : String := "usage: remote-index-builder <request.json> [--config <config.toml>]"

/-- Reads arguments, given what those before them said.  A refusal is a text for whoever called. -/
def read (request settings : Option String) : List String → Except String Invocation
  | [] =>
    match request with
    | some request => .ok { request, settings }
    | none => .error usage
  | "--config" :: [] => .error "--config needs a path"
  | "--config" :: path :: rest => read request (some path) rest
  | arg :: rest =>
    if arg = "-h" ∨ arg = "--help" then .error usage
    else if request.isNone then read (some arg) settings rest
    else .error ("unexpected argument '" ++ arg ++ "'\n" ++ usage)

/-- Reads the arguments of the program. -/
def ofArguments (args : List String) : Except String Invocation :=
  read none none args

end Invocation

end VectorIndex
