import JsonQuery.Json.Reader
import JsonQuery.Json.Writer
import JsonQuery.Query.Change
import JsonQuery.Query.Compile

/-! # The command line

`[--paths] [--delete] [--first] QUERY [JSON]`: run a query on a document and print what it selects,
or what is left of the document without it. Options may stand anywhere before `--`. The document is
read before the query.
-/

namespace JsonQuery.CommandLine

/-- The options and arguments of a call. -/
structure Call where
  paths : Bool
  delete : Bool
  first : Bool
  arguments : List String
  deriving DecidableEq, Repr

def Call.none : Call := ⟨false, false, false, []⟩

def Call.argument (call : Call) (argument : String) : Call :=
  { call with arguments := call.arguments ++ [argument] }

/-- What a call leads to: the exit code and the two output texts. -/
structure Result where
  code : Nat
  output : String
  errors : String
  deriving DecidableEq, Repr

/-- Read arguments from left to right. An option may be given once, and what looks like an option
    but is none is refused. -/
def Call.read? (call : Call) : List String → Option Call
  | [] => some call
  | "--" :: rest => some { call with arguments := call.arguments ++ rest }
  | argument :: rest =>
      match argument with
      | "--paths" => if call.paths then Option.none else read? { call with paths := true } rest
      | "--delete" => if call.delete then Option.none else read? { call with delete := true } rest
      | "--first" => if call.first then Option.none else read? { call with first := true } rest
      | argument =>
          if argument.startsWith "-" && argument != "-" then Option.none
          else read? (call.argument argument) rest

/-- Deleting shows the document, so it goes with neither of the options on how matches are shown. -/
def Call.isConsistent (call : Call) : Bool :=
  !(call.delete && (call.paths || call.first)) &&
    (call.arguments.length == 1 || call.arguments.length == 2)

/-- How many containers of a document may be nested. -/
def depthLimit : Nat := 127

/-- A match with its path. -/
def located (node : Node) : Json :=
  .object [("path", .string node.path), ("value", node.value)]

/-- At most the first of some matches. -/
def Call.shown (call : Call) (nodes : List Node) : List Node :=
  if call.first then nodes.take 1 else nodes

def Call.answer (call : Call) (query : Query) (document : Json) : Json :=
  if call.delete then (query.delete document).2
  else
    let nodes := call.shown (query.run document)
    .array (if call.paths then nodes.map located else nodes.map Node.value)

/-- The result of a call that cannot be understood. -/
def misused : Result := ⟨2, "", ""⟩

/-- The result of a call that cannot be carried out. -/
def failed (message : String) : Result := ⟨1, "", message⟩

def Call.perform (call : Call) (query document : String) : Result :=
  match Json.parse? depthLimit document with
  | Option.none => failed "Invalid JSON"
  | some document =>
      match Query.compile query with
      | .error diagnostic => failed (diagnostic.text ++ "\n")
      | .ok query => ⟨0, (call.answer query document).pretty ++ "\n", ""⟩

def understood? (arguments : List String) : Option Call :=
  (Call.none.read? arguments).filter Call.isConsistent

def readsInput (arguments : List String) : Bool :=
  (understood? arguments).any (·.arguments.length == 1)

/-- The result of the command with the given arguments and standard input. -/
def run (arguments : List String) (input : String) : Result :=
  match understood? arguments with
  | Option.none => misused
  | some call =>
      match call.arguments with
      | [query] => call.perform query input
      | [query, document] => call.perform query document
      | _ => misused

end JsonQuery.CommandLine
