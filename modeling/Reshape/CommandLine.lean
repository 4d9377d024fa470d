import Reshape.Pipeline

/-!
# Command line

The arguments of the program, and what it does with them: it reads a document from a file or from
its input, carries out the operations and writes the result.

Options may stand anywhere among the operations, each at most once. The value of an option follows
it, or is attached to it, with an equals sign after a long name. A value that follows must not look
like an option. Whatever comes after `--` is an operation.
-/

namespace Reshape

/-- The arguments of the program. -/
structure Invocation where
  /-- The file with the document, if it is not to be read from the input. -/
  file : Option String := none
  pretty : Bool := false
  policy : Option NonFinite := none
  operations : List String := []

namespace Invocation

/-! ## Arguments -/

/-- How an argument is understood. -/
inductive Argument where
  /-- A long option and what is attached to its name. -/
  | long (name : List Char) (value : Option (List Char))
  /-- A short option and what is attached to its letter. -/
  | short (letter : Char) (rest : List Char)
  /-- The end of the options. -/
  | endOfOptions
  | operation

/-- Splits an argument. A single dash is no option. -/
def Argument.ofText (text : String) : Argument :=
  match text.toList with
  | ['-', '-'] => .endOfOptions
  | '-' :: '-' :: rest =>
    match rest.dropWhile (· != '=') with
    | [] => .long rest none
    | _ :: value => .long (rest.takeWhile (· != '=')) (some value)
  | '-' :: letter :: rest => .short letter rest
  | _ => .operation

/-- Whether the argument can be the value of the option before it. -/
def standsAlone (text : String) : Bool :=
  match Argument.ofText text with
  | .operation => true
  | _ => false

/-- Names the file, unless that has been done or the name is empty. -/
def setFile (name : String) (i : Invocation) : Option Invocation :=
  if i.file.isNone && name ≠ "" then some { i with file := some name } else none

/-- Sets the policy by its name, unless that has been done. -/
def setPolicy (name : String) (i : Invocation) : Option Invocation :=
  if i.policy.isSome then none
  else if name = "null" then some { i with policy := some .storeNull }
  else if name = "reject" then some { i with policy := some .reject }
  else none

/-- Sets the form of the result, unless that has been done. -/
def setPretty (i : Invocation) : Option Invocation :=
  if i.pretty then none else some { i with pretty := true }

/-- Adds operations after those that there are. -/
def addOperations (texts : List String) (i : Invocation) : Invocation :=
  { i with operations := i.operations ++ texts }

/-- The option that takes a value, if the name is that of one. -/
def setter? (name : List Char) : Option (String → Invocation → Option Invocation) :=
  if name = "input".toList then some setFile
  else if name = "non-finite".toList then some setPolicy
  else none

/-- Reads arguments on top of what is known. An option of its own takes up one argument or two. -/
def readArguments (i : Invocation) : List String → Option Invocation
  | [] => some i
  | text :: rest =>
    let withNext (set : String → Invocation → Option Invocation) : Option Invocation :=
      match rest with
      | value :: rest => if standsAlone value then do readArguments (← set value i) rest else none
      | [] => none
    match Argument.ofText text with
    | .endOfOptions => some (i.addOperations rest)
    | .operation => readArguments (i.addOperations [text]) rest
    | .short letter attached =>
      if letter ≠ 'i' then none
      else
        match attached with
        | [] => withNext setFile
        | '=' :: value => do readArguments (← i.setFile (String.ofList value)) rest
        | value => do readArguments (← i.setFile (String.ofList value)) rest
    | .long name attached =>
      if name = "pretty".toList then
        if attached.isSome then none else do readArguments (← i.setPretty) rest
      else do
        let set ← setter? name
        match attached with
        | some value => readArguments (← set (String.ofList value) i) rest
        | none => withNext set

/-- Understands the arguments of the program. There must be an operation. -/
def ofArguments? (arguments : List String) : Option Invocation := do
  let i ← readArguments {} arguments
  if i.operations.isEmpty then none else some i

/-! ## Running -/

/-- How the program ends. -/
structure Ending where
  status : Nat
  output : String := ""
  error : Option String := none

/-- The result to be written. The document is read first, then all operations, then they run. -/
def result (i : Invocation) (input : Source) (files : String → Except OpenFailure Source) :
    Except Pipeline.Error String := do
  let source ←
    match i.file with
    | none => .ok input
    | some name => (files name).mapError (.unopened name)
  let start ← Pipeline.ofSource source
  let last ← (start.withPolicy (i.policy.getD .storeNull)).applyAll i.operations
  return last.output i.pretty

/-- Runs the program with the given arguments, input and files. -/
def run (arguments : List String) (input : Source) (files : String → Except OpenFailure Source) :
    Ending :=
  match ofArguments? arguments with
  | none => { status := 2 }
  | some i =>
    match i.result input files with
    | .ok output => { status := 0, output }
    | .error e => { status := 1, error := some ("Error: " ++ e.message) }

end Invocation

end Reshape
