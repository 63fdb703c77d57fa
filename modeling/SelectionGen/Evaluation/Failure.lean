import SelectionGen.Evaluation.Inheritance

/-! Making what can be raised. Arguments are kept as they are given; some types take arguments of certain kinds,
know more about what happened, and say it in their own words. -/
namespace SelectionGen.Evaluation

open Target

/-- The types of errors of the system by their numbers. -/
def systemErrorTypes : List (Nat × String) :=
  [(1, "PermissionError"), (2, "FileNotFoundError"), (3, "ProcessLookupError"), (4, "InterruptedError"),
    (10, "ChildProcessError"), (11, "BlockingIOError"), (13, "PermissionError"), (17, "FileExistsError"),
    (20, "NotADirectoryError"), (21, "IsADirectoryError"), (32, "BrokenPipeError"),
    (103, "ConnectionAbortedError"), (104, "ConnectionResetError"), (108, "BrokenPipeError"),
    (110, "TimeoutError"), (111, "ConnectionRefusedError"), (114, "BlockingIOError"),
    (115, "BlockingIOError")]

/-- What types take by name. -/
def failureNames (typeName : String) : List String :=
  if BuiltinType.isKindOf typeName "ImportError" then ["name", "path"]
  else if BuiltinType.isKindOf typeName "NameError" then ["name"]
  else if BuiltinType.isKindOf typeName "AttributeError" then ["name", "obj"]
  else []

/-- Where a syntax error is, as far as it is known. -/
def placeText (details : List (String × Value)) : Evaluated String := do
  match details.lookup "filename", details.lookup "lineno" with
  | some (.text fileName), some (.whole line) =>
    let shown := ((Text.pieces '/' fileName).getLast?).getD fileName
    return " (" ++ shown ++ ", line " ++ toString line ++ ")"
  | some (.text fileName), _ =>
    return " (" ++ ((Text.pieces '/' fileName).getLast?).getD fileName ++ ")"
  | _, some (.whole line) => return " (line " ++ toString line ++ ")"
  | _, _ => return ""

/-- What a syntax error knows. -/
def syntaxDetails (arguments : List Value) : Evaluated (List (String × Value)) := do
  match arguments with
  | [message, place] =>
    let elements ← elementsOf place
    let names := ["filename", "lineno", "offset", "text", "end_lineno", "end_offset"]
    if elements.length < 4 then
      refuse ("function takes at least 4 arguments (" ++ toString elements.length ++ " given)")
    let details := ("msg", message) :: names.zip elements
    let shown ← textOf message
    return details ++ [("shown", .text (shown ++ (← placeText details)))]
  | message :: _ =>
    return [("msg", message), ("shown", .text (← textOf message))]
  | [] => return [("shown", .text "None")]

/-- What an error of the system knows, with the arguments that are kept. -/
def systemDetails (arguments : List Value) : List (String × Value) × List Value :=
  match arguments with
  | [number, reason] => ([("errno", number), ("strerror", reason), ("filename", .nothing)], arguments)
  | number :: reason :: fileName :: rest =>
    if 2 < rest.length then ([], arguments)
    else ([("errno", number), ("strerror", reason), ("filename", fileName)], [number, reason])
  | _ => ([], arguments)

/-- What an error of encoding or decoding knows. -/
def encodingDetails (typeName : String) (arguments : List Value) : Evaluated (List (String × Value)) := do
  let wanted := if typeName = "UnicodeTranslateError" then 4 else 5
  if arguments.length ≠ wanted then
    refuse ("function takes exactly " ++ toString wanted ++ " arguments (" ++ toString arguments.length
      ++ " given)")
  match typeName, arguments with
  | "UnicodeDecodeError", [encoding, found, .whole start, .whole stop, reason] =>
    let bytes ← bytesOf? found
    let shown ← match bytes with
      | some bytes =>
        if stop = start + 1 then
          pure ("byte 0x" ++ String.ofList (Text.Quoted.hexDigits 2 ((bytes[start.toNat]?).getD 0).toNat)
            ++ " in position " ++ toString start)
        else pure ("bytes in position " ++ toString start ++ "-" ++ toString (stop - 1))
      | none => giveUp
    return [("encoding", encoding), ("object", found), ("start", .whole start), ("end", .whole stop),
      ("reason", reason),
      ("shown", .text ("'" ++ (← textOf encoding) ++ "' codec can't decode " ++ shown ++ ": "
        ++ (← textOf reason)))]
  | _, _ => giveUp

/-- Makes something of a type that derives from the given built-in one. -/
def newFailure (type : Value) (typeName : String) (given : Given) : Evaluated Value := do
  let allowed := failureNames typeName
  let shownName ← nameOfType type
  given.named.forM fun (name, _) => do
    if allowed.isEmpty then refuse (shownName ++ "() takes no keyword arguments")
    if !allowed.contains name then
      refuse ("'" ++ name ++ "' is an invalid keyword argument for " ++ typeName ++ "()")
  let arguments := given.arguments
  if BuiltinType.isKindOf typeName "OSError" then
    let (details, kept) := systemDetails arguments
    let special? := match type, details.lookup "errno" with
      | .type "OSError", some (.whole number) => systemErrorTypes.lookup number.toNat
      | _, _ => none
    allocateThing ((special?.map Value.type).getD type) (.tuple kept) details
  else if BuiltinType.isKindOf typeName "SyntaxError" then
    allocateThing type (.tuple arguments) (← syntaxDetails arguments)
  else if ["UnicodeDecodeError", "UnicodeEncodeError", "UnicodeTranslateError"].contains typeName then
    allocateThing type (.tuple arguments) (← encodingDetails typeName arguments)
  else if BuiltinType.isKindOf typeName "BaseExceptionGroup" then giveUp
  else
    let msg := if BuiltinType.isKindOf typeName "ImportError" then
        match arguments with
        | [message] => [("msg", message)]
        | _ => []
      else []
    allocateThing type (.tuple arguments) (given.named ++ msg)

end SelectionGen.Evaluation
