import ApiDiscovery.Generate

/-!
# Reports

What the commands print.  Names and verbs may be coloured; a failure shows what
was being done and then its causes, numbered if there are several.
-/

namespace ApiDiscovery.CommandLine

inductive Notice where
  | text (content : String)
  | event (event : Event)

structure Report where
  code : Nat
  out : String := ""
  err : List Notice := []
  requests : List Request := []

def Report.errText (report : Report) : String :=
  String.join (report.err.map fun
    | .text content => content
    | .event _ => "")

/-- The events that are shown: all of them, or the warnings. -/
def shown (verbose : Bool) (events : List Event) : List Notice :=
  (events.filter fun event => verbose || event.level == .warning).map .event

/-! ## Colours -/

inductive Style where
  | cyan
  | yellow
  | dimmed
  | bold
  | green
  | greenBold

def Style.codes : Style → List Char
  | .cyan => ['3', '6']
  | .yellow => ['3', '3']
  | .dimmed => ['2']
  | .bold => ['1']
  | .green => ['3', '2']
  | .greenBold => ['1', ';', '3', '2']

def reset : List Char := ['\x1b', '[', '0', 'm']

/-- A text with a style taken up again behind every end of styles inside it. -/
def resume (opening : List Char) : List Char → List Char
  | [] => []
  | '\x1b' :: '[' :: '0' :: 'm' :: rest => reset ++ opening ++ resume opening rest
  | c :: rest => c :: resume opening rest

def paint (colours : Bool) (style : Style) (text : String) : String :=
  if colours then
    let opening := ['\x1b', '['] ++ style.codes ++ ['m']
    String.ofList (opening ++ resume opening text.toList ++ reset)
  else text

/-! ## Trees and lists -/

def margin (depth : Nat) : String := String.ofList (List.replicate (2 * depth) ' ')

def methodLine (colours : Bool) (depth : Nat) (name : String) (method : ApiMethod) : String :=
  margin depth ++ "• " ++ paint colours .cyan name ++ " " ++ paint colours .yellow method.verb ++
    " " ++ paint colours .dimmed method.path ++ "\n"

mutual

def treeLines (colours : Bool) (depth : Nat) : ResourceTree ApiMethod → String
  | .node methods resources =>
      String.join (methods.map fun (name, method) => methodLine colours depth name method) ++
        resourceLines colours depth resources

def resourceLines (colours : Bool) (depth : Nat) : List (String × ResourceTree ApiMethod) → String
  | [] => ""
  | (name, tree) :: rest =>
      margin depth ++ paint colours .bold name ++ "\n" ++ treeLines colours (depth + 1) tree ++
        resourceLines colours depth rest

end

def treeReport (colours : Bool) : Generated → String
  | .api tree => treeLines colours 0 tree
  | .directory apis =>
      String.join (apis.map fun (name, tree) =>
        paint colours .greenBold name ++ "\n" ++ treeLines colours 1 tree)

def listReport (colours : Bool) (apis : NameTable (ResourceTree ApiMethod)) : String :=
  "\n" ++ paint colours .green "✓" ++ " " ++ paint colours .bold (toString apis.length) ++
    " APIs\n" ++
    String.join (apis.map fun (name, tree) =>
      "  • " ++ paint colours .cyan name ++ " (" ++ toString tree.methodCount ++ " methods)\n")

/-! ## Failures -/

/-- A text with its further lines set in. -/
def setIn (blanks : Nat) (text : String) : String :=
  String.ofList
    (Text.joinWith ('\n' :: List.replicate blanks ' ') (Text.splitAll '\n' text.toList))

def numbered (first : Nat) : List String → String
  | [] => ""
  | cause :: rest =>
      let digits := Nat.toDigits 10 first
      String.ofList (List.replicate (5 - digits.length) ' ' ++ digits) ++ ": " ++
        setIn 7 cause ++ "\n" ++ numbered (first + 1) rest

def failureText (failed : String) (causes : List String) : String :=
  "Error: " ++ failed ++ "\n" ++
    match causes with
    | [] => ""
    | [cause] => "\nCaused by:\n    " ++ setIn 4 cause ++ "\n"
    | causes => "\nCaused by:\n" ++ numbered 0 causes

end ApiDiscovery.CommandLine
