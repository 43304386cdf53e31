namespace ScriptBundle.CommandLine

structure Options where
  entry : Option String := none
  output : Option String := none
  modules : List String := []
  paths : List String := []
  python : Option String := none
  copyShebang : Bool := false
  strict : Bool := false
  config : Option String := none
  verbose : Nat := 0
  deriving DecidableEq, Repr

inductive Request
  | bundle (entry : String) (options : Options)
  | help
  | version
  | misuse
  deriving DecidableEq, Repr

inductive ValueOption
  | output | module | path | python | config
  deriving DecidableEq, Repr

/-- Options without one. -/
inductive Flag
  | copyShebang | strict | verbose | help | version
  deriving DecidableEq, Repr

inductive KnownOption
  | valued (option : ValueOption)
  | flag (flag : Flag)
  deriving DecidableEq, Repr

def longOption? (name : String) : Option KnownOption :=
  match name with
  | "output" => some (.valued .output)
  | "add-python-module" => some (.valued .module)
  | "add-python-path" => some (.valued .path)
  | "python-binary" => some (.valued .python)
  | "config" => some (.valued .config)
  | "copy-shebang" => some (.flag .copyShebang)
  | "strict" => some (.flag .strict)
  | "verbose" => some (.flag .verbose)
  | "help" => some (.flag .help)
  | "version" => some (.flag .version)
  | _ => none

def shortOption? (letter : Char) : Option KnownOption :=
  match letter with
  | 'o' => some (.valued .output)
  | 'v' => some (.flag .verbose)
  | 'h' => some (.flag .help)
  | 'V' => some (.flag .version)
  | _ => none

namespace Options

/-- Set what may be set once. -/
def once (old : Option String) (value : String) : Option (Option String) :=
  if old.isSome then none else some (some value)

/-- Options with the value of one more. Paths are not empty. -/
def setValue (o : Options) (option : ValueOption) (value : String) : Option Options :=
  match option with
  | .module => some { o with modules := o.modules ++ [value] }
  | .path => if value = "" then none else some { o with paths := o.paths ++ [value] }
  | .output =>
    if value = "" then none else (once o.output value).map fun v => { o with output := v }
  | .python =>
    if value = "" then none else (once o.python value).map fun v => { o with python := v }
  | .config =>
    if value = "" then none else (once o.config value).map fun v => { o with config := v }

def setEntry (o : Options) (value : String) : Option Options :=
  if value = "" then none else (once o.entry value).map fun v => { o with entry := v }

/-- Options with one more flag, or the request that it is. -/
def setFlag (o : Options) (flag : Flag) : Except Request Options :=
  match flag with
  | .help => .error .help
  | .version => .error .version
  | .verbose => .ok { o with verbose := o.verbose + 1 }
  | .copyShebang => if o.copyShebang then .error .misuse else .ok { o with copyShebang := true }
  | .strict => if o.strict then .error .misuse else .ok { o with strict := true }

/-- The options so far, with one that waits for its value. -/
structure Reading where
  options : Options := {}
  waiting : Option ValueOption := none
  /-- Everything that follows is an entry. -/
  entriesOnly : Bool := false

def orMisuse (o : Option Options) : Except Request Options :=
  match o with
  | some o => .ok o
  | none => .error .misuse

/-- Read letters behind a dash. A letter with a value takes the rest, which may follow a sign. -/
def letters (r : Reading) : List Char → Except Request Reading
  | [] => .ok r
  | letter :: rest =>
    match shortOption? letter with
    | none => .error .misuse
    | some (.flag flag) => do letters { r with options := ← r.options.setFlag flag } rest
    | some (.valued option) =>
      match rest with
      | [] => .ok { r with waiting := some option }
      | '=' :: value => do
        return { r with options := ← orMisuse (r.options.setValue option (String.ofList value)) }
      | value => do
        return { r with options := ← orMisuse (r.options.setValue option (String.ofList value)) }

/-- Read an option by its long name, with a value behind a sign or none. -/
def long (r : Reading) (text : List Char) : Except Request Reading :=
  let name := text.takeWhile (· ≠ '=')
  let value := text.drop name.length
  match longOption? (String.ofList name) with
  | none => .error .misuse
  | some (.flag flag) => do
    if value.isEmpty then return { r with options := ← r.options.setFlag flag }
    else throw .misuse
  | some (.valued option) => do
    if value.isEmpty then return { r with waiting := some option }
    else
      let text := String.ofList (value.drop 1)
      return { r with options := ← orMisuse (r.options.setValue option text) }

def plain (r : Reading) (argument : String) : Except Request Reading :=
  match r.waiting with
  | some option => do
    return { r with options := ← orMisuse (r.options.setValue option argument), waiting := none }
  | none => do return { r with options := ← orMisuse (r.options.setEntry argument) }

/-- Read an argument. An option that waits for a value takes no argument that looks like one. -/
def argument (r : Reading) (text : String) : Except Request Reading :=
  if r.entriesOnly then if r.waiting.isSome then .error .misuse else plain r text
  else
    match text.toList with
    | ['-', '-'] => .ok { r with entriesOnly := true }
    | '-' :: '-' :: rest => if r.waiting.isSome then .error .misuse else long r rest
    | '-' :: c :: rest => if r.waiting.isSome then .error .misuse else letters r (c :: rest)
    | _ => plain r text

def request (r : Reading) : Request :=
  match r.waiting, r.options.entry with
  | none, some entry => .bundle entry r.options
  | _, _ => .misuse

def parse (arguments : List String) : Request :=
  match arguments.foldlM argument {} with
  | .ok r => request r
  | .error q => q

end Options

def helpLines : List String := [
  "Bundle a Python script and its local imports into a single executable script",
  "",
  "Usage: plait [OPTIONS] <ENTRY>",
  "",
  "Arguments:",
  "  <ENTRY>  Entry script to bundle",
  "",
  "Options:",
  "  -o, --output <FILE>             Output file; the bundle goes to stdout when omitted",
  "      --add-python-module <NAME>  "
    ++ "Embed a module even if no static import reaches it (dotted name)",
  "      --add-python-path <DIR>     Extra directory to search for modules",
  "      --python-binary <PATH>      "
    ++ "Interpreter whose default sys.path is searched after the extra paths",
  "      --copy-shebang              Reuse the entry script's shebang line",
  "      --strict                    "
    ++ "Fail on imports that cannot be resolved instead of leaving them out",
  "      --config <FILE>             Configuration file to use instead of ./plait.toml",
  "  -v, --verbose...                "
    ++ "Increase log verbosity (-v info, -vv debug, -vvv trace)",
  "  -h, --help                      Print help",
  "  -V, --version                   Print version"]

def helpText : String := String.join (helpLines.map (· ++ "\n"))

def versionText : String := "plait 0.3.0\n"

end ScriptBundle.CommandLine
