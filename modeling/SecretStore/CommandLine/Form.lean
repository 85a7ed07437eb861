import SecretStore.Text

/-!
What may stand on the command line: the options and operands of the program
and of each of its commands, with the text that explains them.
-/

namespace SecretStore.CommandLine

inductive Switch
  | help
  | config
  | verbose
  | label
  | description
  | noSync
deriving DecidableEq, Repr

namespace Switch

def names : Switch → List String
  | .help => ["-h", "--help"]
  | .config => ["--config"]
  | .verbose => ["-v", "--verbose"]
  | .label => ["--label"]
  | .description => ["--description"]
  | .noSync => ["--no-sync"]

def takesText : Switch → Bool
  | .config | .label | .description => true
  | .help | .verbose | .noSync => false

end Switch

structure Form where
  program : String
  usage : String
  explanation : String
  switches : List Switch
  operands : List String
  takesCommand : Bool := false
deriving Repr

def Form.names (f : Form) : List (Text × Switch) :=
  f.switches.flatMap fun s => s.names.map fun name => (Text.ofString name, s)

def Form.find? (f : Form) (name : Text) : Option Switch :=
  f.names.lookup name

inductive Action
  | get
  | metadata
  | set
  | remove
  | list
deriving DecidableEq, Repr

namespace Action

def all : List Action := [.get, .metadata, .set, .remove, .list]

def name : Action → String
  | .get => "get"
  | .metadata => "meta"
  | .set => "set"
  | .remove => "rm"
  | .list => "ls"

def ofName? (name : Text) : Option Action :=
  all.find? fun a => a.name == name

private def helpAlone : String :=
  "options:\n  -h, --help  show this help message and exit\n"

private def keyAndHelp : String :=
  "positional arguments:\n  key\n\n" ++ helpAlone

def keyForm (name : String) : Form :=
  { program := "sealed_keyring " ++ name
    usage := "usage: sealed_keyring " ++ name ++ " [-h] key\n"
    explanation := keyAndHelp
    switches := [.help]
    operands := ["key"] }

def setForm : Form :=
  { program := "sealed_keyring set"
    usage := "usage: sealed_keyring set [-h] [--label LABEL] [--description DESCRIPTION]\n" ++
      "                          [--no-sync]\n" ++
      "                          key value\n"
    explanation := "positional arguments:\n" ++
      "  key\n" ++
      "  value\n\n" ++
      "options:\n" ++
      "  -h, --help            show this help message and exit\n" ++
      "  --label LABEL\n" ++
      "  --description DESCRIPTION\n" ++
      "  --no-sync             Keep this item out of cross-device sync\n"
    switches := [.help, .label, .description, .noSync]
    operands := ["key", "value"] }

def listForm : Form :=
  { program := "sealed_keyring ls"
    usage := "usage: sealed_keyring ls [-h]\n"
    explanation := helpAlone
    switches := [.help]
    operands := [] }

def form : Action → Form
  | .set => setForm
  | .list => listForm
  | a => keyForm a.name

end Action

def Form.whole : Form :=
  { program := "sealed_keyring"
    usage := "usage: sealed_keyring [-h] [--config CONFIG] [-v] \x7bget,meta,set,rm,ls\x7d ...\n"
    explanation := "Access-controlled secret storage\n\n" ++
      "positional arguments:\n" ++
      "  \x7bget,meta,set,rm,ls\x7d\n" ++
      "    get                 Print a secret\n" ++
      "    meta                Print item metadata\n" ++
      "    set                 Create or update a secret\n" ++
      "    rm                  Remove a secret\n" ++
      "    ls                  List keys\n\n" ++
      "options:\n" ++
      "  -h, --help            show this help message and exit\n" ++
      "  --config CONFIG       Path to YAML configuration file\n" ++
      "  -v, --verbose         Enable debug logging\n"
    switches := [.help, .config, .verbose]
    operands := ["command"]
    takesCommand := true }

end SecretStore.CommandLine
