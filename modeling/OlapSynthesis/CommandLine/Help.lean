namespace OlapSynthesis.CommandLine

inductive Topic
  | program
  | generate
  | inspect
  | schema
  | help
deriving DecidableEq, Repr

inductive Detail
  | brief
  | full
deriving DecidableEq, Repr

structure HelpEntry where
  label : String
  text : String
  /-- The value that counts if none is given. -/
  default : Option String
  /-- The possible values, each with what it means. -/
  choices : List (String × String)

structure HelpPage where
  text : String
  usage : String
  commands : List (String × String)
  operands : List HelpEntry
  options : List HelpEntry

def pageWidth : Nat :=
  100

def padded (width : Nat) (text : String) : String :=
  text.pushn ' ' (width - text.length)

def widest (texts : List String) : Nat :=
  (texts.map String.length).foldl max 0

/-- Where the text of an entry stands that does not stand beside its label. -/
def paragraphIndent : String :=
  "          "

namespace HelpEntry

def defaultNote (entry : HelpEntry) : List String :=
  entry.default.toList.map fun value => "[default: " ++ value ++ "]"

/-- The entry on one line, without its label. -/
def brief (entry : HelpEntry) : String :=
  let choices := match entry.choices with
    | [] => []
    | choices => ["[possible values: " ++ String.intercalate ", " (choices.map Prod.fst) ++ "]"]
  String.intercalate " " (entry.text :: entry.defaultNote ++ choices)

/-- The entry on lines of its own, below its label. -/
def full (entry : HelpEntry) : String :=
  let notes := String.intercalate ("\n" ++ paragraphIndent ++ "\n" ++ paragraphIndent)
    (entry.text :: entry.defaultNote)
  let width := widest (entry.choices.map Prod.fst)
  let choices := entry.choices.map fun (name, meaning) =>
    "\n" ++ paragraphIndent ++ "- " ++ padded (width + 2) (name ++ ":") ++ meaning
  paragraphIndent ++ notes ++
    if choices.isEmpty then ""
    else "\n\n" ++ paragraphIndent ++ "Possible values:" ++ String.join choices

/-- Whether the text finds no room beside labels that are so wide. -/
def isCramped (width : Nat) (entry : HelpEntry) : Bool :=
  let taken := width + 12
  pageWidth * 2 < taken * 5 && pageWidth < taken + entry.brief.length

end HelpEntry

def layEntries (detail : Detail) (entries : List HelpEntry) : String :=
  let width := widest (entries.map HelpEntry.label)
  match detail with
  | .full =>
    String.intercalate "\n\n" (entries.map fun entry => "  " ++ entry.label ++ "\n" ++ entry.full)
  | .brief =>
    let line := if entries.any (HelpEntry.isCramped width) then
        fun entry : HelpEntry => entry.label ++ "\n" ++ paragraphIndent ++ entry.brief
      else fun entry => padded (width + 2) entry.label ++ entry.brief
    String.intercalate "\n" (entries.map fun entry => "  " ++ line entry)

/-- A part of a page under its title; an empty part is left out. -/
def titled (title : String) (entries : List HelpEntry) (detail : Detail) : List String :=
  if entries.isEmpty then [] else [title ++ ":\n" ++ layEntries detail entries]

namespace HelpPage

/-- The page as a text. Commands are always told on a line each. -/
def write (page : HelpPage) (detail : Detail) : String :=
  let commands := page.commands.map fun (name, text) => ⟨name, text, none, []⟩
  String.intercalate "\n\n"
    ([page.text, "Usage: " ++ page.usage] ++ titled "Commands" commands .brief ++
      titled "Arguments" page.operands detail ++ titled "Options" page.options detail) ++ "\n"

end HelpPage

namespace Topic

def name? : Topic → Option String
  | .program => none
  | .generate => some "generate"
  | .inspect => some "inspect"
  | .schema => some "schema"
  | .help => some "help"

def commands : List Topic :=
  [.generate, .inspect, .schema, .help]

def ofName? (name : String) : Option Topic :=
  commands.find? (·.name? == some name)

def text : Topic → String
  | .program => "AutoCube - OLAP schema synthesis from discovered data sources"
  | .generate => "Discover every configured source and print the generated model"
  | .inspect => "Synthesize one store from an inline column list"
  | .schema => "Print the JSON Schema of a produced type"
  | .help => "Print this message or the help of the given subcommand(s)"

def usage : Topic → String
  | .program => "autocube [OPTIONS] <COMMAND>"
  | .generate => "autocube generate [OPTIONS]"
  | .inspect => "autocube inspect [OPTIONS] --store <STORE> --column <COLUMNS>"
  | .schema => "autocube schema [OPTIONS] [NAME]"
  | .help => "autocube help [COMMAND]..."

end Topic

namespace HelpEntry

def plain (label text : String) : HelpEntry :=
  ⟨label, text, none, []⟩

def format : HelpEntry :=
  ⟨"-f, --format <FORMAT>", "Output format: json, raw", some "json",
    [("json", "Pretty-printed JSON"), ("raw", "Single-line JSON")]⟩

def quiet : HelpEntry :=
  plain "-q, --quiet" "Quiet mode (errors only)"

def verbose : HelpEntry :=
  plain "-v, --verbose" "Verbose mode (debug logging)"

def config : HelpEntry :=
  plain "    --config <CONFIG>" "Extra configuration file, layered above ./autocube.toml"

/-- The entry of help itself points to the other way to tell it. -/
def aboutHelp : Detail → HelpEntry
  | .brief => plain "-h, --help" "Print help (see more with '--help')"
  | .full => plain "-h, --help" "Print help (see a summary with '-h')"

end HelpEntry

open HelpEntry

/-- The options of a page. Those that all commands share stand among those of the command. -/
def Topic.options (detail : Detail) : Topic → List HelpEntry
  | .program =>
    [format, quiet, verbose, config, aboutHelp detail, plain "-V, --version" "Print version"]
  | .generate =>
    [format, plain "-o, --output <OUTPUT>" "Write the model to this file instead of stdout", quiet,
      verbose, config, aboutHelp detail]
  | .inspect =>
    [format, plain "-s, --store <STORE>" "Store name",
      plain "-c, --column <COLUMNS>" "Column as `name:type`, repeatable, in declaration order",
      quiet, plain "    --partition-field <PARTITION_FIELD>" "Partition field override", verbose,
      plain "    --cache-size <CACHE_SIZE>" "Query-result cache size", config,
      ⟨"    --aggregate-mode <AGGREGATE_MODE>", "JUST_IN_TIME or BITMAP", some "JUST_IN_TIME", []⟩,
      plain "    --parallelism <PARALLELISM>"
        "Available-parallelism hint (defaults to the number of cores)",
      aboutHelp detail]
  | .schema =>
    [format, plain "    --list" "List registered schema names", quiet, verbose, config,
      aboutHelp detail]
  | .help => []

def Topic.operands : Topic → List HelpEntry
  | .schema => [plain "[NAME]" "Registered schema name"]
  | .help => [plain "[COMMAND]..." "Print help for the subcommand(s)"]
  | _ => []

/-- The page on a topic. About help itself there is no more to tell than its brief page. -/
def Topic.describe (topic : Topic) (detail : Detail) : String :=
  let commands := match topic with
    | .program => Topic.commands.filterMap fun command => command.name?.map (·, command.text)
    | _ => []
  let page : HelpPage :=
    ⟨topic.text, topic.usage, commands, topic.operands, topic.options detail⟩
  page.write (if topic = .help then .brief else detail)

end OlapSynthesis.CommandLine
