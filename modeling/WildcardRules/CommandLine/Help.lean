import WildcardRules.Text

set_option autoImplicit false

namespace WildcardRules.CommandLine

inductive Topic where
  | program
  | help
  | config
  | configShow
  | configValidate
  | configHelp
deriving DecidableEq

structure Listing where
  title : Text
  entries : List (Text × Text)

structure Page where
  about : Text
  usage : Text
  listings : List Listing

namespace Listing

def width (l : Listing) : Nat := (l.entries.map fun entry => entry.1.length).foldl max 0

def toText (l : Listing) : Text :=
  l.title ++ ":\n".toList ++ l.entries.flatMap fun entry =>
    "  ".toList ++ entry.1 ++ List.replicate (l.width - entry.1.length + 2) ' ' ++ entry.2 ++ ['\n']

end Listing

def Page.toText (p : Page) : Text :=
  p.about ++ "\n\nUsage: ".toList ++ p.usage ++ ['\n']
    ++ p.listings.flatMap fun l => '\n' :: l.toText

def listing (title : String) (entries : List (String × String)) : Listing :=
  ⟨title.toList, entries.map fun entry => (entry.1.toList, entry.2.toList)⟩

namespace Topic

def about : Topic → String
  | program => "Rewrite values with declarative wildcard rules like 'foo-*:bar-*'"
  | help | configHelp => "Print this message or the help of the given subcommand(s)"
  | config => "Configuration management commands"
  | configShow => "Display every rule set in a config file with its compiled rules"
  | configValidate => "Check a config file for errors without rewriting anything"

def usage : Topic → String
  | program => "replacer [OPTIONS] [VALUES]... [COMMAND]"
  | help => "replacer help [COMMAND]..."
  | config => "replacer config [OPTIONS] <COMMAND>"
  | configShow => "replacer config show [OPTIONS] <FILE>"
  | configValidate => "replacer config validate [OPTIONS] <FILE>"
  | configHelp => "replacer config help [COMMAND]..."

def sharedOptions : List (String × String) :=
  [("-v, --verbose...", "Increase log verbosity (-v, -vv, -vvv)"), ("-h, --help", "Print help")]

def programOptions : List (String × String) :=
  [("-r, --rule <RULE>",
      "Rule to apply, `source` or `source:target` (repeatable, first match wins)"),
    ("-c, --config <FILE>", "TOML file declaring named rule sets"),
    ("-n, --name <NAME>", "Name of the rule set to use from --config"),
    ("    --optional", "Pass unmatched values through instead of failing")]

def fileListings : List Listing :=
  [listing "Arguments" [("<FILE>", "Config file to read")], listing "Options" sharedOptions]

def listings : Topic → List Listing
  | program =>
      [listing "Commands" [("config", about config), ("help", about help)],
        listing "Arguments"
          [("[VALUES]...", "Values to rewrite; read from stdin, one per line, when omitted")],
        listing "Options"
          (programOptions ++ sharedOptions ++ [("-V, --version", "Print version")])]
  | config =>
      [listing "Commands"
          [("show", about configShow), ("validate", about configValidate), ("help", about help)],
        listing "Options" sharedOptions]
  | help | configHelp =>
      [listing "Arguments" [("[COMMAND]...", "Print help for the subcommand(s)")]]
  | configShow => fileListings
  | configValidate => fileListings

def page (t : Topic) : Page := ⟨t.about.toList, t.usage.toList, t.listings⟩

def next? : Topic → Text → Option Topic
  | program, word =>
      if word = "config".toList then some config
      else if word = "help".toList then some help
      else none
  | config, word =>
      if word = "show".toList then some configShow
      else if word = "validate".toList then some configValidate
      else if word = "help".toList then some configHelp
      else none
  | _, _ => none

def follow? (t : Topic) (words : List Text) : Option Topic := words.foldlM next? t

end Topic

end WildcardRules.CommandLine
