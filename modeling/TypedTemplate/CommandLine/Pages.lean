/-!
# Pages of the command line

The texts the program shows about itself: how it is called, and the grammar of placeholders.
-/

namespace TypedTemplate.CommandLine

/-- What is shown when the program is started without anything to do. -/
def introPage : List String :=
  ["Textplate - Render text templates with typed placeholders",
   "",
   "USAGE:",
   "    textplate [OPTIONS] [TEMPLATE]...",
   "    echo '<template>' | textplate",
   "",
   "OPTIONS:",
   "    -s, --set NAME=VALUE   Assign an input (repeatable)",
   "    -c, --config FILE      Node configuration (TOML file)",
   "    --group SEP            Group separator (default \".\")",
   "    --decimal SEP          Decimal separator (default \",\")",
   "    -l, --language LANG    Language for error messages (en, de)",
   "    --messages FILE        Additional message catalog (TOML file)",
   "    --inputs               List generated inputs",
   "    --allow-plain          Accept templates without placeholders",
   "    -g, --grammar          Show placeholder grammar reference",
   "    -h, --help             Print help",
   "",
   "QUICK START:",
   "    textplate '\x7bn:I\x7d \x7bn:I|0|item|items\x7d' --set n=1",
   "",
   "Run --grammar for the placeholder syntax."]

/-- The reference of the placeholder grammar. -/
def grammarPage : List String :=
  ["TEXTPLATE PLACEHOLDER GRAMMAR",
   "=============================",
   "",
   "PLACEHOLDERS",
   "------------",
   "\x7bNAME:FORMAT|MAPPING|...\x7d   Declare a variable",
   "\x7b:FORMAT\x7d                  Declare with a generated name (e.g. \"Integer 1\")",
   "\x7bNAME\x7d                     Reuse an earlier variable with its format",
   "\x7bNAME:FORMAT\x7d              Reuse with a different format of the same type",
   "",
   "Names start with a letter and may not contain ':', '\x7b' or '\x7d'.",
   "A '\x7b' without a matching '\x7d' is plain text.",
   "",
   "TYPES",
   "-----",
   "B                Boolean, renders 0 / 1",
   "BNY              Boolean with one character for off / on",
   "B|off|on         Boolean with texts for off / on",
   "I                Integer",
   "F[n] N[n]        Number, fixed / grouped with n decimals (default 2)",
   "P[n]             Number as percent",
   "G[n]             Number, shortest or n significant digits",
   "S                Text",
   "",
   "NUMERIC MAPPINGS (I, F, N, P, G)",
   "--------------------------------",
   "|a|b|c           Implicit: 0 -> a, 1 -> b, 2 -> c (integers only)",
   "|5=five          Exact value",
   "|0..10=low       Inclusive range",
   "|>0..<10=inner   Exclusive bounds",
   "|..0=negative    Open lower bound",
   "|100..=large     Open upper bound",
   "",
   "Implicit and explicit mappings cannot be mixed. The first matching",
   "mapping wins; without a match the formatted value is shown.",
   "",
   "TEXT MAPPINGS (S)",
   "-----------------",
   "|old=new         Replace every 'old' with 'new', applied in order",
   "",
   "VALUES",
   "------",
   "Unassigned inputs render as '?'.",
   "Booleans accept true, false, 1, 0."]

end TypedTemplate.CommandLine
