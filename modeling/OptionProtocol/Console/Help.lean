/-! What the command tells about itself. -/

set_option autoImplicit false

namespace OptionProtocol.Help

def program : String := "optionhandler-gen"

def versionText : String := program ++ " 0.1.0"

/-- How the command is used, in lines of at most eighty characters. -/
def usage : List String := [
  "usage: " ++ program ++ " [-h] [--configuration JSON [JSON ...]]",
  "                         [--output-dir DIR] [--add-package-structure]",
  "                         [--generate-dirs] [--stdout] [--keep-going]",
  "                         [--language LANGUAGE] [--config FILE] [--no-comments]",
  "                         [--copyright-year YEAR]",
  "                         [--module-case \x7bsnake,original\x7d] [--list-languages]",
  "                         [--verbose] [--version]"]

def options : List String := [
  "options:",
  "  -h, --help            show this help message and exit",
  "  --configuration JSON [JSON ...]",
  "                        JSON class definition file(s) or http(s) URL(s)",
  "  --output-dir DIR      Directory to write the generated modules to (must exist)",
  "  --add-package-structure",
  "                        Place modules in sub-directories mirroring the package",
  "  --generate-dirs       Create missing package directories",
  "  --stdout              Print the generated code instead of writing files",
  "  --keep-going          Continue with the remaining definitions after a failure"]

def generationOptions : List String := [
  "generation options:",
  "  --language LANGUAGE, -l LANGUAGE",
  "                        Target language (default: python)",
  "  --config FILE         JSON configuration file for code generation",
  "  --no-comments         Don't generate docstrings in output code",
  "  --copyright-year YEAR",
  "                        Year for the copyright notice (default: current year)",
  "  --module-case \x7bsnake,original\x7d",
  "                        File name style of generated modules"]

def information : List String := [
  "information:",
  "  --list-languages      List supported target languages and exit",
  "  --verbose, -v         Output debugging information",
  "  --version             show program's version number and exit"]

def examples : List String := [
  "Examples:",
  "  optionhandler-gen --configuration my_svm.json --output-dir src",
  "  optionhandler-gen --configuration a.json b.json --output-dir src " ++
    "--add-package-structure --generate-dirs",
  "  optionhandler-gen --configuration my_svm.json --stdout",
  "  optionhandler-gen --list-languages"]

def lines : List String :=
  usage ++ ["", "Generate option handler superclasses from JSON class definitions", ""] ++
    options ++ [""] ++ generationOptions ++ [""] ++ information ++ [""] ++ examples

end OptionProtocol.Help
