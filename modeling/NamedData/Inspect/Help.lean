/-
Help pages of the command line.

A page says what a command is about and how it is called, and lists the commands below it, its
operand and its options, each with a remark in a second column.

* `HelpPage.text` — a page as it is shown.
-/

namespace NamedData.Inspect

/-- What a help page says. -/
structure HelpPage where
  /-- The words of the command, the program's name apart. -/
  path : List String
  /-- What the command is about. -/
  about : String
  /-- The commands below it, and what they are about. -/
  commands : List (String × String) := []
  /-- Its operand as it is called, with a remark. -/
  operand : Option (String × String) := none
  /-- Its options, with remarks. -/
  options : List (String × String) := []
deriving DecidableEq, Repr

namespace HelpPage

/-- The name of the program. -/
def program : String := "ndnx-inspect"

/-- Lines of two columns, the second one two blanks after the longest entry of the first. -/
def columns (rows : List (String × String)) : List String :=
  let width := (rows.map fun row => row.1.length).foldl max 0
  rows.map fun (label, remark) =>
    "  " ++ label ++ String.ofList (List.replicate (width + 2 - label.length) ' ') ++ remark

/-- A list under a title, unless it is empty. -/
def titled (title : String) (rows : List (String × String)) : List String :=
  if rows.isEmpty then [] else [title ++ ":\n" ++ "\n".intercalate (columns rows)]

/-- How the command is called. -/
def usage (page : HelpPage) : String :=
  let options := if page.options.isEmpty then [] else ["[OPTIONS]"]
  let command := if page.commands.isEmpty then [] else ["<COMMAND>"]
  "Usage: " ++ " ".intercalate
    ([program] ++ page.path ++ options ++ (page.operand.map Prod.fst).toList ++ command)

/-- The page as it is shown. -/
def text (page : HelpPage) : String :=
  "\n\n".intercalate
    ([page.about, page.usage] ++ titled "Commands" page.commands ++
      titled "Arguments" page.operand.toList ++ titled "Options" page.options) ++ "\n"

end HelpPage

end NamedData.Inspect
