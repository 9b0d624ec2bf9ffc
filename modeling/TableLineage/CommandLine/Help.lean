import TableLineage.CommandLine.Arguments

/-!
# Help pages

A page says what a command is for, how it is called and what it understands.
What it understands is listed in two columns, the second of which starts at
the same place within a list.
-/

namespace TableLineage.CommandLine

structure HelpLine where
  name : String
  about : String
deriving DecidableEq, Repr

structure HelpList where
  heading : String
  lines : List HelpLine
deriving DecidableEq, Repr

structure HelpPage where
  about : String
  usage : String
  lists : List HelpList
deriving DecidableEq, Repr

def Effect.takesValue : Effect δ → Bool
  | .flag _ => false
  | .value _ => true

/-- The value of a switch is called by the name of the switch in capitals. -/
def Switch.helpLine (switch : Switch δ) : HelpLine where
  name :=
    (match switch.short with
      | some letter => s!"-{letter}, "
      | none => "    ") ++
    "--" ++ switch.long ++
    (if switch.effect.takesValue then s!" <{switch.long.toUpper}>" else "")
  about := switch.about

def helpSwitchLine : HelpLine := ⟨s!"-{Usage.helpLetter}, --{Usage.helpName}", "Print help"⟩

def HelpLine.text (width : Nat) (line : HelpLine) : String :=
  "  " ++ line.name ++ String.ofList (List.replicate (width - line.name.length) ' ') ++ "  " ++
    line.about ++ "\n"

def HelpList.width (list : HelpList) : Nat :=
  list.lines.foldl (fun width line => max width line.name.length) 0

def HelpList.text (list : HelpList) : String :=
  "\n" ++ list.heading ++ ":\n" ++ String.join (list.lines.map (HelpLine.text list.width))

def HelpPage.text (page : HelpPage) : String :=
  page.about ++ "\n\nUsage: " ++ page.usage ++ "\n" ++
    String.join (page.lists.map HelpList.text)

end TableLineage.CommandLine
