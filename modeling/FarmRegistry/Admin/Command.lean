import FarmRegistry.CommandLine.Options
import FarmRegistry.Service.Requests
import FarmRegistry.Sql.Migration

namespace FarmRegistry.Admin

open CommandLine

inductive Command where
  | migrate
  | detectOverlaps
  | rebuildIndex
  | registerFarmer (farmerId : FarmerId)
  | reconcile (farmerId : FarmerId)

structure Invocation where
  databaseUrl : Option String
  command : Command

def urlOption : OptionName :=
  ⟨"database-url", none, true⟩

def farmerOption : OptionName :=
  ⟨"farmer-id", none, true⟩

namespace Command

def farmer? (options : List (String × String)) : Option FarmerId := do
  (FarmerId.parse (← options.lookup farmerOption.name)).toOption

def parse? (name : String) (words : List String) : Option (Command × List (String × String)) :=
  let plain := fun (c : Command) => (onlyOptions [urlOption] words).map (c, ·)
  let ofFarmer := fun (c : FarmerId → Command) => do
    let options ← onlyOptions [urlOption, farmerOption] words
    return (c (← farmer? options), options)
  match name with
  | "migrate" => plain .migrate
  | "detect-overlaps" => plain .detectOverlaps
  | "rebuild-spatial-index" => plain .rebuildIndex
  | "register-farmer" => ofFarmer .registerFarmer
  | "reconcile" => ofFarmer .reconcile
  | _ => none

end Command

def Invocation.parse? (words : List String) : Option Invocation := do
  match ← takeOptions [urlOption] words with
  | (before, name :: rest) =>
    let (command, behind) ← Command.parse? name rest
    return ⟨behind.lookup urlOption.name <|> before.lookup urlOption.name, command⟩
  | (_, []) => none

end FarmRegistry.Admin
