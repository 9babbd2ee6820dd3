import WildcardRules.Unicode.AgeTable
import WildcardRules.Unicode.Breaks

set_option autoImplicit false

namespace WildcardRules.Unicode

-- The part of a name that makes a difference. Where nothing but a `c` follows a leading `is`, the
-- whole is a name of its own.
def plainName (name : Text) : Text :=
  let plain := fun (t : Text) =>
    (t.filter fun c => c != ' ' && c != '_' && c != '-' && c.toNat < 0x80).map Char.toLower
  match name with
  | a :: b :: rest =>
      if a.toLower = 'i' ∧ b.toLower = 's' then
        if plain rest = ['c'] then ['i', 's', 'c'] else plain rest
      else plain name
  | _ => plain name

def isNamed (names : List String) (name : Text) : Bool :=
  names.any fun known => plainName known.toList == name

def lookupName {α : Type} (table : List (List String × α)) (name : Text) : Option α :=
  (table.find? fun entry => isNamed entry.1 name).map Prod.snd

def propertySet? (name : Text) : Option CharSet :=
  lookupName derivedProperties name <|> (lookupName propertyRanges name).map setOf

def scriptName? (name : Text) : Option Text :=
  (namesOfScripts.find? fun names => names.any fun known => plainName known == name).bind
    List.head?

def scriptSet? (name : Text) : Option CharSet :=
  (scriptName? name).map fun short => setOfRuns (· == short) scripts

def categorySet? (name : Text) : Option CharSet :=
  if name = "ascii".toList then some .ascii
  else (lookupName Category.named name).map Category.set

def isVersion (version name : Text) : Bool :=
  name == version || name == 'v' :: version.filter (· != '.')

def ageSet? (name : Text) : Option CharSet :=
  let isOther := fun (entry : String × List String) => !isVersion entry.1.toList name
  (ages.find? fun entry => !isOther entry).map fun last =>
    .unions ((last :: ages.takeWhile isOther).map fun entry => setOf entry.2)

inductive NameFault where
  | property
  | value
deriving DecidableEq

def isVacant (name : Text) : Bool :=
  isNamed ["Cs", "Surrogate", "Zzzz", "Unknown", "Hrkt", "Katakana_Or_Hiragana"] name

def setNamed (name : Text) : Except NameFault CharSet :=
  let name := plainName name
  if isVacant name then .error .value
  else
    match propertySet? name <|> categorySet? name <|> scriptSet? name with
    | some s => .ok s
    | none => .error .property

def valuedProperties : List (List String × (Text → Option CharSet)) :=
  [(["gc", "General_Category"], categorySet?),
    (["sc", "Script"], scriptSet?),
    (["scx", "Script_Extensions"], fun name => (scriptName? name).map usedWith),
    (["Age"], ageSet?),
    (["GCB", "Grapheme_Cluster_Break"], lookupName graphemeBreaks),
    (["WB", "Word_Break"], lookupName wordBreaks),
    (["SB", "Sentence_Break"], lookupName sentenceBreaks)]

def setWith (property value : Text) : Except NameFault CharSet :=
  let value := plainName value
  match lookupName valuedProperties (plainName property) with
  | none => .error .property
  | some find =>
      if isVacant value then .error .value
      else
        match find value with
        | some s => .ok s
        | none => .error .value

end WildcardRules.Unicode
