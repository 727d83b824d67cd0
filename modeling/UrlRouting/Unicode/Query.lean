import UrlRouting.Unicode.Class
import UrlRouting.Unicode.Script
import UrlRouting.Unicode.Segmentation
import UrlRouting.Unicode.Age
import UrlRouting.Unicode.Name

/-! Sets of characters looked up by the name of a property, or by a property and one of its
values. Names are compared without case, blanks, hyphens, underscores and a leading `is`. -/

namespace UrlRouting.Unicode

def significant (name : List Char) : List Char :=
  (name.filter fun c => decide (c.toNat < 128) && c != ' ' && c != '_' && c != '-').map asciiLower

def normalName (name : List Char) : String :=
  match name with
  | a :: b :: rest =>
    if asciiLower a == 'i' && asciiLower b == 's' then
      let kept := significant rest
      if kept == ['c'] then "isc" else String.ofList kept
    else String.ofList (significant name)
  | _ => String.ofList (significant name)

def categoryByName (name : String) : Option CharSet :=
  if name = "any" then some CharSet.all
  else if name = "assigned" then some assigned
  else if name = "ascii" then some ⟨[(0, 127)]⟩
  else (categoryNames.lookup name).map fun keys =>
    let listed := categoryUnion (keys.filter (· != "Cn"))
    if keys.contains "Cn" then listed.union assigned.compl else listed

def scriptByName (name : String) : Option CharSet :=
  (scriptNames.lookup name).bind (lookupSet? scripts)

def scriptExtensionByName (name : String) : Option CharSet :=
  (scriptNames.lookup name).bind fun code =>
    match lookupSet? scriptExtensions code with
    | some set => some set
    | none => lookupSet? scripts code

/-- The characters assigned in a version or one before it. The version is written `3.0` or
`v30`. -/
def ageByName (name : String) : Option CharSet :=
  let spelled (version : String) : Bool :=
    name == version || name == String.ofList ('v' :: version.toList.filter (· != '.'))
  let later := (ages.map (·.1)).dropWhile fun version => !spelled version
  if later.isEmpty then none
  else some <| CharSet.ofRanges <|
    ((ages.take (ages.length - later.length + 1)).flatMap fun row => (unpack row.2).ranges)

/-- The set named by a property alone: a binary property, a category or a script. Three short
names belong both to a category and to a property that is not binary; they mean the category. -/
def classByName (name : List Char) : Option CharSet :=
  let key := normalName name
  let asProperty :=
    if key = "cf" ∨ key = "sc" ∨ key = "lc" then none
    else (propertyNames.lookup key).bind (lookupSet? properties)
  match asProperty with
  | some set => some set
  | none =>
    match categoryByName key with
    | some set => some set
    | none => scriptByName key

def classByValue (property value : List Char) : Option CharSet :=
  let value := normalName value
  let breakClass (key : String) : Option CharSet :=
    (breakClassNames.lookup (key ++ "=" ++ value)).bind (lookupSet? breakClasses)
  match normalName property with
  | "gc" | "generalcategory" | "category" => categoryByName value
  | "sc" | "script" => scriptByName value
  | "scx" | "scriptextensions" => scriptExtensionByName value
  | "age" => ageByName value
  | "gcb" | "graphemeclusterbreak" => breakClass "graphemeclusterbreak"
  | "wb" | "wordbreak" => breakClass "wordbreak"
  | "sb" | "sentencebreak" => breakClass "sentencebreak"
  | _ => none

end UrlRouting.Unicode
