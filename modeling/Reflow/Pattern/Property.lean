import Reflow.Pattern.CharSet
import Reflow.Unicode.Age
import Reflow.Unicode.Category
import Reflow.Unicode.Script
import Reflow.Unicode.Segmentation
import Reflow.Unicode.Trait

/-!
# Classes named by a Unicode property

A class may be given by the name of a property that its members have, by a general category, by a
script, or by a property together with its value. Names are compared without regard to case, blanks,
hyphens and low lines, and `is` may stand before a name.
-/

namespace Reflow.Property

open Unicode

/-- The name in the form in which names are compared. Characters beyond ASCII do not count. Since
`isc` abbreviates a property of its own, it does not shrink to `c`. -/
def plainName (name : Text) : String :=
  let plain (name : Text) : Text :=
    (name.filter fun char => char.toNat < 128 && char != ' ' && char != '_' && char != '-').map
      Char.toLower
  match name with
  | first :: second :: rest =>
      if first.toLower == 'i' && second.toLower == 's' then
        if plain rest == ['c'] then "isc" else String.ofList (plain rest)
      else String.ofList (plain name)
  | name => String.ofList (plain name)

/-- The set that an entry of a table lists. -/
def find? (entries : List NamedRanges) (name : String) : Option CharSet :=
  (NamedRanges.find? entries name).map .listed

/-- The set that an entry of a table lists; it is empty without such an entry. -/
def entry (entries : List NamedRanges) (name : String) : CharSet :=
  (find? entries name).getD .none

/-- Characters of several general categories. -/
def inCategories (names : List String) : CharSet :=
  .unions (names.map (entry categories))

/-- Characters that some general category has. -/
def assigned : CharSet :=
  .unions (categories.map fun category => .listed (CodeRanges.ofLines category.lines))

/-- The characters of a general category or of a group of them. -/
def category? (name : String) : Option CharSet :=
  match name with
  | "any" => some .all
  | "ascii" => some (.range '\x00' '\x7f')
  | "assigned" => some assigned
  | "cn" | "unassigned" => some (.complement assigned)
  | "c" | "other" =>
      some (.union (.complement assigned) (inCategories ["cc", "cf", "co"]))
  | name =>
      match categoryGroups.find? (·.1.contains name) with
      | some group => some (inCategories group.2)
      | none => find? categories name

/-- The characters that belong to a script. -/
def script? (name : String) : Option CharSet :=
  find? scripts name

/-- The characters that are used with a script. -/
def scriptUse? (name : String) : Option CharSet :=
  match scripts.find? (·.names.contains name) with
  | some script =>
      match script.names with
      | name :: _ =>
          some (.difference
            (.union (.listed (CodeRanges.ofLines script.lines)) (entry scriptUses name))
            (entry scriptExceptions name))
      | [] => none
  | none => none

/-- The characters that were assigned in a version of Unicode or before. -/
def age? (name : String) : Option CharSet :=
  match ages.findIdx? (·.names.contains name) with
  | some index =>
      some (.unions ((ages.take (index + 1)).map fun age => .listed (CodeRanges.ofLines age.lines)))
  | none => none

/-! ## Binary properties that follow from others -/

/-- The characters with a binary property that is listed. -/
def listedTrait (name : String) : CharSet :=
  entry traits name

/-- The property Lowercase. -/
def lowercase : CharSet :=
  .union (inCategories ["ll"]) (listedTrait "olower")

/-- The property Uppercase. -/
def uppercase : CharSet :=
  .union (inCategories ["lu"]) (listedTrait "oupper")

/-- The signs that patterns of programs are made of. -/
def patternSigns : CharSet :=
  .union (listedTrait "patsyn") (listedTrait "patws")

/-- The property ID_Start. -/
def identifierStart : CharSet :=
  .difference (.union (inCategories ["lu", "ll", "lt", "lm", "lo", "nl"]) (listedTrait "oids"))
    patternSigns

/-- The property ID_Continue. -/
def identifierContinue : CharSet :=
  .difference
    (.unions [identifierStart, inCategories ["mn", "mc", "nd", "pc"], listedTrait "oidc"])
    patternSigns

/-- The characters that may continue an identifier before normalization only. -/
def unstableContinue : CharSet :=
  .listed (CodeRanges.ofLines ["37A 309B-309C FC5E-FC63 FDFA-FDFB FE70-FE7E/2"])

/-- The characters that may start an identifier before normalization only. -/
def unstableStart : CharSet :=
  .union unstableContinue (.listed (CodeRanges.ofLines ["E33 EB3 FF9E-FF9F"]))

/-- The property Grapheme_Extend. -/
def graphemeExtend : CharSet :=
  .union (inCategories ["me", "mn"]) (listedTrait "ogrext")

/-- The characters with a binary property. -/
def trait? (name : String) : Option CharSet :=
  match name with
  | "alpha" | "alphabetic" =>
      some (.unions [lowercase, uppercase, inCategories ["lt", "lm", "lo", "nl"],
        listedTrait "oalpha"])
  | "lower" | "lowercase" => some lowercase
  | "upper" | "uppercase" => some uppercase
  | "cased" => some (.unions [lowercase, uppercase, inCategories ["lt"]])
  | "ci" | "caseignorable" =>
      some (.unions [inCategories ["mn", "me", "cf", "lm", "sk"],
        entry wordBreaks "midletter", entry wordBreaks "midnumlet", entry wordBreaks "singlequote"])
  | "cwcm" | "changeswhencasemapped" =>
      some (.unions [listedTrait "cwl", listedTrait "cwt", listedTrait "cwu"])
  | "math" => some (.union (inCategories ["sm"]) (listedTrait "omath"))
  | "ids" | "idstart" => some identifierStart
  | "idc" | "idcontinue" => some identifierContinue
  | "xids" | "xidstart" => some (.difference identifierStart unstableStart)
  | "xidc" | "xidcontinue" => some (.difference identifierContinue unstableContinue)
  | "grext" | "graphemeextend" => some graphemeExtend
  | "grbase" | "graphemebase" =>
      some (.difference assigned
        (.union (inCategories ["cc", "cf", "co", "zl", "zp"]) graphemeExtend))
  | "di" | "defaultignorablecodepoint" =>
      some (.difference (.unions [listedTrait "odi", inCategories ["cf"], listedTrait "vs"])
        (.unions [listedTrait "wspace", .listed [(0xFFF9, 0xFFFB), (0x13430, 0x1343F)],
          listedTrait "pcm"]))
  | name => find? traits name

/-- The class that a single name stands for: a binary property, a general category or a script. -/
def named? (name : Text) : Option CharSet :=
  let name := plainName name
  (trait? name).or ((category? name).or (script? name))

/-- The class of the characters for which a property has a value. -/
def valued? (property value : Text) : Option CharSet :=
  let value := plainName value
  match plainName property with
  | "gc" | "generalcategory" => category? value
  | "sc" | "script" => script? value
  | "scx" | "scriptextensions" => scriptUse? value
  | "age" => age? value
  | "gcb" | "graphemeclusterbreak" => find? graphemeBreaks value
  | "wb" | "wordbreak" => find? wordBreaks value
  | "sb" | "sentencebreak" => find? sentenceBreaks value
  | _ => none

end Reflow.Property
