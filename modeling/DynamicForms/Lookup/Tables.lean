import DynamicForms.Text.Blank
import DynamicForms.Text.Case
import DynamicForms.Lookup.Response
import DynamicForms.Value.Display

/-!
# `DynamicForms.Lookup.Tables` — the built-in lookups

Two lookups are built in: the city of a Bulgarian postal code, and the company of a VAT number. Each
takes its key from the first of several parameters that is given, without the white space around it;
the case of a VAT number does not matter.

## Contents
- `firstGiven`, `normalized`: the key among the parameters.
- `addressTable`, `companyTable`.
- `lookupAddress`, `lookupCompany`.
-/

namespace DynamicForms.Tables

/-- The value of the first name that has one; null if none has. -/
def firstGiven (params : Value.Object) (names : List String) : Value :=
  (names.findSome? fun name => (params.get? name).filter (!·.isNull)).getD .null

/-- A parameter as a key: its text without the white space around it; nothing for null. -/
def normalized : Value → String
  | .null => ""
  | v => Text.strip v.shown

/-- The entries of an object of texts. -/
def texts (entries : List (String × String)) : Value.Object :=
  entries.map fun (name, s) => (name, .text s)

/-- A city with its region. -/
def city (name state region : String) : Value.Object :=
  texts [("city", name), ("state", state), ("region", region), ("country", "Bulgaria")]

/-- Cities by postal code. -/
def addressTable : Entries Value.Object := [
  ("1000", city "Sofia" "Sofia City" "Sofia City"),
  ("4000", city "Plovdiv" "Plovdiv" "Plovdiv"),
  ("5000", city "Veliko Tarnovo" "Veliko Tarnovo" "Veliko Tarnovo"),
  ("6000", city "Stara Zagora" "Stara Zagora" "Stara Zagora"),
  ("7000", city "Ruse" "Ruse" "Ruse"),
  ("8000", city "Burgas" "Burgas" "Burgas"),
  ("9000", city "Varna" "Varna" "Varna")]

/-- A company with its address. -/
def company (name address town : String) : Value.Object :=
  texts [("companyName", name), ("address", address), ("companyAddress", address), ("city", town),
    ("companyCity", town)]

/-- Companies by VAT number. -/
def companyTable : Entries Value.Object := [
  ("BG123456789", company "Tech Solutions Ltd" "123 Main St" "Sofia"),
  ("DE123456789", company "Berlin Data GmbH" "Alexanderplatz 8" "Berlin")]

/-- The parameters that may hold a postal code. -/
def postalCodeNames : List String :=
  ["zipCode", "postalCode", "personalPostalCode", "businessPostalCode"]

/-- The parameters that may hold a VAT number. -/
def vatNumberNames : List String :=
  ["vatNumber", "companyVatNumber", "businessVatNumber"]

/-- The city of a postal code. -/
def lookupAddress (params : Value.Object) : Response :=
  let code := normalized (firstGiven params postalCodeNames)
  if code.isEmpty then .failed "Postal code is required for address auto-fill"
  else
    match addressTable.get? code with
    | some data => .found data
    | none => .failed ("No Bulgarian city found for postal code " ++ code)

/-- The company of a VAT number. -/
def lookupCompany (params : Value.Object) : Response :=
  let number := Text.upper (normalized (firstGiven params vatNumberNames))
  if number.isEmpty then .failed "VAT number is required for company auto-fill"
  else
    match companyTable.get? number with
    | some data => .found data
    | none => .failed ("No company found for VAT number " ++ number)

end DynamicForms.Tables
