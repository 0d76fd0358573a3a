import CachePurge.Vendor.Fastly

/-!
Which vendor the settings name, and whether they make a usable backend. Settings that do not are
no error: there is then no backend.
-/

namespace CachePurge

namespace Vendor

inductive Name where
  | fastly
  deriving DecidableEq, Repr

def Name.toText : Name → String
  | .fastly => Fastly.name

/-- The vendor of a name, whatever blanks stand around it and in whichever case it is. -/
def Name.ofText (text : String) : Except Fault Name :=
  let name := String.ofList ((Blank.trim text).toList.map Char.toLower)
  if name == Fastly.name then .ok .fastly
  else .error (.configuration ("unknown CDN vendor: " ++ name))

/-- Whether the settings have what a vendor asks for. -/
def Name.validates : Name → VendorSettings → Bool
  | .fastly => Fastly.validates

/-- The one kind of backend that there is so far. -/
abbrev Backend := Fastly

def Name.build : Name → VendorSettings → (site : String) → Except Fault Backend
  | .fastly => Fastly.ofSettings

/-- The backend that settings make, if they make one. -/
def select (settings : Option VendorSettings) (site : String) : Option Backend := do
  let settings ← settings
  match Name.ofText settings.vendor with
  | .error _ => none
  | .ok vendor =>
    if vendor.validates settings then (vendor.build settings site).toOption else none

end Vendor
end CachePurge
