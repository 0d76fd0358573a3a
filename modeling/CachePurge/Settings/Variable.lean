import CachePurge.Unicode.Lower

/-!
Environment variables as settings. Only variables whose name begins with a mark count; the mark is
taken off as often as it repeats and what is left turns to lower case.
-/

namespace CachePurge

/-- Why a text is no number below `2^64`. -/
inductive NumberFlaw where
  | empty
  | notDigit
  | tooLarge
  deriving DecidableEq, Repr

def NumberFlaw.message : NumberFlaw → String
  | .empty => "cannot parse integer from empty string"
  | .notDigit => "invalid digit found in string"
  | .tooLarge => "number too large to fit in target type"

inductive EnvironmentFault where
  | duplicate (field : String)
  | missing (field : String)
  | badNumber (flaw : NumberFlaw) (value name : String)
  deriving DecidableEq, Repr

def EnvironmentFault.message : EnvironmentFault → String
  | .duplicate field => "duplicate field \x60" ++ field ++ "\x60"
  | .missing field => "missing value for field " ++ field
  | .badNumber flaw value name =>
    flaw.message ++ " while parsing value '" ++ value ++ "' provided by " ++ name

/-- A variable of the environment as it is given. -/
structure Variable where
  name : String
  value : String
  deriving DecidableEq, Repr

/-- A variable that counts: what its name is short of the mark, and the field it stands for. -/
structure Entry where
  given : String
  field : String
  value : String
  deriving DecidableEq, Repr

namespace Variable

/-- Takes a mark off the front of a text as often as it stands there. -/
def strip (mark text : List Char) : List Char :=
  if mark.isEmpty then text
  else if mark.isPrefixOf text then strip mark (text.drop mark.length)
  else text
termination_by text.length
decreasing_by
  rename_i hm hp
  have := (List.isPrefixOf_iff_prefix.1 hp).length_le
  have : 0 < mark.length := by cases mark <;> simp_all
  simp only [List.length_drop]
  omega

def reduce? (mark : String) (v : Variable) : Option Entry :=
  if mark.toList.isPrefixOf v.name.toList then
    let given := String.ofList (strip mark.toList v.name.toList)
    some ⟨given, Unicode.toLower given, v.value⟩
  else none

def entries (mark : String) (vars : List Variable) : List Entry := vars.filterMap (reduce? mark)

end Variable

/-- Reads the digits of a number below `2^64`, and stops at the first that does not fit. -/
def readDigits : (total : Nat) → List Char → Except NumberFlaw UInt64
  | total, [] => .ok total.toUInt64
  | total, c :: rest =>
    if !c.isDigit then .error .notDigit
    else
      let next := total * 10 + (c.toNat - 48)
      if UInt64.size ≤ next then .error .tooLarge else readDigits next rest

/-- A number below `2^64`, perhaps after a plus sign. -/
def readNumber (text : String) : Except NumberFlaw UInt64 :=
  match text.toList with
  | [] => .error .empty
  | ['+'] => .error .notDigit
  | '+' :: digits => readDigits 0 digits
  | digits => readDigits 0 digits

def Entry.number (e : Entry) : Except EnvironmentFault UInt64 :=
  match readNumber e.value with
  | .ok n => .ok n
  | .error flaw => .error (.badNumber flaw e.value e.given)

end CachePurge
