import KqlCompletion.Number.Binary64
import KqlCompletion.Text.CodePoint

/-! JSON values. Integers have any size and are kept apart from other numbers; the members of an
object keep the order in which their names first came. -/
namespace KqlCompletion.Json

open Number (Binary64)

inductive Value where
  | null
  | bool (b : Bool)
  | int (n : Int)
  | float (x : Binary64)
  | str (text : Text)
  | arr (items : List Value)
  | obj (members : List (Text × Value))
  deriving Repr, Inhabited

abbrev Members := List (Text × Value)

namespace Members

def get? (members : Members) (name : Text) : Option Value :=
  (members.find? (·.1 == name)).map (·.2)

/-- A name that is there keeps its place and gets the new value. -/
def insert (name : Text) (value : Value) : Members → Members
  | [] => [(name, value)]
  | member :: rest =>
    if member.1 == name then (name, value) :: rest else member :: insert name value rest

@[simp] theorem get?_insert_self (name : Text) (value : Value) (members : Members) :
    get? (insert name value members) name = some value := by
  fun_induction insert name value members <;> simp_all [get?]

theorem get?_insert_of_ne {name other : Text} (h : other ≠ name) (value : Value)
    (members : Members) : get? (insert name value members) other = get? members other := by
  fun_induction insert name value members with
  | case1 => simp [get?, h.symm]
  | case2 member rest same =>
    have : member.1 ≠ other := by simpa [eq_of_beq same] using h.symm
    simp [get?, h.symm, this]
  | case3 member rest differs ih =>
    by_cases first : member.1 = other
    · simp [get?, first]
    · simpa [get?, first] using ih

end Members

namespace Value

def str? : Value → Option Text
  | str text => some text
  | _ => none

def string? (v : Value) : Option String := v.str?.map Text.shown

/-- What counts as a yes: neither null nor false, nor zero, nor empty. -/
def isYes : Value → Bool
  | null => false
  | bool b => b
  | int n => n != 0
  | float (.finite _ mantissa _) => mantissa != 0
  | float _ => true
  | str text => !text.isEmpty
  | arr items => !items.isEmpty
  | obj members => !members.isEmpty

end Value
end KqlCompletion.Json
