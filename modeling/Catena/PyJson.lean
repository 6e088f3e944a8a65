import Catena.PyDict
import Catena.PyText
import Mathlib.Data.Rat.Init

/-!
# JSON values as Python holds them

What `json.loads` returns, with the operations the host programs apply to it:
truth, equality, and the blank test.  Two parts of Python's library stay
open and are carried as a `Builtins` value: the `repr` of a value and the
JSON reader itself.
-/

/-- A Python `float`: the number it denotes, the negative zero, or one of the
values that are no number. -/
inductive PyFloat where
  | finite (value : ℚ)
  | negZero
  | inf
  | negInf
  | nan
  deriving DecidableEq

/-- A value read from JSON. -/
inductive Json where
  | null
  | bool (value : Bool)
  | int (value : Int)
  | float (value : PyFloat)
  | str (value : String)
  | arr (items : List Json)
  | obj (fields : List (String × Json))

/-- The parts of Python's library left open: `repr(value)`, and
`json.loads(text)`, which is `none` where that raises. -/
structure Builtins where
  repr : Json → String
  loads : String → Option Json
  /-- Whether `json.loads` gives the text up with `RecursionError`, and not `ValueError`. -/
  tooDeep : String → Bool := fun _ => false

/-- Builtins for runs that print no value and read no JSON text. -/
def Builtins.unused : Builtins where
  repr _ := ""
  loads _ := none

/-- The exceptions that end a run. -/
inductive PyError where
  | valueError (message : String)
  | typeError
  | attributeError
  | indexError
  | recursionError
  | osError
  | systemExit (message : String)
  | exitStatus (code : Nat)
  deriving DecidableEq

namespace Json

/-- `bool(value)`. -/
def truthy : Json → Bool
  | null => false
  | bool value => value
  | int value => value != 0
  | float (.finite value) => value != 0
  | float .negZero => false
  | float _ => true
  | str value => value != ""
  | arr items => !items.isEmpty
  | obj fields => !fields.isEmpty

/-- `value is None or (isinstance(value, str) and not value.strip())`. -/
def blank : Json → Bool
  | null => true
  | str value => PyText.strip value == ""
  | _ => false

/-- The number a `bool`, an `int` or a finite `float` compares by. -/
def number : Json → Option ℚ
  | bool value => some (if value then 1 else 0)
  | int value => some value
  | float (.finite value) => some value
  | float .negZero => some 0
  | _ => none

mutual

/-- `left == right`. -/
def pyEq : Json → Json → Bool
  | null, null => true
  | str left, str right => left == right
  | arr left, arr right => pyEqItems left right
  | obj left, obj right =>
      left.length == right.length && pyEqFields left right
  | float .inf, float .inf => true
  | float .negInf, float .negInf => true
  | left, right =>
      match number left, number right with
      | some first, some second => first == second
      | _, _ => false

def pyEqItems : List Json → List Json → Bool
  | [], [] => true
  | left :: lefts, right :: rights =>
      pyEq left right && pyEqItems lefts rights
  | _, _ => false

def pyEqFields : List (String × Json) → List (String × Json) → Bool
  | [], _ => true
  | (key, left) :: rest, others =>
      (match PyDict.get others key with
        | some right => pyEq left right
        | none => false) && pyEqFields rest others

end

mutual

/-- Whether two values are built the same. -/
def same : Json → Json → Bool
  | null, null => true
  | bool left, bool right => left == right
  | int left, int right => left == right
  | float left, float right => left == right
  | str left, str right => left == right
  | arr left, arr right => sameItems left right
  | obj left, obj right => sameFields left right
  | _, _ => false

def sameItems : List Json → List Json → Bool
  | [], [] => true
  | left :: lefts, right :: rights => same left right && sameItems lefts rights
  | _, _ => false

def sameFields : List (String × Json) → List (String × Json) → Bool
  | [], [] => true
  | (key, left) :: lefts, (wanted, right) :: rights =>
      key == wanted && same left right && sameFields lefts rights
  | _, _ => false

end

mutual

theorem same_iff : (left right : Json) → (same left right = true ↔ left = right)
  | null, right => by cases right <;> simp [same]
  | bool _, right => by cases right <;> simp [same]
  | int _, right => by cases right <;> simp [same]
  | float _, right => by cases right <;> simp [same]
  | str _, right => by cases right <;> simp [same]
  | arr left, right => by cases right <;> simp [same, sameItems_iff left]
  | obj left, right => by cases right <;> simp [same, sameFields_iff left]

theorem sameItems_iff : (left right : List Json) → (sameItems left right = true ↔ left = right)
  | [], right => by cases right <;> simp [sameItems]
  | first :: rest, right => by
    cases right <;> simp [sameItems, same_iff first, sameItems_iff rest]

theorem sameFields_iff : (left right : List (String × Json)) →
    (sameFields left right = true ↔ left = right)
  | [], right => by cases right <;> simp [sameFields]
  | (key, first) :: rest, right => by
    cases right with
    | nil => simp [sameFields]
    | cons item others =>
      obtain ⟨wanted, second⟩ := item
      simp [sameFields, same_iff first, sameFields_iff rest]

end

instance : DecidableEq Json := fun left right =>
  decidable_of_iff (same left right = true) (same_iff left right)

/-- `str(value)`. -/
def toText (py : Builtins) : Json → String
  | str value => value
  | value => py.repr value

/-- `str(d.get(key) or "")`, for the value `d.get(key)`. -/
def textOr (py : Builtins) : Option Json → String
  | none => ""
  | some value => if value.truthy then value.toText py else ""

theorem textOr_str (py : Builtins) (text : String) :
    textOr py (some (.str text)) = text := by
  by_cases empty : text = ""
  · simp [textOr, truthy, empty]
  · simp [textOr, truthy, toText, empty]

/-- A string that is not blank. -/
def IsText : Json → Prop
  | str value => PyText.strip value ≠ ""
  | _ => False

theorem IsText.truthy {value : Json} (text : value.IsText) :
    value.truthy = true := by
  cases value with
  | str value =>
      have nonempty : value ≠ "" := by
        rintro rfl
        exact text PyText.strip_empty
      simpa [Json.truthy] using nonempty
  | _ => exact text.elim

theorem IsText.blank_eq_false {value : Json} (text : value.IsText) :
    value.blank = false := by
  cases value with
  | str value => simpa [Json.blank, IsText] using text
  | _ => exact text.elim

theorem pyEq_str_iff (value : Json) (text : String) :
    pyEq value (str text) = true ↔ value = str text := by
  cases value with
  | str other => simp [pyEq]
  | float value => cases value <;> simp [pyEq, number]
  | _ => simp [pyEq, number]

theorem str_pyEq_iff (text : String) (value : Json) :
    pyEq (str text) value = true ↔ value = str text := by
  cases value with
  | str other =>
      simp only [pyEq, beq_iff_eq, str.injEq]
      exact eq_comm
  | float value => cases value <;> simp [pyEq, number]
  | _ => simp [pyEq, number]

theorem blank_of_pyEq {current value : Json} (equal : pyEq current value = true)
    (blank : current.blank = true) : value.blank = true := by
  cases current with
  | null =>
      cases value with
      | null => rfl
      | float value => cases value <;> simp [pyEq, number] at equal
      | _ => simp [pyEq, number] at equal
  | str text =>
      rw [(str_pyEq_iff text value).mp equal]
      exact blank
  | _ => simp [Json.blank] at blank

end Json
