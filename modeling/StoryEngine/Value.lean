import StoryEngine.Decimal.Layout
import StoryEngine.Text.Quoted

/-!
# Values

What a quality of the story can be: nothing, a truth value, a number or a text.

* `Value.same` — strict equality, within one kind only; the undefined number equals nothing.
* `Value.isTruthy` — how a value counts where a condition asks for yes or no.
* `Value.display` — a value in a message; `Value.literal` — a value inside a description.
* `Datum.toValue` — a piece of foreign data as a value; collections are refused.
-/

namespace StoryEngine

/-- A value of a quality. -/
inductive Value where
  | null
  | bool (b : Bool)
  | number (x : Float)
  | text (s : String)

namespace Value

/-- A quality that was never given a value has none. -/
instance : Inhabited Value := ⟨.null⟩

/-- **Strict equality.**  Values of different kinds differ, and numbers are compared as numbers: the
two zeros are equal and the undefined number differs from itself. -/
def same : Value → Value → Bool
  | .null, .null => true
  | .bool a, .bool b => a == b
  | .number x, .number y => x == y
  | .text s, .text t => s == t
  | _, _ => false

instance : BEq Value := ⟨same⟩

/-- **How a value counts as yes or no.**  Nothing, `false`, the zeros, the undefined number and the
empty text count as no. -/
def isTruthy : Value → Bool
  | .null => false
  | .bool b => b
  | .number x => x != 0 && !x.isNaN
  | .text s => !s.isEmpty

/-- Whether there is no value. -/
def isNull : Value → Bool
  | .null => true
  | _ => false

/-- The truth value, if it is one. -/
def bool? : Value → Option Bool
  | .bool b => some b
  | _ => none

/-- The number, if it is one. -/
def number? : Value → Option Float
  | .number x => some x
  | _ => none

/-- The text, if it is one. -/
def text? : Value → Option String
  | .text s => some s
  | _ => none

/-- The name of a value's kind. -/
def kind : Value → String
  | .null => "null"
  | .bool _ => "bool"
  | .number _ => "number"
  | .text _ => "text"

/-- A value in a message: a text is quoted, so that it cannot be taken for another kind. -/
def display : Value → String
  | .null => "null"
  | .bool b => if b then "true" else "false"
  | .number x => Decimal.Layout.plain.write x
  | .text s => Text.Quoted.text s

/-- A value inside a description, with the name of its kind. -/
def literal : Value → String
  | .null => "Null"
  | .bool b => "Bool(" ++ (if b then "true" else "false") ++ ")"
  | .number x => "Number(" ++ Decimal.Layout.literal.write x ++ ")"
  | .text s => "Text(" ++ Text.Quoted.text s ++ ")"

/-- An integer, rounded to the nearest number there is. -/
def ofInt (i : Int) : Value :=
  .number (Float.ofInt i)

/-- **What is left of a value that was stored as data and read back.**  Data can hold finite numbers
only; the others are stored as nothing. -/
def stored : Value → Value
  | .number x => if x.isNaN || x.isInf then .null else .number x
  | v => v

/-- Only nothing equals nothing. -/
theorem same_null_iff {v : Value} : v.same .null = true ↔ v.isNull = true := by
  cases v <;> simp [same, isNull]

end Value

/-! ## Foreign data -/

/-- The collections that data can hold and a quality cannot. -/
inductive Collection where
  | array
  | object
  deriving DecidableEq, Repr

/-- A piece of foreign data: a value, or a collection, of which only the kind matters. -/
inductive Datum where
  | scalar (v : Value)
  | collection (c : Collection)

instance : Inhabited Datum := ⟨.scalar .null⟩

/-- Why a piece of data is no value. -/
inductive ValueFault where
  | unsupported (c : Collection)
  deriving DecidableEq, Repr

/-- The name of a kind of collection. -/
def Collection.name : Collection → String
  | .array => "array"
  | .object => "object"

/-- The wording of a refused piece of data. -/
def ValueFault.message : ValueFault → String
  | .unsupported c => "unsupported value type: " ++ c.name ++ " (state values must be scalars)"

/-- **A piece of data as a value**; collections are refused. -/
def Datum.toValue : Datum → Except ValueFault Value
  | .scalar v => .ok v
  | .collection c => .error (.unsupported c)

end StoryEngine
